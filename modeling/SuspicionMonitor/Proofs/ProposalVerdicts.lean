import SuspicionMonitor.Proofs.SensorHistories

/-!
# Verdicts about proposals

If the rounds are proposed in ascending order, the verdict about a proposal can
be read off the calls since the last clearing.  The window still holds the round
before, and the last late proposal was that of the round before if that one was
late at all.
-/

namespace SuspicionMonitor

namespace Sensor

variable {sensor : Sensor} {settings : SensorSettings} {self sender : ReplicaId}
  {round : Round} {now sentAt : Nanos} {calls : List SensorCall}

theorem onTime_checkProposal_eq_false_iff :
    (sensor.checkProposal settings self now round sender sentAt).onTime = false ↔
      ∃ expectation previousSentAt, sensor.expectation = some expectation ∧ 0 < round ∧
        sender ≠ self ∧
        (sensor.noteProposal settings round sentAt).sent[round.previous]? = some previousSentAt ∧
        ((now.minus sentAt).exceeds expectation.propose settings.suspicionDelta = true ∨
          (sentAt.minus previousSentAt).exceeds expectation.round settings.suspicionDelta = true ∧
            (∃ request, sensor.lastRequest = some request ∧
              now.minus request < sentAt.minus previousSentAt) ∧
            sensor.lastDelayed ≠ some round.previous) := by
  unfold checkProposal
  dsimp only
  rw [expectation_noteProposal, lastRequest_noteProposal, lastDelayed_noteProposal]
  cases sensor.expectation with
  | none => simp [fine]
  | some expectation =>
      by_cases hchecked : 0 < round ∧ sender ≠ self
      · have hopen : (decide (round ≤ 0) || sender == self) = false := by
          simpa [Int32.not_le] using hchecked
        dsimp only
        rw [hopen, if_neg Bool.false_ne_true]
        cases (sensor.noteProposal settings round sentAt).sent[round.previous]? with
        | none => simp [fine]
        | some previousSentAt =>
            cases sensor.lastRequest with
            | none => simp [hchecked, apply_ite Check.onTime, fine]
            | some request =>
                simp [hchecked, apply_ite Check.onTime, fine, and_assoc, or_iff_not_imp_left]
      · have hclosed : (decide (round ≤ 0) || sender == self) = true := by
          simpa [Int32.not_lt, or_iff_not_imp_left] using hchecked
        dsimp only
        rw [hclosed, if_pos rfl]
        constructor
        · intro hlate
          contradiction
        · rintro ⟨-, -, -, hpositive, hsender, -⟩
          exact absurd ⟨hpositive, hsender⟩ hchecked

theorem isRecent_previous {history : Nat} {rounds : List Round} (hhistory : 2 ≤ history)
    (hpositive : 0 < round) (hbefore : ∀ earlier ∈ rounds, earlier < round)
    (hmem : round.previous ∈ rounds) : IsRecent history (rounds ++ [round]) round.previous := by
  refine ⟨List.mem_append_left _ hmem, ?_⟩
  have habove : (rounds ++ [round]).toFinset.filter (round.previous < ·) ⊆ {round} := by
    intro later hlater
    simp only [List.toFinset_append, Finset.mem_filter, Finset.mem_union, List.mem_toFinset,
      List.mem_singleton] at hlater
    rw [Finset.mem_singleton]
    refine hlater.1.resolve_left fun hlisted => ?_
    have hless := hbefore later hlisted
    have hgreater := hlater.2
    rw [Int32.lt_iff_toInt_lt] at hless hgreater
    rw [Round.toInt_previous hpositive] at hgreater
    omega
  have hone : ((rounds ++ [round]).toFinset.filter (round.previous < ·)).card ≤ 1 :=
    Finset.card_le_card habove
  omega

theorem previous_ne (hpositive : 0 < round) : round.previous ≠ round := by
  intro hsame
  have hprevious := Round.toInt_previous hpositive
  rw [hsame] at hprevious
  omega

/-- Once the proposal of a round is noted, the window tells when the one before
was sent. -/
theorem getElem?_previous_noteProposal (hhistory : 2 ≤ settings.history.toNat)
    (hpositive : 0 < round) (hbefore : ∀ earlier ∈ proposedRounds calls, earlier < round) :
    ((empty.after settings self calls).noteProposal settings round sentAt).sent[round.previous]? =
      sending? calls round.previous := by
  have hkeeps := (keeps_after settings self calls).noteProposal round sentAt
  have hrounds : (proposals calls ++ [(round, sentAt)]).map Prod.fst =
      proposedRounds calls ++ [round] := List.map_append
  have hother : (round.previous == round) = false := by simpa using previous_ne hpositive
  have hlookup : (proposals calls ++ [(round, sentAt)]).reverse.lookup round.previous =
      sending? calls round.previous := by
    rw [List.reverse_concat, List.lookup_cons, hother, sending?]
  by_cases hmem : round.previous ∈ proposedRounds calls
  · rw [← hlookup]
    apply hkeeps.getElem?_sent
    rw [hrounds]
    exact isRecent_previous hhistory hpositive hbefore hmem
  · have hdropped : round.previous ∉
        ((empty.after settings self calls).noteProposal settings round sentAt).sent := by
      rw [hkeeps.mem_sent_iff, hrounds]
      intro hrecent
      rcases List.mem_append.mp hrecent.1 with hlisted | hsame
      · exact hmem hlisted
      · exact previous_ne hpositive (List.mem_singleton.mp hsame)
    rw [Std.ExtTreeMap.getElem?_eq_none hdropped, sending?, eq_comm, List.lookup_eq_none_iff]
    intro sending hsending
    simp only [bne_iff_ne, ne_eq]
    intro hround
    rw [hround] at hmem
    exact hmem (List.mem_map_of_mem (List.mem_reverse.mp hsending))

/-! ## Late proposals -/

theorem proposal?_eq_some_iff {stage : Stage} :
    stage.proposal? = some round ↔ stage = ⟨round, .propose⟩ := by
  rcases stage with ⟨other, phase⟩
  cases phase <;> simp [Stage.proposal?]

theorem lateProposal_sublist (sensor : Sensor) (settings : SensorSettings) (self : ReplicaId)
    (call : SensorCall) :
    ((sensor.lateStage? settings self call).bind Stage.proposal?).toList.Sublist
      (call.proposal?.map Prod.fst).toList := by
  cases call with
  | expect expectation => exact List.nil_sublist _
  | noteRequest time => exact List.nil_sublist _
  | checkProposal now round sender sentAt =>
      rcases checkProposal_cases sensor settings self now round sender sentAt with
        hcheck | ⟨-, -, -, hcheck⟩ <;>
      simp [lateStage?, perform, hcheck, fine, SensorCall.stage?, SensorCall.proposal?,
        Stage.proposal?]
  | checkVote now stage sender sentAt =>
      rcases checkVote_cases sensor settings self now stage sender sentAt with
        hcheck | ⟨hphase | hphase, -, -, -, -, hcheck⟩ <;>
      simp [lateStage?, perform, fine, SensorCall.stage?, SensorCall.proposal?,
        Stage.proposal?, *]

theorem lateProposals_sublist (sensor : Sensor) (settings : SensorSettings) (self : ReplicaId)
    (calls : List SensorCall) :
    ((sensor.lateStages settings self calls).filterMap Stage.proposal?).Sublist
      (proposedRounds calls) := by
  induction calls generalizing sensor with
  | nil => exact List.Sublist.slnil
  | cons call calls ih =>
      have hrounds : proposedRounds (call :: calls) =
          (call.proposal?.map Prod.fst).toList ++ proposedRounds calls := by
        rw [proposedRounds, proposals, List.filterMap_cons]
        cases call.proposal? <;> rfl
      have hlate : (sensor.lateStage? settings self call).toList.filterMap Stage.proposal? =
          ((sensor.lateStage? settings self call).bind Stage.proposal?).toList := by
        cases sensor.lateStage? settings self call with
        | none => rfl
        | some stage => cases hproposal : stage.proposal? <;> simp [hproposal]
      rw [lateStages, List.filterMap_append, hrounds, hlate]
      exact (sensor.lateProposal_sublist settings self call).append (ih _)

/-- Between the round before and this one none was proposed, so the last of the
late proposals is that of the round before if it is one of them. -/
theorem lastDelayed_eq_previous_iff (hpositive : 0 < round)
    (hincreasing : (proposedRounds calls ++ [round]).Pairwise (· < ·)) :
    (empty.after settings self calls).lastDelayed = some round.previous ↔
      ⟨round.previous, .propose⟩ ∈ empty.lateStages settings self calls := by
  have hmem : ⟨round.previous, .propose⟩ ∈ empty.lateStages settings self calls ↔
      round.previous ∈ (empty.lateStages settings self calls).filterMap Stage.proposal? := by
    simp [List.mem_filterMap, proposal?_eq_some_iff]
  have hsorted := hincreasing.sublist
    ((lateProposals_sublist empty settings self calls).append (List.Sublist.refl [round]))
  rw [lastDelayed_after, hmem]
  generalize (empty.lateStages settings self calls).filterMap Stage.proposal? = late at hsorted ⊢
  constructor
  · exact List.mem_of_getLast?
  · intro hprevious
    rcases late.eq_nil_or_concat with rfl | ⟨init, last, rfl⟩
    · contradiction
    · rw [List.concat_eq_append] at hsorted hprevious ⊢
      obtain ⟨hinit, -, hround⟩ := List.pairwise_append.mp hsorted
      have hlast : last < round :=
        hround last (List.mem_append_right _ List.mem_cons_self) round List.mem_cons_self
      rw [List.getLast?_concat]
      rcases List.mem_append.mp hprevious with hearlier | hsame
      · have hless := (List.pairwise_append.mp hinit).2.2 _ hearlier last List.mem_cons_self
        rw [Int32.lt_iff_toInt_lt] at hless hlast
        rw [Round.toInt_previous hpositive] at hless
        omega
      · rw [List.mem_singleton.mp hsame]

/-- If rounds are proposed in ascending order and the window holds at least two
of them, a proposal is late exactly if it travelled too long, or if the round
took too long while a client was waiting and the round before was not late. -/
theorem late_proposal_iff (settings : SensorSettings) (self : ReplicaId)
    (events : List SensorEvent) (now : Nanos) (round : Round) (sender : ReplicaId)
    (sentAt : Nanos) (hhistory : 2 ≤ settings.history.toNat)
    (hincreasing : (proposedRounds (sinceClear events) ++ [round]).Pairwise (· < ·)) :
    let calls := sinceClear events
    let sensor := empty.afterEvents settings self events
    (sensor.checkProposal settings self now round sender sentAt).onTime = false ↔
      ∃ expectation previousSentAt, expected? calls = some expectation ∧ 0 < round ∧
        sender ≠ self ∧ sending? calls round.previous = some previousSentAt ∧
        ((now.minus sentAt).exceeds expectation.propose settings.suspicionDelta = true ∨
          (sentAt.minus previousSentAt).exceeds expectation.round settings.suspicionDelta = true ∧
            (∃ request, latestRequest? calls = some request ∧
              now.minus request < sentAt.minus previousSentAt) ∧
            ⟨round.previous, .propose⟩ ∉ empty.lateStages settings self calls) := by
  intro calls sensor
  have hbefore : ∀ earlier ∈ proposedRounds calls, earlier < round := fun earlier hearlier =>
    (List.pairwise_append.mp hincreasing).2.2 earlier hearlier round List.mem_cons_self
  have hsensor : sensor = empty.after settings self calls := afterEvents_eq settings self events
  rw [hsensor, onTime_checkProposal_eq_false_iff, expectation_after, lastRequest_after]
  refine exists_congr fun expectation => exists_congr fun previousSentAt =>
    and_congr_right fun _ => and_congr_right fun hpositive => ?_
  rw [getElem?_previous_noteProposal hhistory hpositive hbefore,
    ← lastDelayed_eq_previous_iff hpositive hincreasing]

/-- A round that takes a hundred nanoseconds while a client waits for five. -/
theorem slow_round_after_clear_is_late :
    let settings := { SensorSettings.standard with history := 2 }
    let events : List SensorEvent := [.call (.checkProposal 0 7 1 0), .clear,
      .call (.noteRequest 95), .call (.checkProposal 0 1 1 0),
      .call (.expect ⟨10, 10, [], []⟩), .call (.noteRequest 20)]
    (2 ≤ settings.history.toNat ∧
      (proposedRounds (sinceClear events) ++ [2]).Pairwise (· < ·)) ∧
      ((empty.afterEvents settings 0 events).checkProposal settings 0 100 2 1 100).onTime =
        false := by
  intro settings events
  have hhistory : 2 ≤ settings.history.toNat := by decide
  have hincreasing : (proposedRounds (sinceClear events) ++ [2]).Pairwise (· < ·) := by
    decide +kernel
  refine ⟨⟨hhistory, hincreasing⟩, ?_⟩
  apply (late_proposal_iff settings 0 events 100 2 1 100 hhistory hincreasing).mpr
  refine ⟨⟨10, 10, [], []⟩, 0, ?_⟩
  decide +kernel

end Sensor

end SuspicionMonitor
