import SuspicionMonitor.Proofs.SensorHistories

/-!
# Retained rounds

Rounds may be proposed again, out of order, or too late to be kept at all.  At
every point of a run the window is the selection of the highest of them that a
look at the whole history would make.  What is flagged lies within the window,
and only stages of three phases are flagged.
-/

namespace SuspicionMonitor

namespace Sensor

variable {sensor : Sensor} {settings : SensorSettings} {self : ReplicaId} {stage : Stage}
  {round : Round} {sentAt : Nanos} {call : SensorCall} {calls : List SensorCall}
  {sendings : List (Round × Nanos)}

theorem Keeps.getElem?_sent_eq_some_iff (hkeeps : sensor.Keeps settings sendings) :
    sensor.sent[round]? = some sentAt ↔
      IsRecent settings.history.toNat (sendings.map Prod.fst) round ∧
        sendings.reverse.lookup round = some sentAt := by
  constructor
  · intro hsent
    have hmem : round ∈ sensor.sent :=
      Std.ExtTreeMap.mem_iff_isSome_getElem?.mpr (Option.isSome_of_eq_some hsent)
    exact ⟨hkeeps.mem_sent_iff.mp hmem, hkeeps.latest round sentAt hsent⟩
  · rintro ⟨hrecent, hlatest⟩
    rw [hkeeps.getElem?_sent hrecent, hlatest]

/-- A window with room to spare has dropped nothing. -/
theorem Keeps.size_sent (hkeeps : sensor.Keeps settings sendings) :
    sensor.sent.size = min settings.history.toNat (sendings.map Prod.fst).toFinset.card := by
  have hlisted : sensor.sent.keys.toFinset ⊆ (sendings.map Prod.fst).toFinset := by
    intro round hround
    rw [List.mem_toFinset, Std.ExtTreeMap.mem_keys] at hround
    exact List.mem_toFinset.mpr (hkeeps.mem_sent_iff.mp hround).1
  have hsize := hkeeps.size
  have hcard := Finset.card_le_card hlisted
  rw [OrderedSet.card_toFinset_keys] at hcard
  by_cases hall : (sendings.map Prod.fst).toFinset ⊆ sensor.sent.keys.toFinset
  · have hcard' := Finset.card_le_card hall
    rw [OrderedSet.card_toFinset_keys] at hcard'
    omega
  · obtain ⟨round, hround, hdropped⟩ := Finset.not_subset.mp hall
    rw [List.mem_toFinset, Std.ExtTreeMap.mem_keys] at hdropped
    have hfull := (hkeeps.gone round (List.mem_toFinset.mp hround) hdropped).full
    omega

theorem phase_of_lateStage? (hlate : sensor.lateStage? settings self call = some stage) :
    stage.phase ∈ [.propose, .write, .accept] := by
  unfold lateStage? at hlate
  cases call with
  | expect expectation => contradiction
  | noteRequest time => contradiction
  | checkProposal now round sender sentAt =>
      split at hlate
      · contradiction
      · rw [← Option.some.inj hlate]
        exact List.mem_cons_self
  | checkVote now checked sender sentAt =>
      rcases checkVote_cases sensor settings self now checked sender sentAt with
        hcheck | ⟨hphase, -, -, -, -, hcheck⟩
      · rw [perform, hcheck] at hlate
        contradiction
      · rw [perform, hcheck] at hlate
        rw [← Option.some.inj hlate]
        exact List.mem_cons_of_mem _ (by simpa using hphase)

theorem phase_of_mem_lateStages (hlate : stage ∈ empty.lateStages settings self calls) :
    stage.phase ∈ [.propose, .write, .accept] := by
  induction calls using List.reverseRecOn with
  | nil => contradiction
  | append_singleton calls call ih =>
      rw [lateStages_concat, List.mem_append, Option.mem_toList] at hlate
      exact hlate.elim ih phase_of_lateStage?

/-- Three phases of each round of the window are all that can be flagged. -/
theorem size_flagged_le (hround : ∀ stage ∈ sensor.flagged, stage.round ∈ sensor.sent)
    (hphase : ∀ stage ∈ sensor.flagged, stage.phase ∈ [.propose, .write, .accept]) :
    sensor.flagged.size ≤ 3 * sensor.sent.size := by
  have hpairs : sensor.flagged.keys.toFinset ⊆
      (sensor.sent.keys.toFinset ×ˢ [Phase.propose, .write, .accept].toFinset).image
        (fun pair => ⟨pair.1, pair.2⟩) := by
    intro stage hstage
    rw [List.mem_toFinset, Std.ExtTreeMap.mem_keys] at hstage
    refine Finset.mem_image.mpr ⟨(stage.round, stage.phase), ?_, rfl⟩
    rw [Finset.mem_product, List.mem_toFinset, Std.ExtTreeMap.mem_keys, List.mem_toFinset]
    exact ⟨hround stage hstage, hphase stage hstage⟩
  calc
    sensor.flagged.size = sensor.flagged.keys.toFinset.card := (OrderedSet.card_toFinset_keys _).symm
    _ ≤ (sensor.sent.keys.toFinset ×ˢ [Phase.propose, .write, .accept].toFinset).card :=
      (Finset.card_le_card hpairs).trans Finset.card_image_le
    _ = 3 * sensor.sent.size := by
      rw [Finset.card_product, OrderedSet.card_toFinset_keys, Nat.mul_comm]
      rfl

/-- At every point of a run the window holds exactly the highest of the rounds
proposed since the last clearing, as many as the history allows, each with the
time of its latest proposal.  Every flag is about a round of the window and one
of three phases, so there are at most three flagged stages for each round
kept. -/
theorem window_holds_highest_rounds (settings : SensorSettings) (self : ReplicaId)
    (events : List SensorEvent) :
    let calls := sinceClear events
    let sensor := empty.afterEvents settings self events
    (∀ (round : Round) (sentAt : Nanos), sensor.sent[round]? = some sentAt ↔
      IsRecent settings.history.toNat (proposedRounds calls) round ∧
        sending? calls round = some sentAt) ∧
      sensor.sent.size = min settings.history.toNat (proposedRounds calls).toFinset.card ∧
      (∀ stage ∈ sensor.flagged, stage.round ∈ sensor.sent ∧
        stage.phase ∈ [.propose, .write, .accept]) ∧
      sensor.flagged.size ≤ 3 * sensor.sent.size := by
  intro calls sensor
  have hsensor : sensor = empty.after settings self calls := afterEvents_eq settings self events
  have hkeeps : sensor.Keeps settings (proposals calls) := by
    rw [hsensor]
    exact keeps_after settings self calls
  have htidy : sensor.IsTidy settings := by
    rw [hsensor]
    exact (isTidy_empty settings).after calls
  have hround : ∀ stage ∈ sensor.flagged, stage.round ∈ sensor.sent := fun stage hstage =>
    htidy.flagged stage (Std.ExtTreeMap.contains_iff_mem.mpr hstage)
  have hphase : ∀ stage ∈ sensor.flagged, stage.phase ∈ [.propose, .write, .accept] := by
    intro stage hstage
    have hflagged : (empty.after settings self calls).isFlagged stage = true := by
      rw [hsensor] at hstage
      exact Std.ExtTreeMap.contains_iff_mem.mpr hstage
    exact phase_of_mem_lateStages (mem_lateStages_of_isFlagged hflagged)
  exact ⟨fun _ _ => hkeeps.getElem?_sent_eq_some_iff, hkeeps.size_sent,
    fun stage hstage => ⟨hround stage hstage, hphase stage hstage⟩,
    size_flagged_le hround hphase⟩

end Sensor

end SuspicionMonitor
