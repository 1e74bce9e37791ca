import SuspicionMonitor.Proofs.SensorRuns
import SuspicionMonitor.Replica

/-!
# Late messages silence the later phases

Once the proposal of a round was late its votes are no longer checked, and once
a WRITE vote was late neither are the ACCEPT votes.  The flag that says so can be
forgotten together with its round.  But a round that the window has dropped is
gone for good: the window is full of later rounds and stays full of them, also
when the old round is proposed again.
-/

namespace SuspicionMonitor

namespace Sensor

variable {sensor : Sensor} {settings : SensorSettings} {self voter : ReplicaId} {stage : Stage}
  {round : Round} {now sentAt : Nanos}

/-- The window is full, and the round lies below it. -/
structure IsBygone (sensor : Sensor) (settings : SensorSettings) (round : Round) : Prop where
  full : sensor.sent.size = settings.history.toNat
  below : ∀ kept ∈ sensor.sent, round < kept

theorem IsBygone.not_mem_sent (hbygone : sensor.IsBygone settings round) : round ∉ sensor.sent :=
  fun hround => Int32.lt_irrefl (hbygone.below round hround)

theorem IsBygone.of_sent {next : Sensor} (hbygone : sensor.IsBygone settings round)
    (hsent : next.sent = sensor.sent) : next.IsBygone settings round := by
  constructor
  · rw [hsent]
    exact hbygone.full
  · rw [hsent]
    exact hbygone.below

theorem IsBygone.noteProposal (hbygone : sensor.IsBygone settings round) (next : Round)
    (sentAt : Nanos) : (sensor.noteProposal settings next sentAt).IsBygone settings round := by
  have hgrown : sensor.sent.size ≤ (sensor.sent.insert next sentAt).size :=
    Std.ExtTreeMap.size_le_size_insert
  constructor
  · rw [size_sent_noteProposal, ← hbygone.full]
    exact Nat.min_eq_right hgrown
  · intro kept hkept
    rcases mem_sent_noteProposal hkept with rfl | hbefore
    · -- The round just noted is kept only if an earlier one had to go.
      by_contra hle
      have hnew : kept ∉ sensor.sent := fun hmem => hle (hbygone.below kept hmem)
      have hsize : (sensor.sent.insert kept sentAt).size = sensor.sent.size + 1 := by
        rw [Std.ExtTreeMap.size_insert, if_neg (mt Std.ExtTreeMap.mem_iff_contains.mpr hnew)]
      rw [Sensor.noteProposal, sent_prune] at hkept
      dsimp only at hkept
      rw [hsize, hbygone.full, Nat.add_sub_cancel_left] at hkept
      have hnonempty : 0 < (sensor.sent.insert kept sentAt).size := by omega
      obtain ⟨dropped, hdropped, hgone⟩ := exists_not_mem_dropOldest Nat.zero_lt_one hnonempty
      have hlt : dropped < kept := lt_of_not_mem_dropOldest hdropped hgone hkept
      rcases Std.ExtTreeMap.mem_insert.mp hdropped with heq | hmem
      · rw [Std.LawfulEqOrd.compare_eq_iff_eq] at heq
        rw [heq] at hlt
        exact Int32.lt_irrefl hlt
      · exact hle (Int32.lt_trans (hbygone.below dropped hmem) hlt)
    · exact hbygone.below kept hbefore

/-- A round that is dropped is gone: were there room for more rounds, none would
have been dropped. -/
theorem isBygone_of_dropped {dropped : Round}
    (hinserted : dropped ∈ sensor.sent.insert round sentAt)
    (hdropped : dropped ∉ (sensor.noteProposal settings round sentAt).sent) :
    (sensor.noteProposal settings round sentAt).IsBygone settings dropped := by
  have hsize := size_sent_noteProposal sensor settings round sentAt
  rw [Sensor.noteProposal, sent_prune] at hdropped
  constructor
  · by_contra hroom
    have hcount : (sensor.sent.insert round sentAt).size - settings.history.toNat = 0 := by omega
    dsimp only at hdropped
    rw [hcount] at hdropped
    exact hdropped hinserted
  · intro kept hkept
    rw [Sensor.noteProposal, sent_prune] at hkept
    exact lt_of_not_mem_dropOldest hinserted hdropped hkept

/-- A flag is lost only together with its round. -/
theorem IsTidy.isBygone_of_not_isFlagged (htidy : sensor.IsTidy settings)
    (hflagged : sensor.isFlagged stage = true)
    (hlost : (sensor.noteProposal settings round sentAt).isFlagged stage ≠ true) :
    (sensor.noteProposal settings round sentAt).IsBygone settings stage.round := by
  apply isBygone_of_dropped
    (Std.ExtTreeMap.mem_insert.mpr (Or.inr (htidy.flagged stage hflagged)))
  intro hkept
  exact hlost (isFlagged_prune.mpr
    ⟨hflagged, Or.inr ⟨stage.round, hkept, Int32.le_refl stage.round⟩⟩)

/-- The stage is flagged, or its round is gone. -/
structure IsSpent (sensor : Sensor) (settings : SensorSettings) (stage : Stage) : Prop where
  tidy : sensor.IsTidy settings
  spent : sensor.isFlagged stage = true ∨ sensor.IsBygone settings stage.round

theorem IsSpent.noteProposal (hspent : sensor.IsSpent settings stage) (round : Round)
    (sentAt : Nanos) : (sensor.noteProposal settings round sentAt).IsSpent settings stage := by
  refine ⟨hspent.tidy.noteProposal round sentAt, ?_⟩
  rcases hspent.spent with hflagged | hbygone
  · exact or_iff_not_imp_left.mpr (hspent.tidy.isBygone_of_not_isFlagged hflagged)
  · exact Or.inr (hbygone.noteProposal round sentAt)

theorem IsSpent.flag (hspent : sensor.IsSpent settings stage) (other : Stage) (sender : ReplicaId)
    (hround : other.round ∈ sensor.sent) : (sensor.flag other sender).IsSpent settings stage := by
  refine ⟨hspent.tidy.flag other sender hround, ?_⟩
  rcases hspent.spent with hflagged | hbygone
  · exact Or.inl (isFlagged_flag.mpr (Or.inr hflagged))
  · exact Or.inr ⟨hbygone.full, hbygone.below⟩

theorem IsSpent.of_memory {next : Sensor} (hspent : sensor.IsSpent settings stage)
    (hsent : next.sent = sensor.sent) (hflagged : next.flagged = sensor.flagged) :
    next.IsSpent settings stage := by
  refine ⟨hspent.tidy.of_memory hsent hflagged, ?_⟩
  rcases hspent.spent with hstage | hbygone
  · left
    rw [isFlagged, hflagged]
    exact hstage
  · right
    exact hbygone.of_sent hsent

theorem IsSpent.after (hspent : sensor.IsSpent settings stage) (calls : List SensorCall) :
    (sensor.after settings self calls).IsSpent settings stage :=
  after_invariant IsSpent.of_memory IsSpent.noteProposal IsSpent.flag hspent calls

/-! ## Votes of a spent round -/

/-- Votes are checked only if the round is in the window and no earlier phase is
flagged. -/
theorem IsSpent.checkVote_eq_fine {earlier : Phase} (hspent : sensor.IsSpent settings ⟨round, earlier⟩)
    (phase : Phase) (hearlier : earlier = .propose ∨ earlier = .write ∧ phase = .accept)
    (now : Nanos) (voter : ReplicaId) (sentAt : Nanos) :
    sensor.checkVote settings self now ⟨round, phase⟩ voter sentAt = sensor.fine := by
  rcases checkVote_cases sensor settings self now ⟨round, phase⟩ voter sentAt with
    hfine | ⟨-, -, -, hexcused, hround, -⟩
  · exact hfine
  · rcases hspent.spent with hflagged | hbygone
    · simp only [isExcused, Bool.or_eq_false_iff, Bool.and_eq_false_iff, decide_eq_false_iff_not]
        at hexcused
      rcases hearlier with rfl | ⟨rfl, rfl⟩
      · simp [hflagged] at hexcused
      · simp [hflagged] at hexcused
    · exact absurd hround hbygone.not_mem_sent

theorem isSpent_checkProposal (htidy : sensor.IsTidy settings) {sender : ReplicaId}
    (hlate : (sensor.checkProposal settings self now round sender sentAt).onTime = false) :
    (sensor.checkProposal settings self now round sender sentAt).sensor.IsSpent settings
      ⟨round, .propose⟩ := by
  refine ⟨htidy.after [.checkProposal now round sender sentAt], Or.inl ?_⟩
  rcases checkProposal_cases sensor settings self now round sender sentAt with
    hcheck | ⟨-, -, -, hcheck⟩
  · rw [hcheck] at hlate
    contradiction
  · rw [hcheck]
    exact isFlagged_flag.mpr (Or.inl rfl)

theorem isSpent_checkVote (htidy : sensor.IsTidy settings)
    (hlate : (sensor.checkVote settings self now stage voter sentAt).onTime = false) :
    (sensor.checkVote settings self now stage voter sentAt).sensor.IsSpent settings stage := by
  refine ⟨htidy.after [.checkVote now stage voter sentAt], Or.inl ?_⟩
  rcases checkVote_cases sensor settings self now stage voter sentAt with
    hcheck | ⟨-, -, -, -, -, hcheck⟩
  · rw [hcheck] at hlate
    contradiction
  · rw [hcheck]
    exact isFlagged_flag.mpr (Or.inl rfl)

/-- Whatever else the sensor is told: after a late proposal all votes of its
round are on time and nobody is accused of them, and after a late WRITE vote so
are all ACCEPT votes of the round. -/
theorem late_phase_silences_later_phases (settings : SensorSettings) (self : ReplicaId)
    (round : Round) (earlier later : List SensorCall) :
    let before := empty.after settings self earlier
    (∀ (now : Nanos) (sender : ReplicaId) (sentAt : Nanos),
      let proposal := before.checkProposal settings self now round sender sentAt
      proposal.onTime = false →
        ∀ (now : Nanos) (phase : Phase) (voter : ReplicaId) (sentAt : Nanos),
          let observer := proposal.sensor.after settings self later
          let vote := observer.checkVote settings self now ⟨round, phase⟩ voter sentAt
          vote.conclude self = pure (observer, true)) ∧
    (∀ (now : Nanos) (sender : ReplicaId) (sentAt : Nanos),
      let write := before.checkVote settings self now ⟨round, .write⟩ sender sentAt
      write.onTime = false →
        ∀ (now : Nanos) (voter : ReplicaId) (sentAt : Nanos),
          let observer := write.sensor.after settings self later
          let vote := observer.checkVote settings self now ⟨round, .accept⟩ voter sentAt
          vote.conclude self = pure (observer, true)) := by
  intro before
  have htidy : before.IsTidy settings := (isTidy_empty settings).after earlier
  constructor
  · intro now sender sentAt proposal hlate now phase voter sentAt observer vote
    have hspent : observer.IsSpent settings ⟨round, .propose⟩ :=
      (isSpent_checkProposal htidy hlate).after later
    have hvote : vote = observer.fine :=
      hspent.checkVote_eq_fine phase (Or.inl rfl) now voter sentAt
    rw [hvote]
    rfl
  · intro now sender sentAt write hlate now voter sentAt observer vote
    have hspent : observer.IsSpent settings ⟨round, .write⟩ :=
      (isSpent_checkVote htidy hlate).after later
    have hvote : vote = observer.fine :=
      hspent.checkVote_eq_fine .accept (Or.inr ⟨rfl, rfl⟩) now voter sentAt
    rw [hvote]
    rfl

/-- All messages are expected within ten nanoseconds, and the first round is
proposed. -/
def impatientCalls : List SensorCall :=
  [.expect ⟨10, 10, [10, 10, 10, 10], [10, 10, 10, 10]⟩, .checkProposal 0 1 1 0]

/-- Two later rounds push the second one out of a window of two, and it is
proposed once more. -/
def returningCalls : List SensorCall :=
  [.checkProposal 0 3 1 0, .checkProposal 0 4 1 0, .checkProposal 0 2 1 0]

theorem votes_of_returning_round_are_silenced :
    let settings := { SensorSettings.standard with history := 2 }
    let before := empty.after settings 0 impatientCalls
    let proposal := before.checkProposal settings 0 100 2 1 0
    let observer := proposal.sensor.after settings 0 returningCalls
    let prompt := empty.after settings 0 (impatientCalls ++ [.checkProposal 0 2 1 0])
    let write := prompt.checkVote settings 0 100 ⟨2, .write⟩ 1 0
    let watcher := write.sensor.after settings 0 returningCalls
    (proposal.onTime = false ∧ observer.isFlagged ⟨2, .propose⟩ = false ∧
      (observer.checkVote settings 0 100 ⟨2, .write⟩ 1 0).conclude 0 = pure (observer, true)) ∧
    write.onTime = false ∧ watcher.isFlagged ⟨2, .write⟩ = false ∧
      (watcher.checkVote settings 0 100 ⟨2, .accept⟩ 1 0).conclude 0 = pure (watcher, true) := by
  intro settings before proposal observer prompt write watcher
  have hproposal : proposal.onTime = false := by decide +kernel
  have hwrite : write.onTime = false := by decide +kernel
  obtain ⟨hvotes, -⟩ :=
    late_phase_silences_later_phases settings 0 2 impatientCalls returningCalls
  obtain ⟨-, haccepts⟩ := late_phase_silences_later_phases settings 0 2
    (impatientCalls ++ [.checkProposal 0 2 1 0]) returningCalls
  refine ⟨⟨hproposal, ?_, hvotes 100 1 0 hproposal 100 .write 1 0⟩, hwrite, ?_,
    haccepts 100 1 0 hwrite 100 1 0⟩
  · decide +kernel
  · decide +kernel

end Sensor

end SuspicionMonitor
