import SuspicionMonitor.Proofs.RefusedSuspicions
import SuspicionMonitor.Proofs.SensorHistories

/-!
# Explained accusations

A replica that is accused of slowness answers that the accusation is false,
unless it has itself found an earlier phase of the round late.  It remembers
that for as long as the round is one of the highest that were proposed.
-/

namespace SuspicionMonitor

namespace Sensor

variable {sensor : Sensor} {settings : SensorSettings} {self : ReplicaId}
  {calls : List SensorCall} {stage : Stage} {incoming reply : Suspicion}

/-- Whether the calls explain a delay at the stage: an earlier phase of its round
was late, and the round is one of the highest. -/
def IsExplained (settings : SensorSettings) (self : ReplicaId) (calls : List SensorCall)
    (stage : Stage) : Prop :=
  IsRecent settings.history.toNat (proposedRounds calls) stage.round ∧
    ∃ phase : Phase, phase.rank < stage.phase.rank ∧
      ⟨stage.round, phase⟩ ∈ empty.lateStages settings self calls

theorem corroborates_after_iff :
    (empty.after settings self calls).corroborates stage = true ↔
      IsExplained settings self calls stage := by
  rw [← Bool.not_eq_false, corroborates_eq_false_iff]
  simp only [not_forall, Bool.not_eq_false, isFlagged_after_iff, exists_prop, IsExplained]
  constructor
  · rintro ⟨phase, hrank, hlate, hrecent⟩
    exact ⟨hrecent, phase, hrank, hlate⟩
  · rintro ⟨hrecent, phase, hrank, hlate⟩
    exact ⟨phase, hrank, hlate, hrecent⟩

/-- After any run, an armed replica answers an accusation of slowness that
another replica makes against it exactly if no earlier delay in one of the
highest rounds since the last clearing explains it.  The answer accuses the
accuser at the same stage. -/
theorem reply?_iff_not_explained (settings : SensorSettings) (self : ReplicaId)
    (events : List SensorEvent) (incoming reply : Suspicion) :
    let calls := sinceClear events
    (empty.afterEvents settings self events).reply? self incoming = some reply ↔
      (expected? calls).isSome = true ∧ incoming.suspect = self ∧ incoming.reporter ≠ self ∧
        incoming.kind = .slow ∧
        ¬ IsExplained settings self calls ⟨incoming.round, incoming.phase⟩ ∧
        reply = { round := incoming.round
                  phase := incoming.phase
                  kind := .falseAccusation
                  suspect := incoming.reporter
                  reporter := self } := by
  intro calls
  rw [afterEvents_eq, reply?_eq_some_iff, isArmed, expectation_after, ← corroborates_after_iff,
    Bool.not_eq_true]

/-- A late proposal explains that the ACCEPT vote is late, until two later rounds
have pushed it out of a window of two. -/
example :
    let settings := { SensorSettings.standard with history := 2 }
    let late := impatientCalls ++ [.checkProposal 100 2 1 0]
    let accusation : Suspicion := ⟨2, .accept, .slow, 0, 3⟩
    (empty.after settings 0 late).reply? 0 accusation = none ∧
      (empty.after settings 0 (late ++ returningCalls)).reply? 0 accusation =
        some ⟨2, .accept, .falseAccusation, 3, 0⟩ := by
  decide +kernel

end Sensor

end SuspicionMonitor
