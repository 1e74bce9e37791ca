import SuspicionMonitor.Bytes
import SuspicionMonitor.Protocol
import SuspicionMonitor.View

/-!
# Metrics and submissions

What operations leave behind besides their result: counts of what happened,
the last edge count a graph reported, and the values submitted for total
ordering.  `Logged` collects them in the order of the operations; the result
itself never depends on them.
-/

namespace SuspicionMonitor

/-- What a run of operations counted.  `edgeCount` is the last edge count
reported, if there was any; all other fields are sums. -/
structure Metrics where
  suspicionsEmitted : Nat := 0
  falseAccusationsEmitted : Nat := 0
  latencyVectorsEmitted : Nat := 0
  suspicionsApplied : Nat := 0
  decodeFailures : Nat := 0
  configurationResets : Nat := 0
  decaySteps : Nat := 0
  measurementsCollected : Nat := 0
  candidateSetsComputed : Nat := 0
  exhaustiveTimeouts : Nat := 0
  edgeCount : Option Nat := none
  deriving DecidableEq

namespace Metrics

def zero : Metrics := {}

/-- The metrics of one run followed by another. -/
def andThen (first second : Metrics) : Metrics where
  suspicionsEmitted := first.suspicionsEmitted + second.suspicionsEmitted
  falseAccusationsEmitted := first.falseAccusationsEmitted + second.falseAccusationsEmitted
  latencyVectorsEmitted := first.latencyVectorsEmitted + second.latencyVectorsEmitted
  suspicionsApplied := first.suspicionsApplied + second.suspicionsApplied
  decodeFailures := first.decodeFailures + second.decodeFailures
  configurationResets := first.configurationResets + second.configurationResets
  decaySteps := first.decaySteps + second.decaySteps
  measurementsCollected := first.measurementsCollected + second.measurementsCollected
  candidateSetsComputed := first.candidateSetsComputed + second.candidateSetsComputed
  exhaustiveTimeouts := first.exhaustiveTimeouts + second.exhaustiveTimeouts
  edgeCount := second.edgeCount.or first.edgeCount

theorem zero_andThen (metrics : Metrics) : zero.andThen metrics = metrics := by
  simp [andThen, zero]

theorem andThen_zero (metrics : Metrics) : metrics.andThen zero = metrics := by
  simp [andThen, zero]

theorem andThen_assoc (first second third : Metrics) :
    (first.andThen second).andThen third = first.andThen (second.andThen third) := by
  simp [andThen, Nat.add_assoc, Option.or_assoc]

end Metrics

/-- A value submitted for total ordering, with the replica it comes from. -/
structure Submission where
  sender : ReplicaId
  kind : ValueKind
  payload : Bytes
  deriving DecidableEq

/-- A result together with what was counted and submitted on the way. -/
@[ext]
structure Logged (α : Type) where
  value : α
  metrics : Metrics := {}
  submissions : List Submission := []

namespace Logged

instance : Monad Logged where
  pure value := { value }
  bind first next :=
    let second := next first.value
    { value := second.value
      metrics := first.metrics.andThen second.metrics
      submissions := first.submissions ++ second.submissions }

@[simp] theorem value_pure {α : Type} (value : α) :
    (pure value : Logged α).value = value := rfl

@[simp] theorem value_bind {α β : Type} (first : Logged α) (next : α → Logged β) :
    (first >>= next).value = (next first.value).value := rfl

@[simp] theorem submissions_pure {α : Type} (value : α) :
    (pure value : Logged α).submissions = [] := rfl

@[simp] theorem submissions_bind {α β : Type} (first : Logged α) (next : α → Logged β) :
    (first >>= next).submissions = first.submissions ++ (next first.value).submissions := rfl

@[simp] theorem metrics_pure {α : Type} (value : α) :
    (pure value : Logged α).metrics = Metrics.zero := rfl

@[simp] theorem metrics_bind {α β : Type} (first : Logged α) (next : α → Logged β) :
    (first >>= next).metrics = first.metrics.andThen (next first.value).metrics := rfl

instance : LawfulMonad Logged :=
  LawfulMonad.mk' Logged
    (fun logged => Logged.ext rfl (Metrics.andThen_zero _) (List.append_nil _))
    (fun _ _ => Logged.ext rfl (Metrics.zero_andThen _) (List.nil_append _))
    (fun _ _ _ => Logged.ext rfl (Metrics.andThen_assoc _ _ _) (List.append_assoc _ _ _))

/-- Counts something. -/
def count (metrics : Metrics) : Logged Unit := { value := (), metrics }

/-- Submits a value for total ordering. -/
def submit (submission : Submission) : Logged Unit :=
  { value := (), submissions := [submission] }

end Logged

end SuspicionMonitor
