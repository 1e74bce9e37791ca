import SuspicionMonitor.Duration

/-!
# Expected delays

What one replica expects under one leader.  An expectation that is missing is
so large that only an observation of many days exceeds it.
-/

namespace SuspicionMonitor

structure Expectation where
  /-- Time between two proposals. -/
  round : Nanos
  /-- Time from the sending of a proposal to its arrival here. -/
  propose : Nanos
  /-- Time from the sending of a proposal to the arrival of each replica's
  write vote here. -/
  writeArrival : List Nanos
  /-- The same for accept votes. -/
  acceptArrival : List Nanos
  deriving DecidableEq

namespace Expectation

/-- The expectation of somebody who knows nothing of `n` replicas. -/
def missing (n : Nat) : Expectation where
  round := Nanos.missing
  propose := Nanos.missing
  writeArrival := List.replicate n Nanos.missing
  acceptArrival := List.replicate n Nanos.missing

end Expectation

end SuspicionMonitor
