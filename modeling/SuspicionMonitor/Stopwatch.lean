/-!
# Measuring time

A stopwatch evaluates a function and tells how many microseconds that took, if
it measures time at all.
-/

namespace SuspicionMonitor

structure Stopwatch (m : Type → Type) where
  measure : {α : Type} → (Unit → α) → m (α × Option Nat)

/-- The stopwatch that measures nothing. -/
def Stopwatch.still : Stopwatch Id where
  measure evaluate := (evaluate (), none)

end SuspicionMonitor
