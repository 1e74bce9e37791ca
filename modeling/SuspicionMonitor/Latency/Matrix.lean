import SuspicionMonitor.Expectation
import SuspicionMonitor.View

/-!
# Latency matrices and expected delays

Row `i` of a matrix holds the latencies that replica `i` reported towards
every replica.  A link is believed to be as slow as the slower of its two ends
reports, and the expected delays follow from the links: a vote arrives after
the proposal has reached the voter and the vote has come back.
-/

namespace SuspicionMonitor

abbrev LatencyMatrix := Array (Array Nanos)

namespace LatencyMatrix

/-- The square matrix in which nothing is known. -/
def missing (n : Nat) : LatencyMatrix :=
  Array.replicate n (Array.replicate n Nanos.missing)

/-- An entry outside the matrix, or beyond a short row, is missing. -/
def entry (matrix : LatencyMatrix) (i j : Nat) : Nanos :=
  (matrix[i]?.bind (·[j]?)).getD Nanos.missing

/-- The square matrix whose links are as slow as the slower end reports. -/
def symmetrise (matrix : LatencyMatrix) : LatencyMatrix :=
  Array.ofFn fun i : Fin matrix.size =>
    Array.ofFn fun j : Fin matrix.size => max (matrix.entry i j) (matrix.entry j i)

end LatencyMatrix

namespace Nanos

/-- The latency of one link followed by another, missing if either is. -/
def link (first second : Nanos) : Nanos :=
  if first.isMissing || second.isMissing then missing
  else min (first.plus second) missing

/-- The `k`-th smallest value, counted from one; missing if there is none. -/
def kthSmallest (values : List Nanos) (k : Nat) : Nanos :=
  if k = 0 then missing
  else (values.mergeSort (fun first second => first ≤ second))[k - 1]?.getD missing

end Nanos

/-- The delays that `self` expects under `leader`, from symmetric matrices of
the write and the propose latencies.  Replicas outside the view expect
nothing. -/
def Expectation.predict (view : View) (write propose : LatencyMatrix) (leader self : ReplicaId) :
    Expectation :=
  let n := view.n
  let l := leader.toNat
  let m := self.toNat
  if n ≤ l || n ≤ m then
    missing n
  else
    let peers := List.range n
    let proposal := fun j => propose.entry l j
    let acceptArrival := peers.map fun j =>
      let writes := peers.map fun k => (proposal k).link (write.entry k j)
      (Nanos.kthSmallest writes view.quorum).link (write.entry j m)
    { round := Nanos.kthSmallest acceptArrival view.quorum
      propose := proposal m
      writeArrival := peers.map fun j => (proposal j).link (write.entry j m)
      acceptArrival }

end SuspicionMonitor
