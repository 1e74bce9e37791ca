import SuspicionMonitor.Latency.Matrix
import SuspicionMonitor.LatencyVector
import SuspicionMonitor.Metrics

/-!
# The latency board

The latency vectors that replicas have published, in two matrices.  Vectors
arrive in total order, so every correct replica derives the same expectations
for the same leader.

After a change of view the matrices keep their old size until they are next
used; then they start anew.
-/

namespace SuspicionMonitor

structure LatencyBoard where
  view : View
  write : LatencyMatrix
  propose : LatencyMatrix

namespace LatencyBoard

def empty (view : View) : LatencyBoard :=
  ⟨view, LatencyMatrix.missing view.n, LatencyMatrix.missing view.n⟩

def setView (board : LatencyBoard) (view : View) : LatencyBoard := { board with view }

/-- Whether the matrices have a row for each replica of the view. -/
def fits (board : LatencyBoard) : Bool :=
  board.write.size == board.view.n && board.propose.size == board.view.n

/-- Starts anew if the matrices do not fit the view. -/
def fitted (board : LatencyBoard) : Logged LatencyBoard := do
  if board.fits then
    return board
  else
    Logged.count { configurationResets := 1 }
    return empty board.view

/-- Stores a vector as the rows of its sender.  Vectors of another size and
of senders outside the view are dropped. -/
def store (board : LatencyBoard) (sender : ReplicaId) (vector : LatencyVector) :
    Logged LatencyBoard := do
  let board ← board.fitted
  if vector.size = board.view.n && board.view.contains sender then
    return { board with
      write := board.write.setIfInBounds sender.toNat vector.write.toArray
      propose := board.propose.setIfInBounds sender.toNat vector.propose.toArray }
  else
    return board

/-- Stores the vector that `sender` sent, if the payload is one. -/
def notify (board : LatencyBoard) (sender : ReplicaId) (payload : Bytes) : Logged LatencyBoard := do
  match LatencyVector.decode payload with
  | .ok vector => board.store sender vector
  | .error _ =>
      Logged.count { decodeFailures := 1 }
      return board

def reporters (board : LatencyBoard) : Nat :=
  (board.write.toList.zip board.propose.toList).countP fun (write, propose) =>
    (write ++ propose).any fun latency => !latency.isMissing

def checkInitialized (board : LatencyBoard) : Logged (LatencyBoard × Bool) := do
  let board ← board.fitted
  return (board, board.view.quorum ≤ board.reporters)

/-- The delays that `self` has to expect under `leader`. -/
def predict (board : LatencyBoard) (leader self : ReplicaId) :
    Logged (LatencyBoard × Expectation) := do
  let board ← board.fitted
  return (board,
    Expectation.predict board.view board.write.symmetrise board.propose.symmetrise leader self)

end LatencyBoard

end SuspicionMonitor
