import SuspicionMonitor.Graph.Basic
import SuspicionMonitor.Random.Sample
import Std.Data.ExtTreeSet

/-!
# Entangled graphs

The worst graphs that a view tolerates: `f` liars, each in mutual suspicion
with up to `f` other replicas.
-/

namespace SuspicionMonitor

variable {σ : Type} [WordSource σ]

/-- The replica with this number.  Numbers beyond the ids of 32 bits all stand
for the last one. -/
def replicaNumbered (number : Nat) : ReplicaId := UInt32.ofNatClamp number

/-- A liar's victims; it may draw itself, and then has one less. -/
def drawVictims (view : View) (liar : Nat) : StateM σ (List Nat) := do
  let count ← Random.below64 (view.f + 1)
  let victims ← Random.sample view.n (min count view.n)
  return victims.filter (· != liar)

/-- The edges between a liar and its victims, in both directions. -/
def mutualEdges (liar : Nat) (victims : List Nat) : List Edge :=
  victims.flatMap fun victim =>
    [Edge.mk (replicaNumbered liar) (replicaNumbered victim),
      Edge.mk (replicaNumbered victim) (replicaNumbered liar)]

/-- The edges of all liars, in ascending order. -/
def entangle (view : View) : StateM σ (List Edge) := do
  let liars ← Random.sample view.n view.f
  let edges ← liars.mapM fun liar => do
    let victims ← drawVictims view liar
    return mutualEdges liar victims
  return (Std.ExtTreeSet.ofList edges.flatten).toList

end SuspicionMonitor
