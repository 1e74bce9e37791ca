import SuspicionMonitor.Graph.Basic
import Std.Data.ExtTreeSet

/-!
# Exclusions by mutual suspicion

A one-sided accusation may come from a Byzantine reporter as well as from a
real delay, so only replicas that suspect each other are excluded: the ends of
a greedy matching of the mutually suspecting pairs, and the corners of every
triangle of mutual suspicion that contains a matched pair.

Never are more than `n - f - 1` replicas excluded.  If there are too many, the
ones that the fewest replicas suspect are released.
-/

namespace SuspicionMonitor

/-- Two replicas, the lower id first. -/
abbrev ReplicaPair := ReplicaId × ReplicaId

namespace SuspicionGraph

def suspectEachOther (graph : SuspicionGraph) (u v : ReplicaId) : Bool :=
  graph.suspects u v && graph.suspects v u

/-- The pairs that suspect each other, in ascending order. -/
def mutualPairs (graph : SuspicionGraph) : List ReplicaPair :=
  (graph.weights.keys.filter fun edge =>
    edge.reporter < edge.suspect && graph.suspects edge.suspect edge.reporter).map
    fun edge => (edge.reporter, edge.suspect)

/-- The triangles `u < v < w` of mutual suspicion. -/
def triangles (graph : SuspicionGraph) : List (ReplicaId × ReplicaId × ReplicaId) :=
  let pairs := graph.mutualPairs
  pairs.flatMap fun (u, v) =>
    (pairs.filter fun (x, w) => x == u && v < w && graph.suspectEachOther v w).map
      fun (_, w) => (u, v, w)

def covers (pairs : List ReplicaPair) (id : ReplicaId) : Bool :=
  pairs.any fun (u, v) => u == id || v == id

/-- Takes a pair if both its ends are free. -/
def takePair (matching : List ReplicaPair) (pair : ReplicaPair) : List ReplicaPair :=
  if covers matching pair.1 || covers matching pair.2 then matching else pair :: matching

def greedyMatching (pairs : List ReplicaPair) : List ReplicaPair :=
  pairs.foldl takePair []

def matching (graph : SuspicionGraph) : List ReplicaPair :=
  greedyMatching graph.mutualPairs

/-- The replicas to exclude, however many they are. -/
def exclusions (graph : SuspicionGraph) : Std.ExtTreeSet ReplicaId :=
  let matching := graph.matching
  let ends := matching.flatMap fun (u, v) => [u, v]
  let corners := graph.triangles.flatMap fun (u, v, w) =>
    if matching.contains (u, v) || matching.contains (u, w) || matching.contains (v, w) then
      [u, v, w]
    else
      []
  Std.ExtTreeSet.ofList (ends ++ corners)

/-- Order of release: the least suspected first, then the lowest id. -/
def releasedBefore (first second : Nat × ReplicaId) : Bool :=
  first.1 < second.1 || (first.1 == second.1 && first.2 ≤ second.2)

def releaseOrder (graph : SuspicionGraph) (excluded : Std.ExtTreeSet ReplicaId) :
    List ReplicaId :=
  ((excluded.toList.map fun id => (graph.inDegree id, id)).mergeSort releasedBefore).map Prod.snd

/-- The least suspected replicas beyond the largest exclusion list. -/
def released (graph : SuspicionGraph) (excluded : Std.ExtTreeSet ReplicaId) : List ReplicaId :=
  (graph.releaseOrder excluded).take (excluded.size - graph.view.maxExclusions)

def clampExclusions (graph : SuspicionGraph) (excluded : Std.ExtTreeSet ReplicaId) :
    Std.ExtTreeSet ReplicaId :=
  (graph.released excluded).foldl (fun excluded id => excluded.erase id) excluded

def heuristicCandidates (graph : SuspicionGraph) : List ReplicaId :=
  let excluded := graph.clampExclusions graph.exclusions
  graph.view.replicas.filter fun id => !excluded.contains id

end SuspicionGraph

end SuspicionMonitor
