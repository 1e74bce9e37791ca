import SuspicionMonitor.Graph.Exclusions
import SuspicionMonitor.IndependentSet
import SuspicionMonitor.Settings.Basic

/-!
# Leader candidates

The candidates are the replicas that are not excluded.  With the exhaustive
strategy a maximum set without mutual suspicion is searched first; it is the
answer if it has at least `f + 1` members.
-/

namespace SuspicionMonitor

namespace GraphSettings

/-- Larger graphs are never searched, whatever the settings say. -/
def searchableVertices : Nat := 128

def exhaustiveLimit (settings : GraphSettings) : Nat :=
  min settings.exhaustiveMaxVertices.toNat searchableVertices

/-- Expansions the search may make: none without time, otherwise those that
there is time for. -/
def searchAllowance (settings : GraphSettings) (inTime : Option Nat) : Option Nat :=
  if settings.exhaustiveBudget = 0 then some 0 else inTime

def searches (settings : GraphSettings) (n : Nat) : Bool :=
  settings.strategy = .exhaustive && n ≤ settings.exhaustiveLimit

end GraphSettings

/-- Candidates, and whether a search for them ran out of time. -/
structure Candidates where
  ids : List ReplicaId
  timedOut : Bool
  deriving DecidableEq

namespace SuspicionGraph

/-- The graph of mutual suspicion, a vertex for each replica. -/
def mutualAdjacency (graph : SuspicionGraph) : Adjacency graph.view.n :=
  Adjacency.ofRel fun u v => graph.suspectEachOther (UInt32.ofNat u) (UInt32.ofNat v)

def independentCandidates (graph : SuspicionGraph) (allowance : Option Nat) : Candidates :=
  let search := graph.mutualAdjacency.maximumIndependentSet allowance
  { ids := (List.finRange graph.view.n).filterMap fun v =>
      if search.best.contains v then some (UInt32.ofNat v) else none
    timedOut := search.stopped }

/-- How many expansions there is time for (`none` for any number) is not known
before. -/
def candidates (graph : SuspicionGraph) (settings : GraphSettings)
    (inTime : Option Nat := none) : Candidates :=
  if settings.searches graph.view.n then
    let found := graph.independentCandidates (settings.searchAllowance inTime)
    if graph.view.candidateFloor ≤ found.ids.length then
      found
    else
      { found with ids := graph.heuristicCandidates }
  else
    ⟨graph.heuristicCandidates, false⟩

/-- The candidates and the metrics of finding them.  There is no answer if
fewer than `f + 1` replicas are left. -/
def candidateSet? (graph : SuspicionGraph) (settings : GraphSettings)
    (inTime : Option Nat := none) : Logged (Option (List ReplicaId)) := do
  let found := graph.candidates settings inTime
  Logged.count { exhaustiveTimeouts := if found.timedOut then 1 else 0 }
  if graph.view.candidateFloor ≤ found.ids.length then
    Logged.count { candidateSetsComputed := 1 }
    return some found.ids
  else
    return none

end SuspicionGraph

end SuspicionMonitor
