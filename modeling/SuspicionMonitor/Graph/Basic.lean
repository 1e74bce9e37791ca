import SuspicionMonitor.Metrics
import SuspicionMonitor.Suspicion
import Std.Data.ExtTreeMap

/-!
# The suspicion graph

A directed graph over the replicas of a view.  The edge from a reporter to a
suspect weighs as much as the suspicions it stands for, less what has decayed
since.  No replica has an edge to itself, and an edge whose weight has decayed
to zero is gone.
-/

namespace SuspicionMonitor

structure Edge where
  reporter : ReplicaId
  suspect : ReplicaId
  deriving DecidableEq

namespace Edge

/-- Edges are ordered by reporter, then by suspect. -/
instance : Ord Edge := ⟨compareLex (compareOn reporter) (compareOn suspect)⟩

instance : Std.TransOrd Edge :=
  inferInstanceAs (Std.TransCmp (compareLex (compareOn reporter) (compareOn suspect)))

instance : Std.LawfulEqOrd Edge where
  eq_of_compare := by
    intro first second h
    obtain ⟨hreporter, hsuspect⟩ :
        compare first.reporter second.reporter = .eq ∧
          compare first.suspect second.suspect = .eq := by
      change compareLex _ _ first second = .eq at h
      simpa only [compareLex, compareOn, Ordering.then_eq_eq] using h
    cases first
    cases second
    simp only [Std.LawfulEqOrd.compare_eq_iff_eq] at *
    simp_all

end Edge

structure SuspicionGraph where
  view : View
  weights : Std.ExtTreeMap Edge Float

namespace SuspicionGraph

def suspicionWeight : Float := 1.0

def empty (view : View) : SuspicionGraph := ⟨view, ∅⟩

def edgeCount (graph : SuspicionGraph) : Nat := graph.weights.size

def weight? (graph : SuspicionGraph) (reporter suspect : ReplicaId) : Option Float :=
  graph.weights[Edge.mk reporter suspect]?

def suspects (graph : SuspicionGraph) (reporter suspect : ReplicaId) : Bool :=
  graph.weights.contains ⟨reporter, suspect⟩

/-- Whether the query counts as an edge; every replica counts as suspecting
itself. -/
def existsEdge (graph : SuspicionGraph) (reporter suspect : ReplicaId) : Bool :=
  reporter == suspect || graph.suspects reporter suspect

def inDegree (graph : SuspicionGraph) (suspect : ReplicaId) : Nat :=
  graph.weights.keys.countP (·.suspect == suspect)

/-- All edges with their weights, ordered by reporter and suspect. -/
def edges (graph : SuspicionGraph) : List (Edge × Float) := graph.weights.toList

/-- Suspicions of oneself and of or by replicas outside the view are refused. -/
def accepts (graph : SuspicionGraph) (reporter suspect : ReplicaId) : Bool :=
  reporter != suspect && graph.view.contains reporter && graph.view.contains suspect

def strengthen (graph : SuspicionGraph) (reporter suspect : ReplicaId) : SuspicionGraph :=
  if graph.accepts reporter suspect then
    let weight := (graph.weight? reporter suspect).getD 0.0 + suspicionWeight
    { graph with weights := graph.weights.insert ⟨reporter, suspect⟩ weight }
  else
    graph

/-- Lowers every weight by `strength` and drops the edges that reach zero.
Nothing happens unless `strength` is positive. -/
def weaken (graph : SuspicionGraph) (strength : Float) : SuspicionGraph :=
  if strength > 0.0 then
    { graph with
      weights := graph.weights.filterMap fun _ weight =>
        let lowered := weight - strength
        if lowered > 0.0 then some lowered else none }
  else
    graph

/-! ## Changes that are reported

The same changes, together with the metrics they report.
-/

def reportEdges (graph : SuspicionGraph) : Logged Unit :=
  Logged.count { edgeCount := some graph.edgeCount }

/-- Records one suspicion; the result says whether it was accepted. -/
def addSuspicion (graph : SuspicionGraph) (reporter suspect : ReplicaId) :
    Logged (SuspicionGraph × Bool) := do
  let next := graph.strengthen reporter suspect
  next.reportEdges
  return (next, graph.accepts reporter suspect)

/-- Records all suspicions; the result says how many were accepted. -/
def populate (graph : SuspicionGraph) (suspicions : List Suspicion) :
    Logged (SuspicionGraph × Nat) := do
  let next := suspicions.foldl (fun graph s => graph.strengthen s.reporter s.suspect) graph
  let accepted := suspicions.countP fun s => graph.accepts s.reporter s.suspect
  Logged.count { suspicionsApplied := accepted }
  next.reportEdges
  return (next, accepted)

def removeSuspicions (graph : SuspicionGraph) (strength : Float) : Logged SuspicionGraph := do
  let next := graph.weaken strength
  if strength > 0.0 then
    next.reportEdges
  return next

def clearSuspicions (graph : SuspicionGraph) : Logged SuspicionGraph := do
  let next := empty graph.view
  next.reportEdges
  return next

/-- Moves to another view; every edge is dropped. -/
def resize (_ : SuspicionGraph) (view : View) : Logged SuspicionGraph := do
  let next := empty view
  next.reportEdges
  return next

end SuspicionGraph

end SuspicionMonitor
