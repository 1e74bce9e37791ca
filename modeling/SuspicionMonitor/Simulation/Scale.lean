import SuspicionMonitor.Graph.Candidates
import SuspicionMonitor.Random.ChaCha
import SuspicionMonitor.Simulation.Entanglement
import SuspicionMonitor.Stopwatch

/-!
# Candidate sets at scale

Both strategies on the same entangled graph, for growing fault bounds.
-/

namespace SuspicionMonitor

structure StrategyRun where
  strategy : CandidateStrategy
  candidates : Nat
  elapsedMicros : Option Nat
  searched : Bool
  timeouts : Nat
  deriving DecidableEq

structure ScaleReport where
  scale : Nat
  seed : UInt64
  view : View
  edges : Nat
  runs : List StrategyRun
  deriving DecidableEq

namespace ScaleReport

def faultsPerScale : Nat := 10

/-- The smallest view that tolerates ten faults for each step of scale. -/
def viewAt (scale : Nat) : View :=
  ⟨3 * (faultsPerScale * scale) + 1, faultsPerScale * scale, Nat.le_refl _⟩

/-- The edges of the step, drawn from a seed of its own. -/
def edgesAt (scale : Nat) (seed : UInt64) : List Edge :=
  (entangle (viewAt scale) (ChaCha.Generator.ofSeed (seed ^^^ UInt64.ofNat scale))).1

def graphOf (view : View) (edges : List Edge) : Logged SuspicionGraph :=
  edges.foldlM
    (fun (graph : SuspicionGraph) edge => do
      let (graph, _) ← graph.addSuspicion edge.reporter edge.suspect
      return graph)
    (SuspicionGraph.empty view)

variable {m : Type → Type} [Monad m]

/-- Fills a graph, and measures the search for its candidates. -/
def runStrategy (stopwatch : Stopwatch m) (view : View) (edges : List Edge)
    (settings : GraphSettings) (strategy : CandidateStrategy) : m (Logged StrategyRun) := do
  let settings := { settings with strategy }
  let filled := graphOf view edges
  let (found, elapsedMicros) ← stopwatch.measure fun _ => filled.value.candidateSet? settings
  return do
    let _ ← filled
    let ids ← found
    return {
      strategy
      candidates := (ids.getD []).length
      elapsedMicros
      searched := settings.searches view.n
      timeouts := found.metrics.exhaustiveTimeouts
    }

def run (stopwatch : Stopwatch m) (scale : Nat) (seed : UInt64) (settings : GraphSettings) :
    m (Logged ScaleReport) := do
  let view := viewAt scale
  let edges := edgesAt scale seed
  let runs ← [CandidateStrategy.heuristic, CandidateStrategy.exhaustive].mapM
    (runStrategy stopwatch view edges settings)
  return do
    return { scale, seed, view, edges := edges.length, runs := ← runs.mapM id }

end ScaleReport

end SuspicionMonitor
