import SuspicionMonitor.Decimal.Fixed
import SuspicionMonitor.Graph.Basic

/-!
# The suspicion graph as text
-/

namespace SuspicionMonitor

/-- One line per edge, the weight with two places. -/
def SuspicionGraph.text (graph : SuspicionGraph) : String :=
  if graph.weights.isEmpty then
    "[graph is empty]"
  else
    String.join (graph.edges.map fun (edge, weight) =>
      toString edge.reporter.toNat ++ " --(" ++ Decimal.fixedText 2 weight ++ ")--> " ++
        toString edge.suspect.toNat ++ "\n")

end SuspicionMonitor
