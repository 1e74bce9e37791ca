import SuspicionMonitor.Data.Forms
import SuspicionMonitor.Simulation.Scale
import SuspicionMonitor.Simulation.Scenario

/-!
# Reports of simulations

Every report can be written as JSON and as lines of text.
-/

namespace SuspicionMonitor

instance : ToJson CandidateStrategy := ⟨fun strategy => .text strategy.text⟩

/-- A time that was not measured is left out. -/
instance : ToJson StrategyRun where
  json run := .object ([
      ("strategy", json run.strategy),
      ("candidates", json run.candidates)] ++
    (run.elapsedMicros.toList.map fun elapsed => ("elapsed_micros", json elapsed)) ++ [
      ("exhaustive_eligible", json run.searched),
      ("timeouts", json run.timeouts)])

instance : ToJson ScaleReport where
  json report := .object [
    ("scale", json report.scale),
    ("seed", json report.seed),
    ("n", json report.view.n),
    ("f", json report.view.f),
    ("floor", json report.view.candidateFloor),
    ("edges", json report.edges),
    ("runs", json report.runs)]

instance : ToJson Accusation := ⟨fun accusation => json (accusation.liar, accusation.victim)⟩

instance : ToJson ScenarioReport where
  json report := .object [
    ("n", json report.view.n),
    ("f", json report.view.f),
    ("seed", json report.seed),
    ("liars", json (report.accusations.map Accusation.liar)),
    ("accusations", json report.accusations),
    ("instances", json report.instances),
    ("edges", json report.edges),
    ("candidates", json report.candidates),
    ("agreed", json report.agreed)]

namespace ScaleReport

def padded (width : Nat) (cell : String) : String :=
  String.ofList (List.replicate (width - cell.length) ' ') ++ cell

/-- Three groups of columns, the cells aligned to the right. -/
def tableRow (cells : List (List String)) : String :=
  let widths := [[5, 5, 4, 6, 5], [10, 10], [10, 10, 8]]
  " | ".intercalate (widths.zipWith
    (fun widths cells => " ".intercalate (widths.zipWith padded cells)) cells)

def tableHeader : String :=
  tableRow [["scale", "n", "f", "edges", "floor"], ["heur.size", "heur.us"],
    ["exh.size", "exh.us", "timeouts"]]

/-- The row of a report; a size is marked if it was not searched for
exhaustively. -/
def row (report : ScaleReport) : Option String :=
  let time := fun (run : StrategyRun) => (run.elapsedMicros.map toString).getD ""
  match report.runs with
  | [heuristic, exhaustive] =>
      let mark := if exhaustive.searched then "" else " (h)"
      some (tableRow [
        [report.scale, report.view.n, report.view.f, report.edges,
          report.view.candidateFloor].map toString,
        [toString heuristic.candidates, time heuristic],
        [toString exhaustive.candidates ++ mark, time exhaustive, toString exhaustive.timeouts]])
  | _ => none

end ScaleReport

namespace ScenarioReport

def bracketed (items : List String) : String := "[" ++ ", ".intercalate items ++ "]"

def edgeText (edge : Edge) : String :=
  "(" ++ toString edge.reporter.toNat ++ ", " ++ toString edge.suspect.toNat ++ ")"

def accusationText (accusation : Accusation) : String :=
  "  " ++ toString accusation.liar.toNat ++ " accused " ++ toString accusation.victim.toNat

def lines (report : ScenarioReport) : List String :=
  ["view: " ++ report.view.text ++ " seed=" ++ toString report.seed.toNat] ++
    report.accusations.map accusationText ++ [
      "instances delivered: " ++ report.instances.text,
      "suspicion edges:     " ++ bracketed (report.edges.map edgeText),
      "candidates:          " ++ bracketed (report.candidates.map fun id => toString id.toNat),
      "agreement:           " ++ (if report.agreed then "all replicas agree" else "DIVERGED")]

end ScenarioReport

end SuspicionMonitor
