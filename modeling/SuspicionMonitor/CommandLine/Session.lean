import SuspicionMonitor.CommandLine.Invocation
import SuspicionMonitor.Settings.File
import SuspicionMonitor.Settings.Layers
import SuspicionMonitor.Simulation.Report

/-!
# A call of the program

A call finds its settings, runs a simulation, and writes reports: a table or
lines of text, or JSON with the metrics of the whole call at the end.
-/

namespace SuspicionMonitor

inductive RunError where
  | file (path : String)
  | layers
  | scenario (cause : ScenarioError)

def RunError.message : RunError → String
  | file path => "loading " ++ path
  | layers => "loading settings"
  | scenario cause => cause.message

inductive Output where
  | values (reports : List Json)
  | text (lines : List String)

def Output.lines : Output → List String
  | values reports => reports.map Json.render
  | text lines => lines

/-- How a call ends. -/
inductive Ending where
  | reported (output : Output)
  | failed (error : RunError)
  | misused

def Ending.exitCode : Ending → UInt32
  | reported _ => 0
  | failed _ => 1
  | misused => 2

namespace Invocation

variable {m : Type → Type} [Monad m]

def settings (invocation : Invocation) (surroundings : Surroundings m) :
    m (Except RunError Settings) := do
  match invocation.settingsFile with
  | some path =>
      return (Settings.ofFile (← surroundings.contents path)).mapError fun _ => .file path
  | none =>
      return (← surroundings.load "" Layers.standardStart true).mapError fun _ => .layers

/-- The reports of a simulation as JSON and as lines of text. -/
def simulate (experiment : Experiment) (settings : Settings) (stopwatch : Stopwatch m) :
    m (Logged (Except RunError (List Json × List String))) := do
  match experiment with
  | .scale scale seed =>
      let scales := match scale with
        | some scale => [scale]
        | none => (List.range largestScale).map (· + 1)
      let reports ← scales.mapM fun scale => ScaleReport.run stopwatch scale seed settings.graph
      return do
        let reports ← reports.mapM id
        return .ok (reports.map json, ScaleReport.tableHeader :: reports.filterMap ScaleReport.row)
  | .scenario n f liars seed =>
      return do
        match ← Scenario.run n f liars seed settings with
        | .error error => return .error (.scenario error)
        | .ok report => return .ok ([json report], report.lines)

/-- Runs what was asked for. -/
def run (invocation : Invocation) (surroundings : Surroundings m) (stopwatch : Stopwatch m) :
    m Ending := do
  match ← invocation.settings surroundings with
  | .error error => return .failed error
  | .ok settings =>
      let outcome ← simulate invocation.experiment settings stopwatch
      match outcome.value with
      | .error error => return .failed error
      | .ok (values, lines) =>
          if invocation.asJson then return .reported (.values (values ++ [json outcome.metrics]))
          else return .reported (.text lines)

end Invocation

/-- A call of the program with words from the command line. -/
def call {m : Type → Type} [Monad m] (surroundings : Surroundings m) (stopwatch : Stopwatch m)
    (words : List String) : m Ending := do
  match Invocation.ofWords? words with
  | none => return .misused
  | some invocation => invocation.run surroundings stopwatch

end SuspicionMonitor
