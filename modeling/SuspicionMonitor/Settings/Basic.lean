import SuspicionMonitor.Duration
import SuspicionMonitor.Round

/-!
# Settings

The tunable numbers of a monitor, in four sections.
-/

namespace SuspicionMonitor

structure SensorSettings where
  /-- How many times the expected delay counts as slow. -/
  suspicionDelta : Float
  /-- Rounds between two reconfigurations. -/
  calculationInterval : Int32
  /-- Rounds from the start of an interval to its reconfiguration. -/
  calculationDelay : Int32
  /-- How many rounds the sensor remembers. -/
  history : UInt64
  deriving DecidableEq

structure LedgerSettings where
  /-- Rounds between two decay steps. -/
  decayInterval : UInt32
  /-- Weight an edge loses per round. -/
  decayRate : Float
  /-- For how many rounds suspicions are kept. -/
  retention : UInt32
  deriving DecidableEq

inductive CandidateStrategy where
  | heuristic
  | exhaustive
  deriving DecidableEq

namespace CandidateStrategy

def text : CandidateStrategy → String
  | heuristic => "heuristic"
  | exhaustive => "exhaustive"

def ofText? (text : String) : Option CandidateStrategy :=
  if text = "heuristic" then some heuristic
  else if text = "exhaustive" then some exhaustive
  else none

end CandidateStrategy

structure GraphSettings where
  strategy : CandidateStrategy
  /-- Time the exhaustive search may take, in milliseconds. -/
  exhaustiveBudget : UInt64
  /-- The largest view searched exhaustively. -/
  exhaustiveMaxVertices : UInt64
  deriving DecidableEq

structure LatencySettings where
  /-- How many latencies per peer are kept. -/
  monitoringWindow : UInt64
  /-- Milliseconds before the first dissemination. -/
  syncDelay : UInt64
  /-- Milliseconds between two disseminations. -/
  syncPeriod : UInt64
  /-- Milliseconds between two refreshes of the expectation. -/
  expectationRefresh : UInt64
  deriving DecidableEq

structure Settings where
  sensor : SensorSettings
  ledger : LedgerSettings
  graph : GraphSettings
  latency : LatencySettings
  deriving DecidableEq

namespace SensorSettings

def standard : SensorSettings where
  suspicionDelta := 1.5
  calculationInterval := 1000
  calculationDelay := 100
  history := 1000

end SensorSettings

namespace LedgerSettings

def standard : LedgerSettings where
  decayInterval := 100
  decayRate := 0.1
  retention := 1000

end LedgerSettings

namespace GraphSettings

def standard : GraphSettings where
  strategy := .heuristic
  exhaustiveBudget := 100
  exhaustiveMaxVertices := 64

end GraphSettings

namespace LatencySettings

def standard : LatencySettings where
  monitoringWindow := 1000
  syncDelay := 10000
  syncPeriod := 10000
  expectationRefresh := 1000

end LatencySettings

namespace Settings

def standard : Settings where
  sensor := .standard
  ledger := .standard
  graph := .standard
  latency := .standard

/-- Standard settings with timers quick enough for a simulation. -/
def simulation : Settings where
  sensor := .standard
  ledger := .standard
  graph := .standard
  latency := { LatencySettings.standard with
    syncDelay := 0
    syncPeriod := 10
    expectationRefresh := 10 }

end Settings

end SuspicionMonitor
