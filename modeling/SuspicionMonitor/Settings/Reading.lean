import SuspicionMonitor.Data.Basic
import SuspicionMonitor.Settings.Basic

/-!
# Settings from plain data

Settings are a table of four sections.  A section is a table, or a list of its
fields in order.  What is not given keeps the value of the base, and unknown
keys are ignored.  Formats differ in how scalars are converted and in whether a
list may be longer than the section.
-/

namespace SuspicionMonitor

/-- How a format reads scalars.  Integers are given with the range of their
field. -/
structure ScalarRules where
  signed : (low high : Int) → Data → Option Int
  unsigned : (high : Nat) → Data → Option Nat
  float : Data → Option Float
  strategy : Data → Option CandidateStrategy
  /-- Whether surplus items of a list are ignored. -/
  surplusItems : Bool

namespace ScalarRules

variable (rules : ScalarRules)

def int32 (data : Data) : Option Int32 :=
  (rules.signed Int32.minValue.toInt Int32.maxValue.toInt data).map Int32.ofInt

def uint32 (data : Data) : Option UInt32 :=
  (rules.unsigned (UInt32.size - 1) data).map UInt32.ofNat

def uint64 (data : Data) : Option UInt64 :=
  (rules.unsigned (UInt64.size - 1) data).map UInt64.ofNat

end ScalarRules

namespace Settings

/-- The fields of a section by name; a list is read in the order of the
names. -/
def fields? (surplusItems : Bool) (names : List String) : Data → Option (List (String × Data))
  | .table entries => some entries
  | .list items =>
      if surplusItems || items.length ≤ names.length then some (names.zip items) else none
  | _ => none

/-- The field of that name, or the base value if it is not given. -/
def field {α : Type} (entries : List (String × Data)) (name : String) (base : α)
    (read : Data → Option α) : Option α :=
  match Data.find? entries name with
  | none => some base
  | some data => read data

variable (rules : ScalarRules)

def readSensor (base : SensorSettings) (data : Data) : Option SensorSettings := do
  let entries ← fields? rules.surplusItems
    ["suspicion_delta", "calculation_interval", "calculation_delay", "history"] data
  return {
    suspicionDelta := ← field entries "suspicion_delta" base.suspicionDelta rules.float
    calculationInterval :=
      ← field entries "calculation_interval" base.calculationInterval rules.int32
    calculationDelay := ← field entries "calculation_delay" base.calculationDelay rules.int32
    history := ← field entries "history" base.history rules.uint64
  }

def readLedger (base : LedgerSettings) (data : Data) : Option LedgerSettings := do
  let entries ← fields? rules.surplusItems ["decay_interval", "decay_rate", "gc_retention"] data
  return {
    decayInterval := ← field entries "decay_interval" base.decayInterval rules.uint32
    decayRate := ← field entries "decay_rate" base.decayRate rules.float
    retention := ← field entries "gc_retention" base.retention rules.uint32
  }

def readGraph (base : GraphSettings) (data : Data) : Option GraphSettings := do
  let entries ← fields? rules.surplusItems
    ["strategy", "exhaustive_budget_ms", "exhaustive_max_vertices"] data
  return {
    strategy := ← field entries "strategy" base.strategy rules.strategy
    exhaustiveBudget := ← field entries "exhaustive_budget_ms" base.exhaustiveBudget rules.uint64
    exhaustiveMaxVertices :=
      ← field entries "exhaustive_max_vertices" base.exhaustiveMaxVertices rules.uint64
  }

def readLatency (base : LatencySettings) (data : Data) : Option LatencySettings := do
  let entries ← fields? rules.surplusItems
    ["monitoring_window", "sync_delay_ms", "sync_period_ms", "expectation_refresh_ms"] data
  return {
    monitoringWindow := ← field entries "monitoring_window" base.monitoringWindow rules.uint64
    syncDelay := ← field entries "sync_delay_ms" base.syncDelay rules.uint64
    syncPeriod := ← field entries "sync_period_ms" base.syncPeriod rules.uint64
    expectationRefresh :=
      ← field entries "expectation_refresh_ms" base.expectationRefresh rules.uint64
  }

/-- Settings over a base; `none` if something has the wrong form. -/
def read (base : Settings) (data : Data) : Option Settings := do
  let entries ← fields? rules.surplusItems ["sensor", "aggregator", "graph", "latency"] data
  return {
    sensor := ← field entries "sensor" base.sensor (readSensor rules base.sensor)
    ledger := ← field entries "aggregator" base.ledger (readLedger rules base.ledger)
    graph := ← field entries "graph" base.graph (readGraph rules base.graph)
    latency := ← field entries "latency" base.latency (readLatency rules base.latency)
  }

end Settings

namespace ScalarRules

def exactInteger (low high : Int) : Data → Option Int
  | .integer value => if low ≤ value && value ≤ high then some value else none
  | _ => none

def exactNatural (high : Nat) (data : Data) : Option Nat :=
  (exactInteger 0 high data).map Int.toNat

/-- A float, or an integer of 64 bits. -/
def exactFloat : Data → Option Float
  | .float value => some value
  | .integer value =>
      if Int64.minValue.toInt ≤ value && value < UInt64.size then some (Float.ofInt value)
      else none
  | _ => none

/-- The name of a strategy. -/
def namedStrategy : Data → Option CandidateStrategy
  | .text name => CandidateStrategy.ofText? name
  | _ => none

/-- The name of a strategy, or a table whose only key is the name of a strategy
without contents. -/
def taggedStrategy : Data → Option CandidateStrategy
  | .table [(name, .null)] => CandidateStrategy.ofText? name
  | data => namedStrategy data

/-- The name of a strategy, or a table whose only key is the name of a strategy
with an empty table or an empty list behind it. -/
def emptyTaggedStrategy : Data → Option CandidateStrategy
  | .table [(name, .table [])] => CandidateStrategy.ofText? name
  | .table [(name, .list [])] => CandidateStrategy.ofText? name
  | data => namedStrategy data

/-- JSON: nothing is converted but integers to floats. -/
def json : ScalarRules where
  signed := exactInteger
  unsigned := exactNatural
  float := exactFloat
  strategy := taggedStrategy
  surplusItems := false

/-- TOML files that are read on their own. -/
def toml : ScalarRules where
  signed := exactInteger
  unsigned := exactNatural
  float := exactFloat
  strategy := emptyTaggedStrategy
  surplusItems := true

end ScalarRules

end SuspicionMonitor
