import SuspicionMonitor.Data.Basic
import SuspicionMonitor.Data.Json
import SuspicionMonitor.Expectation
import SuspicionMonitor.Graph.Basic
import SuspicionMonitor.LatencyVector
import SuspicionMonitor.Metrics
import SuspicionMonitor.Suspicion

/-!
# JSON forms

How the types of the monitor are read from plain data and written as JSON.  A
record is an object with all its fields, or a list of them in order; a name is
a string, or an object whose only key is the name.
-/

namespace SuspicionMonitor

/-- Types with a JSON form that can be read. -/
class OfData (α : Type) where
  ofData? : Data → Option α

/-- Types with a JSON form that can be written. -/
class ToJson (α : Type) where
  json : α → Json

export OfData (ofData?)
export ToJson (json)

namespace Data

def integerWithin? (low high : Int) : Data → Option Int
  | .integer value => if low ≤ value && value ≤ high then some value else none
  | _ => none

def name? : Data → Option String
  | .text name => some name
  | .table [(name, .null)] => some name
  | _ => none

/-- The one of the choices whose name is given. -/
def choice? {α : Type} (name : α → String) (choices : List α) (data : Data) : Option α := do
  let given ← data.name?
  choices.find? fun choice => name choice == given

/-- The fields of a record, in the order of their names. -/
def record? (names : List String) : Data → Option (List Data)
  | .table entries => names.mapM (find? entries)
  | .list items => if items.length = names.length then some items else none
  | _ => none

end Data

instance : OfData Data := ⟨some⟩

instance : OfData Bool where
  ofData? data :=
    match data with
    | .bool value => some value
    | _ => none

instance : OfData String where
  ofData? data :=
    match data with
    | .text value => some value
    | _ => none

/-- Counts have 64 bits. -/
instance : OfData Nat where
  ofData? data := (data.integerWithin? 0 (UInt64.size - 1)).map Int.toNat

instance : OfData UInt16 where
  ofData? data := (data.integerWithin? 0 (UInt16.size - 1)).map UInt16.ofInt

instance : OfData ReplicaId where
  ofData? data := (data.integerWithin? 0 (UInt32.size - 1)).map UInt32.ofInt

instance : OfData UInt64 where
  ofData? data := (data.integerWithin? 0 (UInt64.size - 1)).map UInt64.ofInt

instance : OfData Round where
  ofData? data :=
    (data.integerWithin? Int32.minValue.toInt Int32.maxValue.toInt).map Int32.ofInt

instance : OfData Nanos where
  ofData? data :=
    (data.integerWithin? Int64.minValue.toInt Int64.maxValue.toInt).map Int64.ofInt

instance {α : Type} [OfData α] : OfData (List α) where
  ofData? data :=
    match data with
    | .list items => items.mapM ofData?
    | _ => none

instance {α β : Type} [OfData α] [OfData β] : OfData (α × β) where
  ofData? data :=
    match data with
    | .list [first, second] => do return (← ofData? first, ← ofData? second)
    | _ => none

def Phase.name : Phase → String
  | propose => "Propose"
  | write => "Write"
  | accept => "Accept"
  | unknown => "Unknown"

instance : OfData Phase where
  ofData? := Data.choice? Phase.name [.propose, .write, .accept, .unknown]

def SuspicionKind.name : SuspicionKind → String
  | slow => "Slow"
  | falseAccusation => "FalseAccusation"

instance : OfData SuspicionKind where
  ofData? := Data.choice? SuspicionKind.name [.slow, .falseAccusation]

def ValueKind.name : ValueKind → String
  | latency => "Latency"
  | suspicion => "Suspicion"

instance : OfData ValueKind where
  ofData? := Data.choice? ValueKind.name [.latency, .suspicion]

instance : OfData Suspicion where
  ofData? data := do
    match ← data.record? ["consensus_id", "phase", "kind", "suspect", "reporter"] with
    | [round, phase, kind, suspect, reporter] =>
        return {
          round := ← ofData? round
          phase := ← ofData? phase
          kind := ← ofData? kind
          suspect := ← ofData? suspect
          reporter := ← ofData? reporter
        }
    | _ => none

/-- The lists may differ in length. -/
instance : OfData LatencyVector where
  ofData? data := do
    match ← data.record? ["write_latencies", "propose_latencies"] with
    | [write, propose] => return { write := ← ofData? write, propose := ← ofData? propose }
    | _ => none

instance : OfData Expectation where
  ofData? data := do
    match ← data.record? ["round", "propose", "write_arrival", "accept_arrival"] with
    | [round, propose, writeArrival, acceptArrival] =>
        return {
          round := ← ofData? round
          propose := ← ofData? propose
          writeArrival := ← ofData? writeArrival
          acceptArrival := ← ofData? acceptArrival
        }
    | _ => none

/-- The counts of a view, whether there is such a view or not. -/
structure ViewCounts where
  n : Nat
  f : Nat
  deriving DecidableEq

instance : OfData ViewCounts where
  ofData? data := do
    match ← data.record? ["n", "f"] with
    | [n, f] => return { n := ← ofData? n, f := ← ofData? f }
    | _ => none

/-! ## Writing -/

instance : ToJson Json := ⟨id⟩

instance : ToJson Unit := ⟨fun _ => .null⟩

instance : ToJson Bool := ⟨.bool⟩

instance : ToJson String := ⟨.text⟩

instance : ToJson Nat := ⟨fun value => .integer value⟩

instance : ToJson UInt16 := ⟨fun value => .integer value.toNat⟩

instance : ToJson ReplicaId := ⟨fun id => .integer id.toNat⟩

instance : ToJson UInt64 := ⟨fun value => .integer value.toNat⟩

instance : ToJson Round := ⟨fun round => .integer round.toInt⟩

instance : ToJson Nanos := ⟨fun latency => .integer latency.toInt⟩

instance {α : Type} [ToJson α] : ToJson (List α) := ⟨fun items => .list (items.map json)⟩

instance {α : Type} [ToJson α] : ToJson (Array α) := ⟨fun items => json items.toList⟩

instance {α : Type} [ToJson α] : ToJson (Option α) where
  json value :=
    match value with
    | none => .null
    | some value => json value

instance {α β : Type} [ToJson α] [ToJson β] : ToJson (α × β) :=
  ⟨fun (first, second) => .list [json first, json second]⟩

instance : ToJson Phase := ⟨fun phase => .text phase.name⟩

instance : ToJson SuspicionKind := ⟨fun kind => .text kind.name⟩

instance : ToJson ValueKind := ⟨fun kind => .text kind.name⟩

instance : ToJson ViewCounts :=
  ⟨fun counts => .object [("n", json counts.n), ("f", json counts.f)]⟩

instance : ToJson View := ⟨fun view => json (ViewCounts.mk view.n view.f)⟩

instance : ToJson Edge := ⟨fun edge => json (edge.reporter, edge.suspect)⟩

instance : ToJson Suspicion where
  json suspicion := .object [
    ("consensus_id", json suspicion.round),
    ("phase", json suspicion.phase),
    ("kind", json suspicion.kind),
    ("suspect", json suspicion.suspect),
    ("reporter", json suspicion.reporter)]

instance : ToJson LatencyVector where
  json vector := .object [
    ("write_latencies", json vector.write),
    ("propose_latencies", json vector.propose)]

instance : ToJson Expectation where
  json expectation := .object [
    ("round", json expectation.round),
    ("propose", json expectation.propose),
    ("write_arrival", json expectation.writeArrival),
    ("accept_arrival", json expectation.acceptArrival)]

/-- A gauge that was never reported reads zero. -/
instance : ToJson Metrics where
  json metrics := .object [
    ("suspicions_emitted", json metrics.suspicionsEmitted),
    ("false_accusations_emitted", json metrics.falseAccusationsEmitted),
    ("latency_vectors_emitted", json metrics.latencyVectorsEmitted),
    ("suspicions_applied", json metrics.suspicionsApplied),
    ("decode_failures", json metrics.decodeFailures),
    ("configuration_resets", json metrics.configurationResets),
    ("decay_steps", json metrics.decaySteps),
    ("measurements_collected", json metrics.measurementsCollected),
    ("candidate_sets_computed", json metrics.candidateSetsComputed),
    ("exhaustive_timeouts", json metrics.exhaustiveTimeouts),
    ("edge_count", json (metrics.edgeCount.getD 0))]

end SuspicionMonitor
