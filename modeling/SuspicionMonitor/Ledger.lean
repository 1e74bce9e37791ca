import SuspicionMonitor.Graph.Basic
import SuspicionMonitor.Settings.Basic
import Std.Data.ExtTreeSet

/-!
# The ledger of ordered suspicions

Every correct replica sees the same suspicions in the same order and keeps
them in a ledger, which feeds the suspicion graph.  Of each round only the
suspicions of the earliest phase are fed, each at most once: a slow proposal
makes every later vote of the round late too.

The graph decays as rounds pass.  Rounds below the low-water mark have been
collected, and suspicions about them are refused.
-/

namespace SuspicionMonitor

structure Ledger where
  graph : SuspicionGraph
  held : Std.ExtTreeSet Suspicion := ∅
  /-- The held suspicions that the graph has been fed with. -/
  fed : Std.ExtTreeSet Suspicion := ∅
  lowWater : Option Round := none
  lastDecay : Round := 0
  decaySteps : Nat := 0

namespace Ledger

def empty (view : View) : Ledger := { graph := SuspicionGraph.empty view }

def size (ledger : Ledger) : Nat := ledger.held.size

def isEmpty (ledger : Ledger) : Bool := ledger.held.isEmpty

/-- The held suspicions in ascending order. -/
def suspicions (ledger : Ledger) : List Suspicion := ledger.held.toList

def admits (ledger : Ledger) (suspicion : Suspicion) : Bool :=
  match ledger.lowWater with
  | none => true
  | some low => low ≤ suspicion.round

/-- Whether storing the suspicion would change the ledger. -/
def isNew (ledger : Ledger) (suspicion : Suspicion) : Bool :=
  ledger.admits suspicion && !ledger.held.contains suspicion

def store (ledger : Ledger) (suspicion : Suspicion) : Ledger :=
  if ledger.isNew suspicion then
    { ledger with held := ledger.held.insert suspicion }
  else
    ledger

/-- Stores the suspicions one after the other and counts the new ones. -/
def storeAll (ledger : Ledger) (suspicions : List Suspicion) : Ledger × Nat :=
  suspicions.foldl
    (fun (ledger, stored) suspicion =>
      (ledger.store suspicion, stored + if ledger.isNew suspicion then 1 else 0))
    (ledger, 0)

/-- The suspicions of an ascending list that belong to the first phase of
their round.  The phase `lead` belongs to the round of the suspicion before. -/
def leadingAfter : (lead : Option (Round × Phase)) → List Suspicion → List Suspicion
  | _, [] => []
  | none, suspicion :: rest =>
      suspicion :: leadingAfter (some (suspicion.round, suspicion.phase)) rest
  | some (round, phase), suspicion :: rest =>
      if suspicion.round = round then
        if suspicion.phase = phase then
          suspicion :: leadingAfter (some (round, phase)) rest
        else
          leadingAfter (some (round, phase)) rest
      else
        suspicion :: leadingAfter (some (suspicion.round, suspicion.phase)) rest

/-- The held suspicions of the earliest phase of each round. -/
def leading (ledger : Ledger) : List Suspicion := leadingAfter none ledger.suspicions

/-- The suspicions the graph is to be fed with next. -/
def due (ledger : Ledger) : List Suspicion :=
  ledger.leading.filter fun suspicion => !ledger.fed.contains suspicion

/-- Feeds the graph with what is due; the result says how many that were. -/
def build (ledger : Ledger) : Logged (Ledger × Nat) := do
  let due := ledger.due
  if due.isEmpty then
    return (ledger, 0)
  else
    let (graph, _) ← ledger.graph.populate due
    return ({ ledger with graph, fed := ledger.fed.insertMany due }, due.length)

/-! ## Decay and collection -/

/-- Decays the graph if at least the decay interval has passed since the last
decay; the result says whether it did. -/
def decay (ledger : Ledger) (settings : LedgerSettings) (round : Round) :
    Logged (Ledger × Bool) := do
  let elapsed := round.since ledger.lastDecay
  if elapsed < settings.decayInterval.toNat then
    return (ledger, false)
  else
    Logged.count { decaySteps := 1 }
    let graph ← ledger.graph.removeSuspicions (settings.decayRate * Float.ofNat elapsed)
    return ({ ledger with graph, lastDecay := round, decaySteps := ledger.decaySteps + 1 }, true)

/-- Forgets the suspicions about rounds below `low` and refuses new ones from
now on; the result says how many were held.  The mark never falls. -/
def collect (ledger : Ledger) (low : Round) : Logged (Ledger × Nat) := do
  let held := ledger.held.filter fun suspicion => low ≤ suspicion.round
  let dropped := ledger.held.size - held.size
  Logged.count { measurementsCollected := dropped }
  return ({ ledger with
    held
    fed := ledger.fed.filter fun suspicion => low ≤ suspicion.round
    lowWater := some (match ledger.lowWater with
      | none => low
      | some mark => max mark low) }, dropped)

/-- Forgets everything and moves the graph to another view. -/
def reset (ledger : Ledger) (view : View) : Logged Ledger := do
  let graph ← ledger.graph.resize view
  return { graph }

/-- Stores the suspicion that `sender` sent, if the payload is one. -/
def notify (ledger : Ledger) (sender : ReplicaId) (payload : Bytes) : Logged Ledger := do
  match Suspicion.decode payload sender with
  | .ok suspicion => return ledger.store suspicion
  | .error _ =>
      Logged.count { decodeFailures := 1 }
      return ledger

end Ledger

end SuspicionMonitor
