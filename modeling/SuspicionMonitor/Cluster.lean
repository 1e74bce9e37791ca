import SuspicionMonitor.Agenda
import SuspicionMonitor.Replica
import Std.Data.ExtTreeMap

/-!
# Replicas over one total order

A cluster holds replicas, the values that wait to be ordered, and a clock that
only moves when it is set.  Every delivery takes all waiting values and hands
them to the replicas, one after the other; what these submit meanwhile waits
for the next delivery.

Timers run in a virtual time of their own, counted in milliseconds.  A replica
that stops its timers cancels them all and begins a new generation: should a
timer of an older one be left over, its job is stale.
-/

namespace SuspicionMonitor

inductive TimerJob where
  | disseminate
  | refresh
  deriving DecidableEq

/-- A job for the replica at a position of the cluster, of the generation in
which it was started. -/
structure Timer where
  position : Nat
  generation : UInt64
  job : TimerJob
  deriving DecidableEq

/-- What a replica knows of its timers: the present generation, which counts how
often they were stopped, and the handles of those started since. -/
structure TimerRecord where
  generation : UInt64 := 0
  handles : List Nat := []

structure Cluster where
  replicas : List Replica
  pending : List Submission := []
  clock : Nanos := 0
  nextRound : Round := 1
  time : Nat := 0
  agenda : Agenda Timer := []
  nextHandle : Nat := 0
  /-- The records of the replicas that have started or stopped timers, by
  position. -/
  timerRecords : Std.ExtTreeMap Nat TimerRecord := ∅

namespace Cluster

/-- One fresh replica for each id of the view. -/
def ofSettings (view : View) (settings : Settings) : Except MonitorError Cluster := do
  let replicas ← view.replicas.mapM fun id => Replica.ofSettings id view settings
  return { replicas }

/-- Lets the submissions of an action wait to be ordered. -/
def absorb {α : Type} (cluster : Cluster) (action : Logged α) : Logged (Cluster × α) :=
  { value := ({ cluster with pending := cluster.pending ++ action.submissions }, action.value)
    metrics := action.metrics }

/-- Acts on every replica in turn. -/
def onEach {α : Type} (cluster : Cluster) (action : Replica → Logged (Replica × α)) :
    Logged (Cluster × List α) := do
  let (cluster, outcomes) ← cluster.absorb (cluster.replicas.mapM action)
  return ({ cluster with replicas := outcomes.map Prod.fst }, outcomes.map Prod.snd)

/-- Acts on the replica at a position, if there is one. -/
def onReplica {α : Type} (cluster : Cluster) (position : Nat)
    (action : Replica → Logged (Replica × α)) : Logged (Cluster × Option α) := do
  match cluster.replicas[position]? with
  | none => return (cluster, none)
  | some replica =>
      let (cluster, replica, outcome) ← cluster.absorb (action replica)
      return ({ cluster with replicas := cluster.replicas.set position replica }, some outcome)

/-- Submits a suspicion on behalf of any replica. -/
def publish (cluster : Cluster) (sender : ReplicaId) (suspicion : Suspicion) :
    Logged Cluster := do
  let (cluster, ()) ← cluster.absorb (suspicion.publish sender)
  return cluster

/-- Orders everything that waits in the next round. -/
def deliver (cluster : Cluster) : Logged (Cluster × List Submission) := do
  let batch := cluster.pending
  let round := cluster.nextRound
  let (cluster, _) ← { cluster with pending := [], nextRound := round.plus 1 }.onEach
    fun replica => do
      let replica ← replica.deliver round batch
      return (replica, ())
  return (cluster, batch)

/-- Delivers until nothing waits, at most `limit` times; the result says how
often. -/
def settleWithin (cluster : Cluster) : (limit : Nat) → Logged (Cluster × Nat)
  | 0 => return (cluster, 0)
  | limit + 1 => do
      if cluster.pending.isEmpty then
        return (cluster, 0)
      else
        let (cluster, _) ← cluster.deliver
        let (cluster, deliveries) ← cluster.settleWithin limit
        return (cluster, deliveries + 1)

/-- Settling is given up after so many deliveries. -/
def settleLimit : Nat := 64

def settle (cluster : Cluster) : Logged (Cluster × Nat) := cluster.settleWithin settleLimit

/-- The replica records the same latencies towards all peers, those of its view
unless told otherwise, and none towards itself. -/
def recordUniform (write propose : Nanos) (replica : Replica)
    (peers : List ReplicaId := replica.view.replicas) : Replica :=
  peers.foldl
    (fun replica peer =>
      let isSelf := peer == replica.id
      (replica.recordWrite peer (if isSelf then 0 else write)).recordPropose peer
        (if isSelf then 0 else propose))
    replica

def timerRecord (cluster : Cluster) (position : Nat) : TimerRecord :=
  (cluster.timerRecords[position]?).getD {}

/-- Whether the timer belongs to the present generation of its replica. -/
def isCurrent (cluster : Cluster) (timer : Timer) : Bool :=
  (cluster.timerRecord timer.position).generation == timer.generation

/-- Cancels the timers of the replica at a position. -/
def stopTimers (cluster : Cluster) (position : Nat) : Cluster :=
  let record := cluster.timerRecord position
  { cluster with
    agenda := cluster.agenda.cancel record.handles
    timerRecords := cluster.timerRecords.insert position
      { generation := record.generation + 1, handles := [] } }

/-- Adds a timer to those of the replica at a position. -/
def addTimer (cluster : Cluster) (position : Nat) (job : TimerJob) (delay period : UInt64) :
    Cluster :=
  let record := cluster.timerRecord position
  { cluster with
    agenda := cluster.agenda ++ [
      { handle := cluster.nextHandle
        job := ⟨position, record.generation, job⟩
        due := cluster.time + delay.toNat
        period := period.toNat }]
    nextHandle := cluster.nextHandle + 1
    timerRecords := cluster.timerRecords.insert position
      { record with handles := record.handles ++ [cluster.nextHandle] } }

/-- Starts the two timers of the replica at a position anew. -/
def startTimers (cluster : Cluster) (position : Nat) : Cluster :=
  match cluster.replicas[position]? with
  | none => cluster
  | some replica =>
      let latency := replica.settings.latency
      ((cluster.stopTimers position).addTimer position .disseminate latency.syncDelay
        latency.syncPeriod).addTimer position .refresh 0 latency.expectationRefresh

/-- How many timers of the replica at a position are running. -/
def activeTimers (cluster : Cluster) (position : Nat) : Nat :=
  (cluster.timerRecord position).handles.countP cluster.agenda.holds

/-- Lets the replica of a timer do its job. -/
def perform (replicas : List Replica) (timer : Timer) : Logged (List Replica) := do
  match replicas[timer.position]? with
  | none => return replicas
  | some replica =>
      match timer.job with
      | .disseminate =>
          replica.disseminate
          return replicas
      | .refresh =>
          let (replica, _) ← replica.refreshExpectation replica.leader
          return replicas.set timer.position replica

/-- Lets the virtual time advance; timers that are due meanwhile run. -/
def sleep (cluster : Cluster) (milliseconds : Nat) : Logged Cluster := do
  let time := cluster.time + milliseconds
  let (agenda, runs) := cluster.agenda.advance cluster.isCurrent time
  let (cluster, replicas) ← { cluster with time, agenda }.absorb
    ((runs.map Prod.snd).foldlM perform cluster.replicas)
  return { cluster with replicas }

/-- Moves the replica at a position to another view, which stops its timers.
A refusal changes nothing. -/
def reconfigure (cluster : Cluster) (position : Nat) (view : View) :
    Logged (Cluster × Option (Except MonitorError Unit)) := do
  let (next, outcome) ← cluster.onReplica position fun replica => do
    match ← replica.reconfigure view with
    | .ok replica => return (replica, Except.ok ())
    | .error error => return (replica, Except.error error)
  match outcome with
  | some (.ok ()) => return (next.stopTimers position, outcome)
  | _ => return (next, outcome)

end Cluster

end SuspicionMonitor
