import SuspicionMonitor.Graph.Candidates
import SuspicionMonitor.Latency.Board
import SuspicionMonitor.Latency.Windows
import SuspicionMonitor.Ledger
import SuspicionMonitor.MonitorError
import SuspicionMonitor.Sensor

/-!
# The monitor of one replica

A replica observes its peers with a sensor and two sets of latency windows,
submits what it finds for total ordering, and keeps what comes back ordered in
a ledger and on a latency board.
-/

namespace SuspicionMonitor

/-- Submits a suspicion on behalf of `sender`. -/
def Suspicion.publish (suspicion : Suspicion) (sender : ReplicaId) : Logged Unit := do
  Logged.count (match suspicion.kind with
    | .slow => { suspicionsEmitted := 1 }
    | .falseAccusation => { falseAccusationsEmitted := 1 })
  Logged.submit ⟨sender, .suspicion, suspicion.encode⟩

/-- Submits a latency vector on behalf of `sender`. -/
def LatencyVector.publish (vector : LatencyVector) (sender : ReplicaId) : Logged Unit := do
  Logged.count { latencyVectorsEmitted := 1 }
  Logged.submit ⟨sender, .latency, vector.encode⟩

/-- Publishes the accusation of a check, if there is one, on behalf of
`self`. -/
def Check.conclude (check : Check) (self : ReplicaId) : Logged (Sensor × Bool) := do
  match check.accusation with
  | none => pure ()
  | some suspicion => suspicion.publish self
  return (check.sensor, check.onTime)

structure Replica where
  id : ReplicaId
  settings : Settings
  view : View
  leader : ReplicaId
  sensor : Sensor
  ledger : Ledger
  board : LatencyBoard
  proposeWindows : LatencyWindows
  writeWindows : LatencyWindows

namespace Replica

/-- A replica that has seen nothing yet. -/
def fresh (id : ReplicaId) (view : View) (settings : Settings) : Replica :=
  let windows := LatencyWindows.empty view.n settings.latency.monitoringWindow.toNat
  { id
    settings
    view
    leader := 0
    sensor := .empty
    ledger := .empty view
    board := .empty view
    proposeWindows := windows
    writeWindows := windows }

/-- A fresh replica, if the settings are valid and the view contains it. -/
def ofSettings (id : ReplicaId) (view : View) (settings : Settings) :
    Except MonitorError Replica :=
  match settings.invalid? with
  | some invalid => .error (.invalidSettings invalid)
  | none =>
      if view.contains id then .ok (fresh id view settings)
      else .error (.notAMember id view)

/-- Stores a suspicion sent by `sender`, and answers it if it falsely accuses
this replica. -/
def notify (replica : Replica) (sender : ReplicaId) (payload : Bytes) : Logged Replica := do
  match Suspicion.decode payload sender with
  | .error _ =>
      Logged.count { decodeFailures := 1 }
      return replica
  | .ok suspicion =>
      match replica.sensor.reply? replica.id suspicion with
      | none => pure ()
      | some reply => reply.publish replica.id
      return { replica with ledger := replica.ledger.store suspicion }

def receive (replica : Replica) (value : Submission) : Logged Replica := do
  match value.kind with
  | .latency =>
      let board ← replica.board.notify value.sender value.payload
      return { replica with board }
  | .suspicion => replica.notify value.sender value.payload

/-- How far behind the current round suspicions are still kept. -/
def retention (replica : Replica) : Int32 :=
  Int32.ofIntClamp replica.settings.ledger.retention.toNat

/-- Takes in the values ordered in `round`, then brings the graph up to date. -/
def deliver (replica : Replica) (round : Round) (values : List Submission) :
    Logged Replica := do
  let replica ← values.foldlM receive replica
  let (ledger, _) ← replica.ledger.build
  let (ledger, _) ← ledger.decay replica.settings.ledger round
  let (ledger, _) ← ledger.collect (round.minus replica.retention)
  return { replica with ledger }

def candidateSet? (replica : Replica) : Logged (Option (List ReplicaId)) :=
  replica.ledger.graph.candidateSet? replica.settings.graph

/-- Keeps the outcome of a check and publishes its accusation. -/
def conclude (replica : Replica) (check : Check) : Logged (Replica × Bool) := do
  let (sensor, onTime) ← check.conclude replica.id
  return ({ replica with sensor }, onTime)

def checkProposal (replica : Replica) (now : Nanos) (round : Round) (sender : ReplicaId)
    (sentAt : Nanos) : Logged (Replica × Bool) :=
  replica.conclude
    (replica.sensor.checkProposal replica.settings.sensor replica.id now round sender sentAt)

def checkVote (replica : Replica) (now : Nanos) (stage : Stage) (sender : ReplicaId)
    (sentAt : Nanos) : Logged (Replica × Bool) :=
  replica.conclude
    (replica.sensor.checkVote replica.settings.sensor replica.id now stage sender sentAt)

def noteRequest (replica : Replica) (time : Nanos) : Replica :=
  { replica with sensor := replica.sensor.noteRequest time }

def recordPropose (replica : Replica) (peer : ReplicaId) (latency : Nanos) : Replica :=
  { replica with proposeWindows := replica.proposeWindows.record peer latency }

def recordWrite (replica : Replica) (peer : ReplicaId) (latency : Nanos) : Replica :=
  { replica with writeWindows := replica.writeWindows.record peer latency }

/-- What the replica would publish now. -/
def latencies (replica : Replica) : LatencyVector :=
  ⟨replica.writeWindows.medians, replica.proposeWindows.medians⟩

def disseminate (replica : Replica) : Logged Unit :=
  replica.latencies.publish replica.id

def checkInitialized (replica : Replica) : Logged (Replica × Bool) := do
  let (board, initialized) ← replica.board.checkInitialized
  return ({ replica with board }, initialized)

def predict (replica : Replica) (leader self : ReplicaId) :
    Logged (Replica × Expectation) := do
  let (board, expectation) ← replica.board.predict leader self
  return ({ replica with board }, expectation)

/-- Arms the sensor for `leader` once a quorum has reported latencies; the
result says whether it did. -/
def refreshExpectation (replica : Replica) (leader : ReplicaId) : Logged (Replica × Bool) := do
  let (replica, initialized) ← replica.checkInitialized
  if initialized then
    let (replica, expectation) ← replica.predict leader replica.id
    return ({ replica with sensor := replica.sensor.expect expectation }, true)
  else
    return (replica, false)

def setLeader (replica : Replica) (leader : ReplicaId) : Replica := { replica with leader }

/-- Moves to another view and forgets everything seen in the old one.  A
leader outside the new view is replaced by replica 0. -/
def reconfigure (replica : Replica) (view : View) : Logged (Except MonitorError Replica) := do
  if view.contains replica.id then
    let ledger ← replica.ledger.reset view
    return .ok { replica with
      view
      leader := if view.contains replica.leader then replica.leader else 0
      ledger
      board := replica.board.setView view
      proposeWindows := replica.proposeWindows.reset view.n
      writeWindows := replica.writeWindows.reset view.n
      sensor := .empty }
  else
    return .error (.notAMember replica.id view)

end Replica

end SuspicionMonitor
