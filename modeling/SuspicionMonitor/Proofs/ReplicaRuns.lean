import SuspicionMonitor.Replica
import Mathlib.Tactic

/-!
# Runs of a replica

A replica answers ordered calls, which every replica of the group receives
alike, and local ones, which come from its own clock, timers and network.
What it observes locally must not leak into its ledger: the settings, the
view and the ledger are a function of the ordered calls alone.  Two replicas
that have applied the same ordered calls agree therefore, whatever each of
them has observed meanwhile.
-/

namespace SuspicionMonitor

/-- What may be asked of a replica.  The first three calls come out of total
order or belong to it, all others are local. -/
inductive ReplicaCall where
  | deliver (round : Round) (values : List Submission)
  | notify (sender : ReplicaId) (payload : Bytes)
  | reconfigure (view : View)
  | checkProposal (now : Nanos) (round : Round) (sender : ReplicaId) (sentAt : Nanos)
  | checkVote (now : Nanos) (stage : Stage) (sender : ReplicaId) (sentAt : Nanos)
  | noteRequest (time : Nanos)
  | recordPropose (peer : ReplicaId) (latency : Nanos)
  | recordWrite (peer : ReplicaId) (latency : Nanos)
  | disseminate
  | refreshExpectation (leader : ReplicaId)
  | setLeader (leader : ReplicaId)
  | candidateSet
  | checkInitialized
  | predict (leader self : ReplicaId)

inductive ReplicaAnswer where
  | done
  | refused (error : MonitorError)
  | flag (value : Bool)
  | candidates (ids : Option (List ReplicaId))
  | expectation (expectation : Expectation)

/-- Whether the call was an ordered one that was carried out. -/
def ReplicaCall.isOrdered : ReplicaCall → ReplicaAnswer → Bool
  | .deliver _ _, _ => true
  | .notify _ _, _ => true
  | .reconfigure _, .done => true
  | _, _ => false

namespace Replica

def respond (replica : Replica) : ReplicaCall → Logged (Replica × ReplicaAnswer)
  | .deliver round values => do
      let replica ← replica.deliver round values
      return (replica, .done)
  | .notify sender payload => do
      let replica ← replica.notify sender payload
      return (replica, .done)
  | .reconfigure view => do
      match ← replica.reconfigure view with
      | .ok replica => return (replica, .done)
      | .error error => return (replica, .refused error)
  | .checkProposal now round sender sentAt => do
      let (replica, onTime) ← replica.checkProposal now round sender sentAt
      return (replica, .flag onTime)
  | .checkVote now stage sender sentAt => do
      let (replica, onTime) ← replica.checkVote now stage sender sentAt
      return (replica, .flag onTime)
  | .noteRequest time => return (replica.noteRequest time, .done)
  | .recordPropose peer latency => return (replica.recordPropose peer latency, .done)
  | .recordWrite peer latency => return (replica.recordWrite peer latency, .done)
  | .disseminate => do
      replica.disseminate
      return (replica, .done)
  | .refreshExpectation leader => do
      let (replica, armed) ← replica.refreshExpectation leader
      return (replica, .flag armed)
  | .setLeader leader => return (replica.setLeader leader, .done)
  | .candidateSet => do
      let ids ← replica.candidateSet?
      return (replica, .candidates ids)
  | .checkInitialized => do
      let (replica, initialized) ← replica.checkInitialized
      return (replica, .flag initialized)
  | .predict leader self => do
      let (replica, expectation) ← replica.predict leader self
      return (replica, .expectation expectation)

def run (replica : Replica) : List ReplicaCall → Logged (Replica × List ReplicaAnswer)
  | [] => return (replica, [])
  | call :: calls => do
      let (replica, answer) ← replica.respond call
      let (replica, answers) ← replica.run calls
      return (replica, answer :: answers)

/-- The ordered calls of a run that were carried out. -/
def orderedCalls (replica : Replica) (calls : List ReplicaCall) : List ReplicaCall :=
  ((calls.zip (replica.run calls).value.2).filter fun (call, answer) =>
    call.isOrdered answer).map Prod.fst

theorem eq_fresh_of_ofSettings {id : ReplicaId} {view : View} {settings : Settings}
    {replica : Replica} (hreplica : ofSettings id view settings = .ok replica) :
    replica = fresh id view settings := by
  unfold ofSettings at hreplica
  split at hreplica
  · contradiction
  · split at hreplica
    · exact (Except.ok.inj hreplica).symm
    · contradiction

@[simp] theorem run_cons (replica : Replica) (call : ReplicaCall) (calls : List ReplicaCall) :
    (replica.run (call :: calls)).value =
      (((replica.respond call).value.1.run calls).value.1,
        (replica.respond call).value.2 :: ((replica.respond call).value.1.run calls).value.2) :=
  rfl

theorem orderedCalls_cons (replica : Replica) (call : ReplicaCall) (calls : List ReplicaCall) :
    replica.orderedCalls (call :: calls) =
      (if call.isOrdered (replica.respond call).value.2 then [call] else []) ++
        (replica.respond call).value.1.orderedCalls calls := by
  simp only [orderedCalls, run_cons, List.zip_cons_cons, List.filter_cons]
  split <;> rfl

end Replica

namespace Ledger

def receive (ledger : Ledger) (value : Submission) : Ledger :=
  match value.kind with
  | .latency => ledger
  | .suspicion => (ledger.notify value.sender value.payload).value

/-- Brings the ledger up to date with the values ordered in `round`. -/
def deliver (ledger : Ledger) (settings : LedgerSettings) (round : Round)
    (values : List Submission) : Ledger :=
  let built := (values.foldl receive ledger).build.value.1
  let decayed := (built.decay settings round).value.1
  (decayed.collect (round.minus (Int32.ofIntClamp settings.retention.toNat))).value.1

end Ledger

/-- The part of a replica that local calls leave alone. -/
structure OrderedState where
  settings : Settings
  view : View
  ledger : Ledger

def OrderedState.apply (state : OrderedState) : ReplicaCall → OrderedState
  | .deliver round values =>
      { state with ledger := state.ledger.deliver state.settings.ledger round values }
  | .notify sender payload =>
      { state with ledger := (state.ledger.notify sender payload).value }
  | .reconfigure view =>
      { state with view, ledger := (state.ledger.reset view).value }
  | _ => state

namespace Replica

def orderedState (replica : Replica) : OrderedState :=
  ⟨replica.settings, replica.view, replica.ledger⟩

/-- A payload from total order reaches nothing but the ledger. -/
theorem value_notify (replica : Replica) (sender : ReplicaId) (payload : Bytes) :
    (replica.notify sender payload).value =
      { replica with ledger := (replica.ledger.notify sender payload).value } := by
  unfold notify Ledger.notify
  cases hdecode : Suspicion.decode payload sender with
  | error cause => rfl
  | ok suspicion =>
      dsimp only
      cases replica.sensor.reply? replica.id suspicion with
      | none => rfl
      | some reply => rfl

theorem orderedState_receive (replica : Replica) (value : Submission) :
    (replica.receive value).value.orderedState =
      { replica.orderedState with ledger := replica.ledger.receive value } := by
  unfold receive Ledger.receive
  cases value.kind with
  | latency => rfl
  | suspicion =>
      simp only [value_notify]
      rfl

theorem orderedState_foldlM_receive (replica : Replica) (values : List Submission) :
    (values.foldlM receive replica).value.orderedState =
      { replica.orderedState with ledger := values.foldl Ledger.receive replica.ledger } := by
  induction values generalizing replica with
  | nil => rfl
  | cons value values ih =>
      have hreceive := replica.orderedState_receive value
      have hrest := ih (replica.receive value).value
      rw [hreceive] at hrest
      have hledger : (replica.receive value).value.ledger = replica.ledger.receive value :=
        congrArg OrderedState.ledger hreceive
      rw [List.foldlM_cons, Logged.value_bind, hrest, hledger]
      rfl

theorem orderedState_deliver (replica : Replica) (round : Round) (values : List Submission) :
    (replica.deliver round values).value.orderedState =
      replica.orderedState.apply (.deliver round values) := by
  have hreceived := replica.orderedState_foldlM_receive values
  have hsettings := congrArg OrderedState.settings hreceived
  have hview := congrArg OrderedState.view hreceived
  have hledger := congrArg OrderedState.ledger hreceived
  simp only [orderedState] at hsettings hview hledger
  simp only [deliver, retention, orderedState, OrderedState.apply, Ledger.deliver,
    Logged.value_bind, Logged.value_pure, hsettings, hview, hledger]

theorem value_reconfigure_of_contains {replica : Replica} {view : View}
    (hmember : view.contains replica.id = true) :
    (replica.reconfigure view).value = .ok { replica with
      view
      leader := if view.contains replica.leader then replica.leader else 0
      ledger := (replica.ledger.reset view).value
      board := replica.board.setView view
      proposeWindows := replica.proposeWindows.reset view.n
      writeWindows := replica.writeWindows.reset view.n
      sensor := .empty } := by
  unfold reconfigure
  rw [if_pos hmember]
  rfl

theorem value_reconfigure_of_not_contains {replica : Replica} {view : View}
    (hmember : view.contains replica.id ≠ true) :
    (replica.reconfigure view).value = .error (.notAMember replica.id view) := by
  unfold reconfigure
  rw [if_neg hmember]
  rfl

theorem value_respond_reconfigure (replica : Replica) (view : View) :
    (replica.respond (.reconfigure view)).value =
      match (replica.reconfigure view).value with
      | .ok next => (next, .done)
      | .error error => (replica, .refused error) := by
  simp only [respond, Logged.value_bind]
  split <;> rfl

theorem orderedState_conclude (replica : Replica) (check : Check) :
    (replica.conclude check).value.1.orderedState = replica.orderedState := rfl

theorem orderedState_checkInitialized (replica : Replica) :
    replica.checkInitialized.value.1.orderedState = replica.orderedState := rfl

theorem orderedState_predict (replica : Replica) (leader self : ReplicaId) :
    (replica.predict leader self).value.1.orderedState = replica.orderedState := rfl

theorem orderedState_refreshExpectation (replica : Replica) (leader : ReplicaId) :
    (replica.refreshExpectation leader).value.1.orderedState = replica.orderedState := by
  unfold refreshExpectation
  simp only [Logged.value_bind]
  split
  · rfl
  · rfl

/-! ## Runs -/

/-- An ordered call that is carried out acts on the ordered state alone, and
every other call leaves it as it is. -/
theorem orderedState_respond (replica : Replica) (call : ReplicaCall) :
    (replica.respond call).value.1.orderedState =
      if call.isOrdered (replica.respond call).value.2 then
        replica.orderedState.apply call
      else
        replica.orderedState := by
  cases call with
  | deliver round values => exact replica.orderedState_deliver round values
  | notify sender payload =>
      exact congrArg orderedState (replica.value_notify sender payload)
  | reconfigure view =>
      by_cases hmember : view.contains replica.id = true
      · rw [value_respond_reconfigure, value_reconfigure_of_contains hmember]
        rfl
      · rw [value_respond_reconfigure, value_reconfigure_of_not_contains hmember]
        rfl
  | checkProposal now round sender sentAt => exact replica.orderedState_conclude _
  | checkVote now stage sender sentAt => exact replica.orderedState_conclude _
  | noteRequest time => rfl
  | recordPropose peer latency => rfl
  | recordWrite peer latency => rfl
  | disseminate => rfl
  | refreshExpectation leader => exact replica.orderedState_refreshExpectation leader
  | setLeader leader => rfl
  | candidateSet => rfl
  | checkInitialized => exact replica.orderedState_checkInitialized
  | predict leader self => exact replica.orderedState_predict leader self

/-- A run makes of the ordered state what its ordered calls make of it. -/
theorem orderedState_run (replica : Replica) (calls : List ReplicaCall) :
    (replica.run calls).value.1.orderedState =
      (replica.orderedCalls calls).foldl OrderedState.apply replica.orderedState := by
  induction calls generalizing replica with
  | nil => rfl
  | cons call calls ih =>
      have hstep := replica.orderedState_respond call
      rw [orderedCalls_cons, List.foldl_append, run_cons, ih, hstep]
      split <;> rfl

/-- Two replicas of one view and with the same settings have the same ledger
and the same candidates after runs with the same ordered calls, whoever they
are and whatever local calls come between. -/
theorem same_candidates_of_same_ordered_calls (view : View) (settings : Settings)
    (first second : ReplicaId) (firstCalls secondCalls : List ReplicaCall)
    (hordered : (fresh first view settings).orderedCalls firstCalls =
      (fresh second view settings).orderedCalls secondCalls) :
    let firstEnd := ((fresh first view settings).run firstCalls).value.1
    let secondEnd := ((fresh second view settings).run secondCalls).value.1
    firstEnd.ledger = secondEnd.ledger ∧ firstEnd.view = secondEnd.view ∧
      firstEnd.candidateSet?.value = secondEnd.candidateSet?.value := by
  intro firstEnd secondEnd
  have hstart : (fresh first view settings).orderedState =
      (fresh second view settings).orderedState := rfl
  have hstates : firstEnd.orderedState = secondEnd.orderedState := by
    calc
      firstEnd.orderedState =
          ((fresh first view settings).orderedCalls firstCalls).foldl OrderedState.apply
            (fresh first view settings).orderedState :=
        orderedState_run _ firstCalls
      _ = ((fresh second view settings).orderedCalls secondCalls).foldl OrderedState.apply
            (fresh second view settings).orderedState := by rw [hordered, hstart]
      _ = secondEnd.orderedState := (orderedState_run _ secondCalls).symm
  have hledger : firstEnd.ledger = secondEnd.ledger := congrArg OrderedState.ledger hstates
  have hview : firstEnd.view = secondEnd.view := congrArg OrderedState.view hstates
  have hsettings : firstEnd.settings = secondEnd.settings :=
    congrArg OrderedState.settings hstates
  refine ⟨hledger, hview, ?_⟩
  unfold candidateSet?
  rw [hledger, hsettings]

/-- A refused change of view and the observations of either replica make no
difference. -/
theorem same_candidates_of_first_and_last :
    let view : View := ⟨4, 1, by decide⟩
    let wider : View := ⟨7, 2, by decide⟩
    let lone : View := ⟨1, 0, by decide⟩
    let suspicion : Suspicion :=
      { round := 1, phase := .propose, kind := .slow, suspect := 0, reporter := 2 }
    let report : Submission := ⟨2, .suspicion, suspicion.encode⟩
    let firstEnd := ((fresh 0 view .standard).run
      [.noteRequest 5, .reconfigure wider, .deliver 1 [report], .candidateSet]).value.1
    let lastEnd := ((fresh 3 view .standard).run
      [.reconfigure lone, .recordWrite 2 7, .reconfigure wider, .disseminate,
        .deliver 1 [report], .refreshExpectation 0]).value.1
    firstEnd.ledger = lastEnd.ledger ∧ firstEnd.view = lastEnd.view ∧
      firstEnd.candidateSet?.value = lastEnd.candidateSet?.value :=
  same_candidates_of_same_ordered_calls _ .standard 0 3 _ _ rfl

end Replica

end SuspicionMonitor
