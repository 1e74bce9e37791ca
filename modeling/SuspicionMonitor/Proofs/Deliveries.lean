import SuspicionMonitor.Cluster
import SuspicionMonitor.Proofs.LatencyBoards
import SuspicionMonitor.Proofs.Retention

/-!
# What a delivery does

A delivery hands a batch of ordered values to every replica.  Each replica
stores what it can read on its board and in its ledger, and answers the
accusations that its sensor, which stays as it is, calls false.  The answers of
all replicas are what waits afterwards.
-/

namespace SuspicionMonitor

namespace Logged

variable {α β : Type}

theorem value_mapM (action : α → Logged β) (items : List α) :
    (items.mapM action).value = items.map fun item => (action item).value := by
  induction items with
  | nil => rfl
  | cons item items ih =>
      rw [List.mapM_cons, List.map_cons, ← ih]
      rfl

theorem submissions_mapM (action : α → Logged β) (items : List α) :
    (items.mapM action).submissions = items.flatMap fun item => (action item).submissions := by
  induction items with
  | nil => rfl
  | cons item items ih =>
      rw [List.mapM_cons, List.flatMap_cons, ← ih]
      simp only [Logged.submissions_bind, Logged.submissions_pure, List.append_nil]

end Logged

namespace Ledger

theorem submissions_build (ledger : Ledger) : ledger.build.submissions = [] := by
  unfold build
  dsimp only
  split <;> rfl

theorem submissions_decay (ledger : Ledger) (settings : LedgerSettings) (round : Round) :
    (ledger.decay settings round).submissions = [] := by
  unfold decay
  dsimp only
  split
  · rfl
  · unfold SuspicionGraph.removeSuspicions
    simp only [Logged.submissions_bind]
    split <;> rfl

end Ledger

/-- What the board makes of an ordered value. -/
def LatencyBoard.receive (board : LatencyBoard) (value : Submission) : LatencyBoard :=
  match value.kind with
  | .latency => (board.notify value.sender value.payload).value
  | .suspicion => board

namespace Replica

/-- The answer of the replica to an ordered value. -/
def answer? (replica : Replica) (value : Submission) : Option Submission :=
  value.suspicion?.bind fun suspicion =>
    (replica.sensor.reply? replica.id suspicion).map fun reply =>
      ⟨replica.id, .suspicion, reply.encode⟩

theorem value_receive (replica : Replica) (value : Submission) :
    (replica.receive value).value =
      { replica with
        board := replica.board.receive value
        ledger := replica.ledger.receive value } := by
  unfold receive LatencyBoard.receive Ledger.receive
  cases value.kind with
  | latency => rfl
  | suspicion => exact replica.value_notify value.sender value.payload

theorem submissions_receive (replica : Replica) (value : Submission) :
    (replica.receive value).submissions = (replica.answer? value).toList := by
  unfold receive answer? Submission.suspicion?
  cases value.kind with
  | latency =>
      rw [Logged.submissions_bind, LatencyBoard.submissions_notify]
      rfl
  | suspicion =>
      unfold notify
      cases Suspicion.decode value.payload value.sender with
      | error cause => rfl
      | ok suspicion =>
          dsimp only [Except.toOption, Option.bind_some]
          cases replica.sensor.reply? replica.id suspicion <;> rfl

theorem value_foldlM_receive (replica : Replica) (values : List Submission) :
    (values.foldlM receive replica).value =
      { replica with
        board := values.foldl LatencyBoard.receive replica.board
        ledger := values.foldl Ledger.receive replica.ledger } := by
  induction values generalizing replica with
  | nil => rfl
  | cons value values ih =>
      rw [List.foldlM_cons, Logged.value_bind, ih, value_receive]
      rfl

/-- The sensor, which decides about the answers, stays the same meanwhile. -/
theorem submissions_foldlM_receive (replica : Replica) (values : List Submission) :
    (values.foldlM receive replica).submissions = values.filterMap replica.answer? := by
  induction values generalizing replica with
  | nil => rfl
  | cons value values ih =>
      have hsame : (replica.receive value).value.answer? = replica.answer? := by
        rw [value_receive]
        rfl
      rw [List.foldlM_cons, Logged.submissions_bind, ih, submissions_receive, hsame]
      cases hanswer : replica.answer? value with
      | none => rw [List.filterMap_cons_none hanswer]; rfl
      | some answer => rw [List.filterMap_cons_some hanswer]; rfl

theorem value_deliver (replica : Replica) (round : Round) (values : List Submission) :
    (replica.deliver round values).value =
      { replica with
        board := values.foldl LatencyBoard.receive replica.board
        ledger := replica.ledger.deliver replica.settings.ledger round values } := by
  unfold deliver
  simp only [Logged.value_bind, Logged.value_pure, value_foldlM_receive]
  rfl

theorem submissions_deliver (replica : Replica) (round : Round) (values : List Submission) :
    (replica.deliver round values).submissions = values.filterMap replica.answer? := by
  unfold deliver
  simp only [Logged.submissions_bind, Ledger.submissions_build, Ledger.submissions_decay,
    submissions_foldlM_receive, List.nil_append]
  exact List.append_nil _

end Replica

namespace Cluster

theorem value_onEach {α : Type} (cluster : Cluster) (action : Replica → Logged (Replica × α)) :
    (cluster.onEach action).value =
      ({ cluster with
        replicas := cluster.replicas.map fun replica => (action replica).value.1
        pending := cluster.pending ++
          cluster.replicas.flatMap fun replica => (action replica).submissions },
        cluster.replicas.map fun replica => (action replica).value.2) := by
  simp only [onEach, absorb, Logged.value_bind, Logged.value_pure, Logged.value_mapM,
    Logged.submissions_mapM, List.map_map]
  rfl

theorem value_deliver (cluster : Cluster) :
    cluster.deliver.value =
      ({ cluster with
        replicas := cluster.replicas.map fun replica =>
          (replica.deliver cluster.nextRound cluster.pending).value
        pending := cluster.replicas.flatMap fun replica =>
          cluster.pending.filterMap replica.answer?
        nextRound := cluster.nextRound.plus 1 }, cluster.pending) := by
  simp only [deliver, Logged.value_bind, Logged.value_pure, value_onEach, Logged.submissions_bind,
    Logged.submissions_pure, List.append_nil, List.nil_append, Replica.submissions_deliver]

end Cluster

end SuspicionMonitor
