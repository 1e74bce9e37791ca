import SuspicionMonitor.Proofs.Arming
import SuspicionMonitor.Proofs.Reconfiguration
import SuspicionMonitor.Proofs.Settling
import SuspicionMonitor.Proofs.TimerRecords
import Mathlib.Tactic

/-!
# What timers do when they run

A timer that disseminates submits the latencies of its replica and changes
nothing; one that refreshes submits nothing, and leaves the latencies alone.  So
what a replica submits while the time advances is one and the same report, as
often as its own timers run for it.
-/

namespace SuspicionMonitor

/-- What a timer reads of a replica in order to report. -/
structure Reporter where
  id : ReplicaId
  settings : Settings
  latencies : LatencyVector

def Reporter.report (reporter : Reporter) : Submission :=
  ⟨reporter.id, .latency, reporter.latencies.encode⟩

namespace Replica

def reporter (replica : Replica) : Reporter :=
  ⟨replica.id, replica.settings, replica.latencies⟩

theorem reporter_refreshExpectation (replica : Replica) (leader : ReplicaId) :
    (replica.refreshExpectation leader).value.1.reporter = replica.reporter := by
  unfold refreshExpectation
  simp only [Logged.value_bind]
  split <;> rfl

end Replica

namespace Cluster

section Perform

variable {replicas : List Replica} {reporter : Reporter} {timer : Timer} {timers : List Timer}
  {position : Nat}

theorem reporters_perform (replicas : List Replica) (timer : Timer) :
    (perform replicas timer).value.map Replica.reporter = replicas.map Replica.reporter := by
  unfold perform
  split
  · rfl
  next replica hreplica =>
    cases timer.job with
    | disseminate => rfl
    | refresh =>
        exact map_set_eq_map hreplica (replica.reporter_refreshExpectation replica.leader)

theorem getElem?_perform_of_ne (hposition : timer.position ≠ position) :
    (perform replicas timer).value[position]? = replicas[position]? := by
  unfold perform
  split
  · rfl
  next replica hreplica =>
    cases timer.job with
    | disseminate => rfl
    | refresh => exact List.getElem?_set_ne hposition

/-- A timer submits at most the report of its own replica. -/
theorem submissions_perform (hids : (replicas.map Replica.id).Nodup)
    (hreporter : (replicas.map Replica.reporter)[position]? = some reporter) :
    (perform replicas timer).submissions.filter (·.sender == reporter.id) =
      if timer.position = position ∧ timer.job = .disseminate then [reporter.report] else [] := by
  rw [List.getElem?_map, Option.map_eq_some_iff] at hreporter
  obtain ⟨replica, hreplica, rfl⟩ := hreporter
  unfold perform
  split
  next hnone =>
    have hposition : timer.position ≠ position := by
      rintro rfl
      rw [hreplica] at hnone
      contradiction
    rw [if_neg fun hboth => hposition hboth.1]
    rfl
  next performer hperformer =>
    cases hjob : timer.job with
    | refresh =>
        rw [if_neg (by simp)]
        change ((performer.refreshExpectation performer.leader).submissions ++ []).filter _ = []
        rw [Replica.submissions_refreshExpectation]
        rfl
    | disseminate =>
        change (performer.disseminate.submissions ++ []).filter _ = _
        rw [Replica.submissions_disseminate, List.append_nil]
        by_cases hposition : timer.position = position
        · rw [hposition, hreplica, Option.some.injEq] at hperformer
          rw [hperformer, if_pos ⟨hposition, rfl⟩]
          simp [Replica.reporter, Reporter.report]
        · rw [if_neg fun hboth => hposition hboth.1]
          have hother : performer.id ≠ replica.id := by
            intro hsame
            have hfirst := congrArg (Option.map Replica.id) hperformer
            have hsecond := congrArg (Option.map Replica.id) hreplica
            rw [← List.getElem?_map, Option.map_some] at hfirst hsecond
            rw [hsame] at hfirst
            have hlt := (List.getElem?_eq_some_iff.mp hfirst).1
            exact hposition ((List.getElem?_inj hlt hids).mp (hfirst.trans hsecond.symm))
          simp [Replica.reporter, hother]

theorem reporters_foldlM_perform (replicas : List Replica) (timers : List Timer) :
    (timers.foldlM perform replicas).value.map Replica.reporter =
      replicas.map Replica.reporter := by
  induction timers generalizing replicas with
  | nil => rfl
  | cons timer timers ih =>
      rw [List.foldlM_cons, Logged.value_bind, ih, reporters_perform]

theorem getElem?_foldlM_perform_of_ne (hpositions : ∀ timer ∈ timers, timer.position ≠ position) :
    (timers.foldlM perform replicas).value[position]? = replicas[position]? := by
  induction timers generalizing replicas with
  | nil => rfl
  | cons timer timers ih =>
      obtain ⟨hfirst, hrest⟩ := List.forall_mem_cons.mp hpositions
      rw [List.foldlM_cons, Logged.value_bind, ih hrest, getElem?_perform_of_ne hfirst]

theorem map_id_of_reporters {first second : List Replica}
    (hreporters : first.map Replica.reporter = second.map Replica.reporter) :
    first.map Replica.id = second.map Replica.id := by
  have hids := congrArg (List.map Reporter.id) hreporters
  rwa [List.map_map, List.map_map] at hids

theorem submissions_foldlM_perform (hids : (replicas.map Replica.id).Nodup)
    (hreporter : (replicas.map Replica.reporter)[position]? = some reporter)
    (timers : List Timer) :
    (timers.foldlM perform replicas).submissions.filter (·.sender == reporter.id) =
      List.replicate
        (timers.countP fun timer => timer.position = position ∧ timer.job = .disseminate)
        reporter.report := by
  induction timers generalizing replicas with
  | nil => rfl
  | cons timer timers ih =>
      have hsame := reporters_perform replicas timer
      have hnext : ((perform replicas timer).value.map Replica.id).Nodup := by
        rwa [map_id_of_reporters hsame]
      have hrest := ih hnext (by rwa [hsame])
      rw [List.foldlM_cons, Logged.submissions_bind, List.filter_append, hrest,
        submissions_perform hids hreporter, List.countP_cons]
      by_cases hreports : timer.position = position ∧ timer.job = .disseminate
      · rw [if_pos hreports, if_pos (decide_eq_true hreports), List.replicate_succ]
        rfl
      · rw [if_neg hreports, if_neg (by simpa using hreports)]
        rfl

end Perform

/-- What waits to be ordered and comes from `id`. -/
def waitingFrom (cluster : Cluster) (id : ReplicaId) : List Submission :=
  cluster.pending.filter (·.sender == id)

/-- What the timers of the replica at a position do while the time advances. -/
def ticksAt (cluster : Cluster) (position milliseconds : Nat) : List (Nat × Timer) :=
  (cluster.ticks milliseconds).filter (·.2.position == position)

def reporters (cluster : Cluster) : List Reporter := cluster.replicas.map Replica.reporter

variable {cluster : Cluster} {position : Nat} {reporter : Reporter}

theorem reporters_sleep (cluster : Cluster) (milliseconds : Nat) :
    (cluster.sleep milliseconds).value.reporters = cluster.reporters :=
  reporters_foldlM_perform cluster.replicas ((cluster.ticks milliseconds).map Prod.snd)

theorem waitingFrom_sleep (hids : cluster.ids.Nodup)
    (hreporter : cluster.reporters[position]? = some reporter) (milliseconds : Nat) :
    (cluster.sleep milliseconds).value.waitingFrom reporter.id =
      cluster.waitingFrom reporter.id ++
        List.replicate ((cluster.ticksAt position milliseconds).countP (·.2.job = .disseminate))
          reporter.report := by
  have hsubmissions := submissions_foldlM_perform hids hreporter
    ((cluster.ticks milliseconds).map Prod.snd)
  have hcount : ((cluster.ticks milliseconds).map Prod.snd).countP
        (fun timer => timer.position = position ∧ timer.job = .disseminate) =
      (cluster.ticksAt position milliseconds).countP (·.2.job = .disseminate) := by
    rw [ticksAt, List.countP_filter, List.countP_map]
    refine List.countP_congr fun tick _ => ?_
    simp [and_comm]
  rw [hcount] at hsubmissions
  unfold waitingFrom
  rw [← hsubmissions, ← List.filter_append]
  rfl

theorem getElem?_sleep_of_ticksAt_nil {milliseconds : Nat}
    (hticks : cluster.ticksAt position milliseconds = []) :
    (cluster.sleep milliseconds).value.replicas[position]? = cluster.replicas[position]? := by
  refine getElem?_foldlM_perform_of_ne fun timer htimer hposition => ?_
  obtain ⟨tick, htick, rfl⟩ := List.mem_map.mp htimer
  exact List.filter_eq_nil_iff.mp hticks tick htick (beq_iff_eq.mpr hposition)

theorem KeepsTimers.ticksAt_eq_nil (hkeeps : cluster.KeepsTimers)
    (hidle : cluster.tasksAt position = []) (milliseconds : Nat) :
    cluster.ticksAt position milliseconds = [] := by
  have hticks := hkeeps.ticks_filter milliseconds position
  rw [hidle] at hticks
  exact hticks.eq_nil

end Cluster

end SuspicionMonitor
