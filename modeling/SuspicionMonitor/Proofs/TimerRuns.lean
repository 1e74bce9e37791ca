import SuspicionMonitor.Proofs.TimerJobs
import SuspicionMonitor.Proofs.ValidSettings
import Mathlib.Tactic

/-!
# Timers obey the last start or stop

A replica whose timers were last started has two of them, whatever was started
before; one whose timers were last stopped has none, and neither reports nor
refreshes anything.  After a start a replica reports its latencies at once when
the delay is over and then once in each period, until its timers are started or
stopped again.
-/

namespace SuspicionMonitor

inductive TimerCall where
  | start (position : Nat)
  | shutdown (position : Nat)
  | reconfigure (position : Nat) (view : View)
  | sleep (milliseconds : Nat)

/-- Whether the call starts or stops the timers of the replica `id` at a
position.  A replica refuses to move to a view without itself. -/
def TimerCall.switch? (id : ReplicaId) (position : Nat) : TimerCall → Option Bool
  | start place => if place = position then some true else none
  | shutdown place => if place = position then some false else none
  | reconfigure place view =>
      if place = position ∧ view.contains id = true then some false else none
  | sleep _ => none

namespace Cluster

def respond (cluster : Cluster) : TimerCall → Cluster
  | .start position => cluster.startTimers position
  | .shutdown position => cluster.stopTimers position
  | .reconfigure position view => (cluster.reconfigure position view).value.1
  | .sleep milliseconds => (cluster.sleep milliseconds).value

def after (cluster : Cluster) (calls : List TimerCall) : Cluster := calls.foldl respond cluster

/-- Who the replicas are. -/
def members (cluster : Cluster) : List (ReplicaId × Settings) :=
  cluster.replicas.map fun replica => (replica.id, replica.settings)

variable {cluster : Cluster} {position : Nat} {replica : Replica} {reporter : Reporter}
  {view : View} {settings : Settings} {call : TimerCall}

theorem value_reconfigure_of_contains (hreplica : cluster.replicas[position]? = some replica)
    (hmember : view.contains replica.id = true) :
    ∃ next, (next.id, next.settings) = (replica.id, replica.settings) ∧
      (cluster.reconfigure position view).value =
        ({ cluster with replicas := cluster.replicas.set position next }.stopTimers position,
          some (.ok ())) := by
  have hmoved := Replica.value_reconfigure_of_contains hmember
  have hsubmissions := replica.submissions_reconfigure view
  unfold reconfigure onReplica absorb
  simp only [hreplica, Logged.value_bind, Logged.value_pure, Logged.submissions_bind, hmoved,
    hsubmissions, Logged.submissions_pure, List.append_nil]
  refine ⟨_, ?_, rfl⟩
  rfl

theorem value_reconfigure_of_not_contains (hreplica : cluster.replicas[position]? = some replica)
    (hmember : view.contains replica.id ≠ true) :
    (cluster.reconfigure position view).value =
      (cluster, some (.error (.notAMember replica.id view))) := by
  have hrefused := Replica.value_reconfigure_of_not_contains hmember
  have hsubmissions := replica.submissions_reconfigure view
  obtain ⟨hlt, hsame⟩ := List.getElem?_eq_some_iff.mp hreplica
  unfold reconfigure onReplica absorb
  simp only [hreplica, Logged.value_bind, Logged.value_pure, Logged.submissions_bind, hrefused,
    hsubmissions, Logged.submissions_pure, List.append_nil]
  rw [← hsame, List.set_getElem_self]

/-- A refusal changes nothing.  Otherwise the timers stop, and the replica remains
who it is. -/
theorem respond_reconfigure_cases (cluster : Cluster) (position : Nat) (view : View) :
    cluster.respond (.reconfigure position view) = cluster ∨
      ∃ replica next, cluster.replicas[position]? = some replica ∧
        (next.id, next.settings) = (replica.id, replica.settings) ∧
        cluster.respond (.reconfigure position view) =
          { cluster with replicas := cluster.replicas.set position next }.stopTimers position := by
  rw [respond]
  cases hreplica : cluster.replicas[position]? with
  | none =>
      left
      unfold reconfigure onReplica
      simp only [hreplica, Logged.value_bind, Logged.value_pure]
  | some replica =>
      by_cases hmember : view.contains replica.id = true
      · right
        obtain ⟨next, hsame, hvalue⟩ := value_reconfigure_of_contains hreplica hmember
        exact ⟨replica, next, rfl, hsame, by rw [hvalue]⟩
      · left
        rw [value_reconfigure_of_not_contains hreplica hmember]

theorem members_set {next : Replica} (hreplica : cluster.replicas[position]? = some replica)
    (hsame : (next.id, next.settings) = (replica.id, replica.settings)) :
    { cluster with replicas := cluster.replicas.set position next }.members = cluster.members :=
  map_set_eq_map hreplica hsame

theorem members_eq_map_reporters (cluster : Cluster) :
    cluster.members = cluster.reporters.map fun reporter => (reporter.id, reporter.settings) := by
  rw [reporters, List.map_map]
  rfl

theorem members_respond (cluster : Cluster) (call : TimerCall) :
    (cluster.respond call).members = cluster.members := by
  cases call with
  | start position =>
      rw [respond, startTimers]
      split <;> rfl
  | shutdown position => rfl
  | reconfigure position view =>
      rcases respond_reconfigure_cases cluster position view with
        hrefused | ⟨replica, next, hreplica, hsame, hmoved⟩
      · rw [hrefused]
      · rw [hmoved]
        exact members_set hreplica hsame
  | sleep milliseconds =>
      rw [members_eq_map_reporters, members_eq_map_reporters, respond, reporters_sleep]

theorem members_after (cluster : Cluster) (calls : List TimerCall) :
    (cluster.after calls).members = cluster.members := by
  induction calls generalizing cluster with
  | nil => rfl
  | cons call calls ih => exact (ih _).trans (cluster.members_respond call)

/-! ## Steady clusters -/

/-- The first timer that `startTimers` adds. -/
def dissemination (cluster : Cluster) (position : Nat) (settings : LatencySettings) :
    PeriodicTask Timer :=
  (cluster.stopTimers position).timerAdded position .disseminate settings.syncDelay
    settings.syncPeriod

/-- The second one. -/
def refresh (cluster : Cluster) (position : Nat) (settings : LatencySettings) :
    PeriodicTask Timer :=
  ((cluster.stopTimers position).addTimer position .disseminate settings.syncDelay
    settings.syncPeriod).timerAdded position .refresh 0 settings.expectationRefresh

/-- The records of the timers are right, and the replicas are those of the view. -/
structure IsSteady (cluster : Cluster) (view : View) (settings : Settings) : Prop where
  keeps : cluster.KeepsTimers
  members : cluster.members = view.replicas.map fun id => (id, settings)

theorem isSteady_of_ofSettings (hcluster : ofSettings view settings = .ok cluster) :
    cluster.IsSteady view settings := by
  rw [eq_of_ofSettings hcluster]
  constructor
  · exact keepsTimers_of_agenda_nil rfl rfl
  · rw [members, List.map_map]
    rfl

theorem exists_replica_of_members
    (hmembers : cluster.members = view.replicas.map fun id => (id, settings)) {id : ReplicaId}
    (hid : view.replicas[position]? = some id) :
    ∃ replica, cluster.replicas[position]? = some replica ∧ replica.id = id := by
  have hlisted : cluster.members[position]? = some (id, settings) := by
    rw [hmembers, List.getElem?_map, hid, Option.map_some]
  rw [members, List.getElem?_map, Option.map_eq_some_iff] at hlisted
  obtain ⟨replica, hreplica, hsame⟩ := hlisted
  exact ⟨replica, hreplica, (Prod.mk.inj hsame).1⟩

theorem identity_of_members
    (hmembers : cluster.members = view.replicas.map fun id => (id, settings))
    (hreplica : cluster.replicas[position]? = some replica) :
    view.replicas[position]? = some replica.id ∧ replica.settings = settings := by
  have hlisted : cluster.members[position]? = some (replica.id, replica.settings) := by
    rw [members, List.getElem?_map, hreplica, Option.map_some]
  rw [hmembers, List.getElem?_map, Option.map_eq_some_iff] at hlisted
  obtain ⟨id, hid, hsame⟩ := hlisted
  obtain ⟨rfl, rfl⟩ := Prod.mk.inj hsame
  exact ⟨hid, rfl⟩

theorem IsSteady.nodup_ids (hsteady : cluster.IsSteady view settings) : cluster.ids.Nodup := by
  have hids := congrArg (List.map Prod.fst) hsteady.members
  rw [Cluster.members, List.map_map, List.map_map] at hids
  have hview : cluster.ids = view.replicas := hids.trans (List.map_id view.replicas)
  rw [hview]
  exact view.nodup_replicas

theorem tasksAt_startTimers (hkeeps : cluster.KeepsTimers)
    (hreplica : cluster.replicas[position]? = some replica) (other : Nat) :
    (cluster.startTimers position).tasksAt other =
      if other = position then
        [cluster.dissemination position replica.settings.latency,
          cluster.refresh position replica.settings.latency]
      else cluster.tasksAt other := by
  unfold startTimers
  rw [hreplica]
  dsimp only
  rw [tasksAt_addTimer, tasksAt_addTimer, hkeeps.tasksAt_stopTimers]
  split
  · rfl
  · rw [List.append_nil, List.append_nil]

/-- The timers of valid settings repeat. -/
structure Repeats (settings : LatencySettings) : Prop where
  syncPeriod : 0 < settings.syncPeriod.toNat
  expectationRefresh : 0 < settings.expectationRefresh.toNat

theorem IsSteady.respond (hrepeats : Repeats settings.latency)
    (hsteady : cluster.IsSteady view settings) (call : TimerCall) :
    (cluster.respond call).IsSteady view settings := by
  refine ⟨?_, (cluster.members_respond call).trans hsteady.members⟩
  cases call with
  | start position =>
      rw [Cluster.respond, startTimers]
      split
      · exact hsteady.keeps
      next replica hreplica =>
        rw [(identity_of_members hsteady.members hreplica).2]
        exact ((hsteady.keeps.stopTimers position).addTimer position .disseminate
          settings.latency.syncDelay hrepeats.syncPeriod).addTimer position .refresh 0
            hrepeats.expectationRefresh
  | shutdown position => exact hsteady.keeps.stopTimers position
  | reconfigure position view =>
      rcases respond_reconfigure_cases cluster position view with
        hrefused | ⟨replica, next, -, -, hmoved⟩
      · rw [hrefused]
        exact hsteady.keeps
      · rw [hmoved]
        exact (hsteady.keeps.withReplicas _).stopTimers position
  | sleep milliseconds => exact hsteady.keeps.sleep milliseconds

theorem IsSteady.after (hrepeats : Repeats settings.latency)
    (hsteady : cluster.IsSteady view settings) (calls : List TimerCall) :
    (cluster.after calls).IsSteady view settings := by
  induction calls generalizing cluster with
  | nil => exact hsteady
  | cons call calls ih => exact ih (hsteady.respond hrepeats call)

/-- Nothing has happened to the replica at a position, nor has time passed. -/
structure AlikeAt (first second : Cluster) (position : Nat) : Prop where
  tasks : second.tasksAt position = first.tasksAt position
  replica : second.replicas[position]? = first.replicas[position]?
  pending : second.pending = first.pending
  time : second.time = first.time

theorem AlikeAt.refl (cluster : Cluster) (position : Nat) : cluster.AlikeAt cluster position :=
  ⟨rfl, rfl, rfl, rfl⟩

theorem KeepsTimers.alikeAt_stopTimers (hkeeps : cluster.KeepsTimers) {place : Nat}
    (hplace : place ≠ position) : cluster.AlikeAt (cluster.stopTimers place) position := by
  refine ⟨?_, rfl, rfl, rfl⟩
  rw [hkeeps.tasksAt_stopTimers, if_neg (Ne.symm hplace)]

/-- Calls to other replicas do not matter, nor do refused moves. -/
theorem KeepsTimers.alikeAt_respond (hkeeps : cluster.KeepsTimers)
    (hreplica : cluster.replicas[position]? = some replica)
    (hcall : call.switch? replica.id position = none)
    (hawake : ∀ milliseconds, call ≠ .sleep milliseconds) :
    cluster.AlikeAt (cluster.respond call) position := by
  cases call with
  | start place =>
      have hplace : place ≠ position := by simpa [TimerCall.switch?] using hcall
      cases hother : cluster.replicas[place]? with
      | none =>
          rw [respond, startTimers, hother]
          exact AlikeAt.refl cluster position
      | some other =>
          have htasks := tasksAt_startTimers hkeeps hother position
          rw [if_neg (Ne.symm hplace)] at htasks
          refine ⟨htasks, ?_, ?_, ?_⟩ <;> rw [respond, startTimers, hother] <;> rfl
  | shutdown place =>
      have hplace : place ≠ position := by simpa [TimerCall.switch?] using hcall
      exact hkeeps.alikeAt_stopTimers hplace
  | reconfigure place view =>
      rw [TimerCall.switch?, ite_eq_right_iff] at hcall
      by_cases hplace : place = position
      · have hmember : view.contains replica.id ≠ true := fun hmember => by
          simpa using hcall ⟨hplace, hmember⟩
        rw [respond, hplace, value_reconfigure_of_not_contains hreplica hmember]
        exact AlikeAt.refl cluster position
      · rcases respond_reconfigure_cases cluster place view with
          hrefused | ⟨other, next, -, -, hmoved⟩
        · rw [hrefused]
          exact AlikeAt.refl cluster position
        · rw [hmoved]
          have halike := (hkeeps.withReplicas (cluster.replicas.set place next)).alikeAt_stopTimers
            hplace
          exact ⟨halike.tasks, List.getElem?_set_ne hplace, rfl, rfl⟩
  | sleep milliseconds => exact absurd rfl (hawake milliseconds)

theorem KeepsTimers.tasksAt_respond_of_stop (hkeeps : cluster.KeepsTimers)
    (hreplica : cluster.replicas[position]? = some replica)
    (hcall : call.switch? replica.id position = some false) :
    (cluster.respond call).tasksAt position = [] := by
  cases call with
  | start place => simp [TimerCall.switch?] at hcall
  | shutdown place =>
      have hplace : place = position := by simpa [TimerCall.switch?] using hcall
      rw [respond, hkeeps.tasksAt_stopTimers, if_pos hplace.symm]
  | reconfigure place view =>
      have hmoved : place = position ∧ view.contains replica.id = true := by
        simpa [TimerCall.switch?] using hcall
      obtain ⟨rfl, hmember⟩ := hmoved
      obtain ⟨next, -, hvalue⟩ := value_reconfigure_of_contains hreplica hmember
      rw [respond, hvalue, (hkeeps.withReplicas _).tasksAt_stopTimers, if_pos rfl]
  | sleep milliseconds => simp [TimerCall.switch?] at hcall

theorem eq_start_of_switch?_eq_some_true {id : ReplicaId}
    (hcall : call.switch? id position = some true) : call = .start position := by
  cases call with
  | start place =>
      have hplace : place = position := by simpa [TimerCall.switch?] using hcall
      rw [hplace]
  | shutdown place => simp [TimerCall.switch?] at hcall
  | reconfigure place view => simp [TimerCall.switch?] at hcall
  | sleep milliseconds => simp [TimerCall.switch?] at hcall

theorem after_concat (cluster : Cluster) (calls : List TimerCall) (call : TimerCall) :
    cluster.after (calls ++ [call]) = (cluster.after calls).respond call := by
  rw [after, List.foldl_append]
  rfl

/-- Whether the timers of the replica were last started. -/
def areStartedBy (calls : List TimerCall) (id : ReplicaId) (position : Nat) : Bool :=
  (calls.filterMap (TimerCall.switch? id position)).getLast? == some true

theorem areStartedBy_concat (calls : List TimerCall) (call : TimerCall) (id : ReplicaId)
    (position : Nat) :
    areStartedBy (calls ++ [call]) id position =
      (call.switch? id position).getD (areStartedBy calls id position) := by
  unfold areStartedBy
  rw [List.filterMap_append]
  cases hcall : call.switch? id position with
  | none => simp [hcall]
  | some started => simp [hcall]

theorem IsSteady.length_tasksAt_respond (hsteady : cluster.IsSteady view settings)
    (hreplica : cluster.replicas[position]? = some replica) :
    ((cluster.respond call).tasksAt position).length =
      match call.switch? replica.id position with
      | none => (cluster.tasksAt position).length
      | some started => if started then 2 else 0 := by
  cases hcall : call.switch? replica.id position with
  | none =>
      by_cases hsleep : ∃ milliseconds, call = .sleep milliseconds
      · obtain ⟨milliseconds, rfl⟩ := hsleep
        rw [Cluster.respond, (hsteady.keeps.tasksAt_sleep milliseconds position).length_eq, List.length_map]
      · have halike := hsteady.keeps.alikeAt_respond hreplica hcall (not_exists.mp hsleep)
        rw [halike.tasks]
  | some started =>
      cases started with
      | true =>
          obtain rfl := eq_start_of_switch?_eq_some_true hcall
          rw [Cluster.respond, tasksAt_startTimers hsteady.keeps hreplica, if_pos rfl]
          rfl
      | false =>
          rw [hsteady.keeps.tasksAt_respond_of_stop hreplica hcall]
          rfl

/-- By induction from the last call on. -/
theorem IsSteady.length_tasksAt_after (hrepeats : Repeats settings.latency)
    (hsteady : cluster.IsSteady view settings) (hidle : cluster.agenda = []) {id : ReplicaId}
    (hid : view.replicas[position]? = some id) (calls : List TimerCall) :
    ((cluster.after calls).tasksAt position).length =
      if areStartedBy calls id position then 2 else 0 := by
  induction calls using List.reverseRecOn with
  | nil =>
      rw [Cluster.after, List.foldl_nil, tasksAt, hidle]
      rfl
  | append_singleton calls call ih =>
      have hreached := hsteady.after hrepeats calls
      obtain ⟨replica, hreplica, rfl⟩ := exists_replica_of_members hreached.members hid
      rw [after_concat, hreached.length_tasksAt_respond hreplica, areStartedBy_concat, ih]
      cases call.switch? replica.id position <;> rfl

/-! ## Reports -/

/-- Of the two timers the first reports and the second does not.  Both have had
all their turns, and what waits besides `before` are the reports. -/
structure ReportsBy (cluster : Cluster) (position : Nat) (reporter : Reporter)
    (first second : PeriodicTask Timer) (before : List Submission) : Prop where
  tasks : (cluster.tasksAt position).Perm
    [first.caughtUp cluster.time, second.caughtUp cluster.time]
  listed : cluster.reporters[position]? = some reporter
  waiting : cluster.waitingFrom reporter.id =
    before ++ List.replicate (first.turns cluster.time) reporter.report

theorem reporters_of_replica (hreplica : cluster.replicas[position]? = some replica) :
    cluster.reporters[position]? = some replica.reporter := by
  rw [reporters, List.getElem?_map, hreplica, Option.map_some]

theorem replica_of_reporters (hreporter : cluster.reporters[position]? = some reporter) :
    ∃ replica, cluster.replicas[position]? = some replica ∧ replica.reporter = reporter := by
  rwa [reporters, List.getElem?_map, Option.map_eq_some_iff] at hreporter

variable {first second : PeriodicTask Timer} {before : List Submission}

theorem countP_disseminate_runs (task : PeriodicTask Timer) (time : Nat) :
    (task.runs time).countP (·.2.job = .disseminate) =
      if task.job.job = .disseminate then task.turns time else 0 := by
  unfold PeriodicTask.runs
  rw [List.countP_map]
  split
  next hjob => simp [Function.comp_def, hjob]
  next hjob => simp [Function.comp_def, hjob]

theorem ReportsBy.of_alike {next : Cluster}
    (hreports : cluster.ReportsBy position reporter first second before)
    (halike : cluster.AlikeAt next position) :
    next.ReportsBy position reporter first second before := by
  constructor
  · rw [halike.tasks, halike.time]
    exact hreports.tasks
  · rw [reporters, List.getElem?_map, halike.replica, ← List.getElem?_map]
    exact hreports.listed
  · rw [waitingFrom, halike.pending, halike.time]
    exact hreports.waiting

section Reports

variable (hsteady : cluster.IsSteady view settings)
  (hreports : cluster.ReportsBy position reporter first second before)
  (hfirst : first.job.job = .disseminate) (hsecond : second.job.job = .refresh)

include hsteady hreports

theorem ReportsBy.period_pos : 0 < first.period ∧ 0 < second.period := by
  have hlive : ∀ task ∈ [first.caughtUp cluster.time, second.caughtUp cluster.time],
      0 < task.period := fun task htask =>
    (hsteady.keeps.live task (mem_tasksAt.mp (hreports.tasks.mem_iff.mpr htask)).1).2
  obtain ⟨hfirst, hrest⟩ := List.forall_mem_cons.mp hlive
  have hsecond : 0 < (second.caughtUp cluster.time).period := hrest _ (List.mem_singleton_self _)
  exact ⟨hfirst, hsecond⟩

include hfirst hsecond

theorem ReportsBy.countP_ticksAt (milliseconds : Nat) :
    (cluster.ticksAt position milliseconds).countP (·.2.job = .disseminate) =
      (first.caughtUp cluster.time).turns (cluster.time + milliseconds) := by
  have hticks := hsteady.keeps.ticks_filter milliseconds position
  have htasks := hreports.tasks.flatMap_right
    (PeriodicTask.runs · (cluster.time + milliseconds))
  have hjobs : (first.caughtUp cluster.time).job.job = .disseminate ∧
      (second.caughtUp cluster.time).job.job = .refresh := ⟨hfirst, hsecond⟩
  rw [ticksAt, (hticks.trans htasks).countP_eq, List.flatMap_cons, List.flatMap_singleton,
    List.countP_append, countP_disseminate_runs, countP_disseminate_runs, hjobs.1, hjobs.2]
  rfl

theorem ReportsBy.sleep (milliseconds : Nat) :
    (cluster.sleep milliseconds).value.ReportsBy position reporter first second before := by
  obtain ⟨hfirstPeriod, hsecondPeriod⟩ := hreports.period_pos hsteady
  have hlater : cluster.time ≤ cluster.time + milliseconds := Nat.le_add_right _ _
  constructor
  · have htasks := (hsteady.keeps.tasksAt_sleep milliseconds position).trans
      (hreports.tasks.map (PeriodicTask.caughtUp · (cluster.time + milliseconds)))
    rwa [List.map_cons, List.map_singleton, PeriodicTask.caughtUp_caughtUp hfirstPeriod hlater,
      PeriodicTask.caughtUp_caughtUp hsecondPeriod hlater] at htasks
  · rw [reporters_sleep]
    exact hreports.listed
  · rw [waitingFrom_sleep hsteady.nodup_ids hreports.listed,
      hreports.countP_ticksAt hsteady hfirst hsecond, hreports.waiting, List.append_assoc,
      List.replicate_append_replicate, PeriodicTask.turns_add hfirstPeriod hlater]
    rfl

theorem ReportsBy.respond (hcall : call.switch? reporter.id position = none) :
    (cluster.respond call).ReportsBy position reporter first second before := by
  by_cases hsleep : ∃ milliseconds, call = .sleep milliseconds
  · obtain ⟨milliseconds, rfl⟩ := hsleep
    exact hreports.sleep hsteady hfirst hsecond milliseconds
  · obtain ⟨replica, hreplica, rfl⟩ := replica_of_reporters hreports.listed
    exact hreports.of_alike
      (hsteady.keeps.alikeAt_respond hreplica hcall (not_exists.mp hsleep))

theorem ReportsBy.after (hrepeats : Repeats settings.latency) {calls : List TimerCall}
    (hcalls : ∀ call ∈ calls, call.switch? reporter.id position = none) :
    (cluster.after calls).ReportsBy position reporter first second before := by
  induction calls generalizing cluster with
  | nil => exact hreports
  | cons call calls ih =>
      obtain ⟨hcall, hrest⟩ := List.forall_mem_cons.mp hcalls
      exact ih (hsteady.respond hrepeats call)
        (hreports.respond hsteady hfirst hsecond hcall) hrest

end Reports

theorem IsSteady.reportsBy_startTimers (hrepeats : Repeats settings.latency)
    (hsteady : cluster.IsSteady view settings)
    (hreplica : cluster.replicas[position]? = some replica) :
    (cluster.startTimers position).ReportsBy position replica.reporter
      (cluster.dissemination position settings.latency) (cluster.refresh position settings.latency)
      (cluster.waitingFrom replica.id) := by
  have hsettings := (identity_of_members hsteady.members hreplica).2
  have htasks := tasksAt_startTimers hsteady.keeps hreplica position
  rw [if_pos rfl, hsettings] at htasks
  -- Neither timer is due before the clock moves on.
  have hstarted : (cluster.startTimers position).time = cluster.time ∧
      (cluster.startTimers position).replicas = cluster.replicas ∧
      (cluster.startTimers position).pending = cluster.pending := by
    rw [startTimers, hreplica]
    exact ⟨rfl, rfl, rfl⟩
  obtain ⟨htime, hreplicas, hpending⟩ := hstarted
  have hfirst : cluster.time ≤ (cluster.dissemination position settings.latency).due :=
    Nat.le_add_right _ _
  have hsecond : cluster.time ≤ (cluster.refresh position settings.latency).due :=
    Nat.le_add_right _ _
  constructor
  · rw [htasks, htime, PeriodicTask.caughtUp_of_not_due hrepeats.syncPeriod hfirst,
      PeriodicTask.caughtUp_of_not_due hrepeats.expectationRefresh hsecond]
  · rw [reporters, hreplicas]
    exact reporters_of_replica hreplica
  · rw [htime, (PeriodicTask.turns_eq_zero_iff hrepeats.syncPeriod).mpr hfirst, waitingFrom,
      hpending, List.replicate_zero, List.append_nil]
    rfl

theorem repeats_of_valid (hvalid : settings.invalid? = none) : Repeats settings.latency := by
  rw [Settings.invalid?_eq_none_iff] at hvalid
  constructor
  · exact Nat.pos_of_ne_zero fun hzero => hvalid.syncPeriod (UInt64.toNat_inj.mp hzero)
  · exact Nat.pos_of_ne_zero fun hzero => hvalid.expectationRefresh (UInt64.toNat_inj.mp hzero)

theorem invalid?_eq_none_of_ofSettings (hcluster : ofSettings view settings = .ok cluster)
    (hreplicas : view.replicas ≠ []) : settings.invalid? = none := by
  cases hinvalid : settings.invalid? with
  | none => rfl
  | some invalid =>
      have hrefused : ∀ id, Replica.ofSettings id view settings =
          .error (.invalidSettings invalid) := by
        intro id
        rw [Replica.ofSettings, hinvalid]
      cases hids : view.replicas with
      | nil => exact absurd hids hreplicas
      | cons id ids =>
          rw [ofSettings, hids, List.mapM_cons, hrefused] at hcluster
          contradiction

/-- Whatever was started before: a replica has two timers if they were last
started and none if they were last stopped, and without timers it does nothing.
From a start on, and until the next start or stop, it submits its latencies once
for each time `syncDelay + k * syncPeriod` that has passed. -/
theorem timers_obey_last_start_or_stop
    (hcluster : ofSettings view settings = .ok cluster) (calls : List TimerCall)
    (hreplica : (cluster.after calls).replicas[position]? = some replica) :
    let reached := cluster.after calls
    let live := if areStartedBy calls replica.id position then 2 else 0
    (reached.activeTimers position = live ∧ (reached.tasksAt position).length = live) ∧
      (reached.activeTimers position = 0 → ∀ milliseconds : Nat,
        let next := (reached.sleep milliseconds).value
        reached.ticksAt position milliseconds = [] ∧
          next.replicas[position]? = some replica ∧
          next.waitingFrom replica.id = reached.waitingFrom replica.id) ∧
      ∀ later : List TimerCall,
        (∀ call ∈ later, call.switch? replica.id position = none) →
          let next := (reached.startTimers position).after later
          ∃ count,
            (∀ k, k < count ↔
              reached.time + settings.latency.syncDelay.toNat +
                k * settings.latency.syncPeriod.toNat < next.time) ∧
            next.waitingFrom replica.id = reached.waitingFrom replica.id ++
              List.replicate count ⟨replica.id, .latency, replica.latencies.encode⟩ := by
  intro reached live
  have hstart := isSteady_of_ofSettings hcluster
  have hmembers := (cluster.members_after calls).trans hstart.members
  have hid : view.replicas[position]? = some replica.id :=
    (identity_of_members hmembers hreplica).1
  have hvalid : settings.invalid? = none :=
    invalid?_eq_none_of_ofSettings hcluster (List.ne_nil_of_mem (List.mem_of_getElem? hid))
  have hrepeats : Repeats settings.latency := repeats_of_valid hvalid
  have hsteady : reached.IsSteady view settings := hstart.after hrepeats calls
  have hidle : cluster.agenda = [] := by rw [eq_of_ofSettings hcluster]
  have hlength : (reached.tasksAt position).length = live :=
    hstart.length_tasksAt_after hrepeats hidle hid calls
  have hactive := hsteady.keeps.activeTimers_eq position
  refine ⟨⟨hactive.trans hlength, hlength⟩, ?_, ?_⟩
  · intro hnone milliseconds next
    have htasks : reached.tasksAt position = [] :=
      List.eq_nil_of_length_eq_zero (hactive.symm.trans hnone)
    have hticks := hsteady.keeps.ticksAt_eq_nil htasks milliseconds
    refine ⟨hticks, (getElem?_sleep_of_ticksAt_nil hticks).trans hreplica, ?_⟩
    have hwaiting := waitingFrom_sleep hsteady.nodup_ids (reporters_of_replica hreplica)
      milliseconds
    rwa [hticks, List.countP_nil, List.replicate_zero, List.append_nil] at hwaiting
  · intro later hlater next
    have hstarted : (reached.startTimers position).IsSteady view settings :=
      hsteady.respond hrepeats (.start position)
    have hreports := (hsteady.reportsBy_startTimers hrepeats hreplica).after hstarted rfl rfl
      hrepeats hlater
    refine ⟨(reached.dissemination position settings.latency).turns next.time, fun k => ?_,
      hreports.waiting⟩
    exact PeriodicTask.lt_turns_iff hrepeats.syncPeriod

/-- Replica 1 of four starts twice, refuses to leave and stops.  Started again
after 30 milliseconds it reports four times in the next 35, whatever the others
do. -/
theorem second_replica_reports_four_times :
    ∃ cluster replica, ofSettings ⟨4, 1, by decide⟩ .simulation = .ok cluster ∧
      let stopped := cluster.after
        [.start 1, .sleep 5, .start 1, .sleep 25, .reconfigure 1 ⟨1, 0, by decide⟩, .shutdown 1]
      let next := (stopped.startTimers 1).after
        [.sleep 12, .shutdown 2, .start 3, .reconfigure 1 ⟨1, 0, by decide⟩, .sleep 23]
      (stopped.replicas[1]? = some replica ∧ stopped.activeTimers 1 = 0) ∧
        (stopped.sleep 50).value.waitingFrom 1 = stopped.waitingFrom 1 ∧
        next.waitingFrom 1 = stopped.waitingFrom 1 ++
          List.replicate 4 ⟨1, .latency, replica.latencies.encode⟩ := by
  let start : Cluster :=
    { replicas := View.replicas ⟨4, 1, by decide⟩ |>.map fun id =>
        Replica.fresh id ⟨4, 1, by decide⟩ .simulation }
  let calls : List TimerCall :=
    [.start 1, .sleep 5, .start 1, .sleep 25, .reconfigure 1 ⟨1, 0, by decide⟩, .shutdown 1]
  let later : List TimerCall :=
    [.sleep 12, .shutdown 2, .start 3, .reconfigure 1 ⟨1, 0, by decide⟩, .sleep 23]
  have hstart : ofSettings ⟨4, 1, by decide⟩ .simulation = .ok start :=
    ofSettings_of_valid (by decide +kernel)
  have hsecond : (start.after calls).replicas[1]?.map Replica.id = some 1 := by decide +kernel
  obtain ⟨replica, hreplica, hid⟩ := Option.map_eq_some_iff.mp hsecond
  obtain ⟨⟨hactive, -⟩, hidle, hreports⟩ := timers_obey_last_start_or_stop hstart calls hreplica
  rw [hid] at hactive hidle hreports
  have hnone : (start.after calls).activeTimers 1 = 0 := hactive
  obtain ⟨-, -, hquiet⟩ := hidle hnone 50
  obtain ⟨count, hcount, hwaiting⟩ := hreports later (by decide)
  have hstopped : (start.after calls).time = 30 := by decide +kernel
  have hnext : (((start.after calls).startTimers 1).after later).time = 65 := by decide +kernel
  have hfour : count = 4 := by
    have hthree := (hcount 3).mpr (by rw [hstopped, hnext]; decide)
    have hover := mt (hcount 4).mp (by rw [hstopped, hnext]; decide)
    omega
  rw [hfour] at hwaiting
  exact ⟨start, replica, hstart, ⟨hreplica, hnone⟩, hquiet, hwaiting⟩

end Cluster

end SuspicionMonitor
