import SuspicionMonitor.Cluster
import SuspicionMonitor.Proofs.PeriodicTasks
import Mathlib.Tactic

/-!
# Timers and their records

The agenda of a cluster holds the timers of all replicas, and the record of a
replica lists the handles of its own.  Both agree at all times, no handle is
given out twice, and no timer outlives its generation.  So stopping the timers of
a replica cancels all of them and no others, and what `activeTimers` counts is
what waits in the agenda.
-/

namespace SuspicionMonitor

namespace Cluster

/-- The timers of the replica at a position. -/
def tasksAt (cluster : Cluster) (position : Nat) : Agenda Timer :=
  cluster.agenda.filter (·.job.position == position)

/-- What runs while the time advances. -/
def ticks (cluster : Cluster) (milliseconds : Nat) : List (Nat × Timer) :=
  (cluster.agenda.advance cluster.isCurrent (cluster.time + milliseconds)).2

/-- The timer that `addTimer` adds. -/
def timerAdded (cluster : Cluster) (position : Nat) (job : TimerJob) (delay period : UInt64) :
    PeriodicTask Timer where
  handle := cluster.nextHandle
  job := ⟨position, (cluster.timerRecord position).generation, job⟩
  due := cluster.time + delay.toNat
  period := period.toNat

structure KeepsTimers (cluster : Cluster) : Prop where
  live : cluster.agenda.IsLive cluster.isCurrent
  registered : ∀ position,
    (cluster.timerRecord position).handles.Perm ((cluster.tasksAt position).map (·.handle))
  distinct : (cluster.agenda.map (·.handle)).Nodup
  issued : ∀ task ∈ cluster.agenda, task.handle < cluster.nextHandle

variable {cluster : Cluster} {position other : Nat} {job : TimerJob} {delay period : UInt64}

theorem mem_tasksAt {task : PeriodicTask Timer} :
    task ∈ cluster.tasksAt position ↔ task ∈ cluster.agenda ∧ task.job.position = position := by
  rw [tasksAt, List.mem_filter, beq_iff_eq]

theorem keepsTimers_of_agenda_nil (hagenda : cluster.agenda = [])
    (hrecords : cluster.timerRecords = ∅) : cluster.KeepsTimers := by
  constructor
  · simp [Agenda.IsLive, hagenda]
  · simp [timerRecord, tasksAt, hagenda, hrecords]
  · simp [hagenda]
  · simp [hagenda]

theorem KeepsTimers.withReplicas (hkeeps : cluster.KeepsTimers) (replicas : List Replica) :
    { cluster with replicas }.KeepsTimers :=
  ⟨hkeeps.live, hkeeps.registered, hkeeps.distinct, hkeeps.issued⟩

/-- The registered handles are those of the timers that wait. -/
theorem KeepsTimers.activeTimers_eq (hkeeps : cluster.KeepsTimers) (position : Nat) :
    cluster.activeTimers position = (cluster.tasksAt position).length := by
  have hregistered := hkeeps.registered position
  have hheld : ∀ handle ∈ (cluster.timerRecord position).handles,
      cluster.agenda.holds handle = true := by
    intro handle hhandle
    obtain ⟨task, htask, rfl⟩ := List.mem_map.mp (hregistered.mem_iff.mp hhandle)
    exact List.any_eq_true.mpr ⟨task, (mem_tasksAt.mp htask).1, beq_self_eq_true _⟩
  rw [activeTimers, List.countP_eq_length.mpr hheld, hregistered.length_eq, List.length_map]

theorem getD_insert_record (records : Std.ExtTreeMap Nat TimerRecord) (position other : Nat)
    (record : TimerRecord) :
    ((records.insert position record)[other]?).getD {} =
      if other = position then record else (records[other]?).getD {} := by
  rw [Std.ExtTreeMap.getElem?_insert]
  by_cases hother : other = position
  · rw [hother, if_pos rfl, if_pos Std.ReflCmp.compare_self]
    rfl
  · rw [if_neg hother, if_neg fun heq => hother (Std.LawfulEqOrd.compare_eq_iff_eq.mp heq).symm]

theorem timerRecord_stopTimers (cluster : Cluster) (position other : Nat) :
    (cluster.stopTimers position).timerRecord other =
      if other = position then ⟨(cluster.timerRecord position).generation + 1, []⟩
      else cluster.timerRecord other := by
  unfold timerRecord stopTimers
  exact getD_insert_record ..

/-- All timers of the replica are cancelled, and no others. -/
theorem KeepsTimers.agenda_stopTimers (hkeeps : cluster.KeepsTimers) (position : Nat) :
    (cluster.stopTimers position).agenda =
      cluster.agenda.filter fun task => task.job.position != position := by
  refine List.filter_congr fun task htask => ?_
  have hhandle : task.handle ∈ (cluster.timerRecord position).handles ↔
      task.job.position = position := by
    rw [(hkeeps.registered position).mem_iff, List.mem_map]
    constructor
    · rintro ⟨same, hsame, heq⟩
      obtain ⟨hmem, hposition⟩ := mem_tasksAt.mp hsame
      rwa [List.inj_on_of_nodup_map hkeeps.distinct htask hmem heq.symm]
    · exact fun hposition => ⟨task, mem_tasksAt.mpr ⟨htask, hposition⟩, rfl⟩
  rw [Bool.eq_iff_iff, Bool.not_eq_true', bne_iff_ne, ← not_iff_not]
  simpa using hhandle

theorem KeepsTimers.tasksAt_stopTimers (hkeeps : cluster.KeepsTimers) (position other : Nat) :
    (cluster.stopTimers position).tasksAt other =
      if other = position then [] else cluster.tasksAt other := by
  rw [tasksAt, hkeeps.agenda_stopTimers, List.filter_filter]
  split
  next hother =>
    rw [List.filter_eq_nil_iff]
    intro task _
    simp [hother]
  next hother =>
    refine List.filter_congr fun task _ => ?_
    by_cases hplace : task.job.position = other
    · simp [hplace, hother]
    · simp [hplace]

theorem KeepsTimers.stopTimers (hkeeps : cluster.KeepsTimers) (position : Nat) :
    (cluster.stopTimers position).KeepsTimers := by
  have hagenda := hkeeps.agenda_stopTimers position
  constructor
  · intro task htask
    rw [hagenda, List.mem_filter, bne_iff_ne] at htask
    obtain ⟨hmem, hposition⟩ := htask
    obtain ⟨hcurrent, hperiod⟩ := hkeeps.live task hmem
    refine ⟨?_, hperiod⟩
    rw [isCurrent, timerRecord_stopTimers, if_neg hposition]
    exact hcurrent
  · intro other
    rw [timerRecord_stopTimers, hkeeps.tasksAt_stopTimers]
    split
    · exact List.Perm.refl _
    · exact hkeeps.registered other
  · rw [hagenda]
    exact hkeeps.distinct.sublist (List.filter_sublist.map _)
  · intro task htask
    rw [hagenda] at htask
    exact hkeeps.issued task (List.mem_filter.mp htask).1

theorem agenda_addTimer :
    (cluster.addTimer position job delay period).agenda =
      cluster.agenda ++ [cluster.timerAdded position job delay period] := rfl

theorem timerRecord_addTimer (cluster : Cluster) (position : Nat) (job : TimerJob)
    (delay period : UInt64) (other : Nat) :
    (cluster.addTimer position job delay period).timerRecord other =
      if other = position then
        { cluster.timerRecord position with
          handles := (cluster.timerRecord position).handles ++ [cluster.nextHandle] }
      else cluster.timerRecord other := by
  unfold timerRecord addTimer
  exact getD_insert_record ..

theorem generation_addTimer :
    ((cluster.addTimer position job delay period).timerRecord other).generation =
      (cluster.timerRecord other).generation := by
  rw [timerRecord_addTimer]
  split
  next hother => rw [hother]
  · rfl

theorem tasksAt_addTimer :
    (cluster.addTimer position job delay period).tasksAt other =
      cluster.tasksAt other ++
        if other = position then [cluster.timerAdded position job delay period] else [] := by
  rw [tasksAt, agenda_addTimer, List.filter_append, ← tasksAt]
  congr 1
  by_cases hother : other = position
  · simp [timerAdded, hother]
  · simp [timerAdded, hother, Ne.symm hother]

theorem KeepsTimers.addTimer (hkeeps : cluster.KeepsTimers) (position : Nat) (job : TimerJob)
    (delay : UInt64) (hperiod : 0 < period.toNat) :
    (cluster.addTimer position job delay period).KeepsTimers := by
  constructor
  · intro task htask
    rw [agenda_addTimer, List.mem_append, List.mem_singleton] at htask
    rw [isCurrent, generation_addTimer]
    rcases htask with hmem | rfl
    · exact hkeeps.live task hmem
    · exact ⟨beq_self_eq_true _, hperiod⟩
  · intro other
    rw [timerRecord_addTimer, tasksAt_addTimer, List.map_append]
    split
    next hother =>
      rw [hother]
      exact (hkeeps.registered position).append_right _
    next =>
      rw [List.map_nil, List.append_nil]
      exact hkeeps.registered other
  · rw [agenda_addTimer, List.map_append, List.nodup_append]
    refine ⟨hkeeps.distinct, List.nodup_singleton _, ?_⟩
    intro handle hhandle last hlast
    obtain ⟨task, htask, rfl⟩ := List.mem_map.mp hhandle
    rw [List.mem_map] at hlast
    obtain ⟨added, hadded, rfl⟩ := hlast
    rw [List.mem_singleton.mp hadded]
    exact (hkeeps.issued task htask).ne
  · intro task htask
    rw [agenda_addTimer, List.mem_append, List.mem_singleton] at htask
    change task.handle < cluster.nextHandle + 1
    rcases htask with hmem | rfl
    · exact (hkeeps.issued task hmem).trans (Nat.lt_succ_self _)
    · exact Nat.lt_succ_self _

theorem handle_caughtUp_map (agenda : Agenda Timer) (time : Nat) :
    (agenda.map (·.caughtUp time)).map (·.handle) = agenda.map (·.handle) := by
  rw [List.map_map]
  rfl

theorem filter_caughtUp_map (agenda : Agenda Timer) (time : Nat) (position : Nat) :
    (agenda.map (·.caughtUp time)).filter (·.job.position == position) =
      (agenda.filter (·.job.position == position)).map (·.caughtUp time) := by
  rw [List.filter_map]
  rfl

section Sleep

variable (hkeeps : cluster.KeepsTimers) (milliseconds : Nat)

include hkeeps

theorem KeepsTimers.agenda_sleep :
    (cluster.sleep milliseconds).value.agenda.Perm
      (cluster.agenda.map (·.caughtUp (cluster.time + milliseconds))) :=
  (Agenda.catchesUp_advance (cluster.time + milliseconds) hkeeps.live).tasks

theorem KeepsTimers.tasksAt_sleep (position : Nat) :
    ((cluster.sleep milliseconds).value.tasksAt position).Perm
      ((cluster.tasksAt position).map (·.caughtUp (cluster.time + milliseconds))) := by
  have hfiltered := (hkeeps.agenda_sleep milliseconds).filter (·.job.position == position)
  rwa [filter_caughtUp_map] at hfiltered

theorem KeepsTimers.sleep : (cluster.sleep milliseconds).value.KeepsTimers := by
  have hagenda := hkeeps.agenda_sleep milliseconds
  constructor
  · intro task htask
    obtain ⟨before, hbefore, rfl⟩ := List.mem_map.mp (hagenda.mem_iff.mp htask)
    exact hkeeps.live before hbefore
  · intro other
    refine (hkeeps.registered other).trans ?_
    have htasks := (hkeeps.tasksAt_sleep milliseconds other).map (·.handle)
    rw [handle_caughtUp_map] at htasks
    exact htasks.symm
  · have hhandles := hagenda.map (·.handle)
    rw [handle_caughtUp_map] at hhandles
    exact hhandles.nodup_iff.mpr hkeeps.distinct
  · intro task htask
    obtain ⟨before, hbefore, rfl⟩ := List.mem_map.mp (hagenda.mem_iff.mp htask)
    exact hkeeps.issued before hbefore

/-- The runs of the timers of one replica do not depend on any other timer. -/
theorem KeepsTimers.ticks_filter (position : Nat) :
    ((cluster.ticks milliseconds).filter (·.2.position == position)).Perm
      ((cluster.tasksAt position).flatMap (·.runs (cluster.time + milliseconds))) := by
  have hruns := (Agenda.catchesUp_advance (cluster.time + milliseconds) hkeeps.live).runs
  refine (hruns.filter _).trans (List.Perm.of_eq ?_)
  rw [tasksAt]
  induction cluster.agenda with
  | nil => rfl
  | cons task agenda ih =>
      rw [List.flatMap_cons, List.filter_append, ih, List.filter_cons]
      by_cases hposition : task.job.position = position
      · rw [if_pos (beq_iff_eq.mpr hposition), List.flatMap_cons]
        congr 1
        refine List.filter_eq_self.mpr fun run hrun => ?_
        obtain ⟨k, -, rfl⟩ := List.mem_map.mp hrun
        exact beq_iff_eq.mpr hposition
      · rw [if_neg (mt beq_iff_eq.mp hposition)]
        refine (List.append_left_eq_self).mpr (List.filter_eq_nil_iff.mpr fun run hrun => ?_)
        obtain ⟨k, -, rfl⟩ := List.mem_map.mp hrun
        exact mt beq_iff_eq.mp hposition

end Sleep

end Cluster

end SuspicionMonitor
