import SuspicionMonitor.Agenda
import Mathlib.Tactic

/-!
# Periodic tasks run at all of their times

When time advances each task runs once at every of its times that has passed,
and then waits for the first one that has not.  The tasks do not get in each
other's way: up to the order, the runs of an agenda are those of its tasks, each
taken alone.
-/

namespace SuspicionMonitor

namespace PeriodicTask

variable {α : Type} {task : PeriodicTask α} {time later k : Nat}

/-- How many of the times `due`, `due + period` and so on lie before `time`. -/
def turns (task : PeriodicTask α) (time : Nat) : Nat :=
  (time - task.due + (task.period - 1)) / task.period

/-- The runs of the task before `time`. -/
def runs (task : PeriodicTask α) (time : Nat) : List (Nat × α) :=
  (List.range (task.turns time)).map fun k => (task.due + k * task.period, task.job)

/-- The task once it has had its turns before `time`. -/
def caughtUp (task : PeriodicTask α) (time : Nat) : PeriodicTask α :=
  { task with due := task.due + task.turns time * task.period }

theorem lt_turns_iff (hperiod : 0 < task.period) :
    k < task.turns time ↔ task.due + k * task.period < time := by
  rw [turns, ← Nat.succ_le_iff, Nat.le_div_iff_mul_le hperiod, Nat.succ_mul]
  omega

theorem turns_eq_zero_iff (hperiod : 0 < task.period) :
    task.turns time = 0 ↔ time ≤ task.due := by
  have hfirst : 0 < task.turns time ↔ task.due + 0 * task.period < time := lt_turns_iff hperiod
  omega

theorem turns_le (hperiod : 0 < task.period) : task.turns time ≤ time := by
  by_contra hlt
  have hrun := (lt_turns_iff hperiod).mp (Nat.lt_of_not_le hlt)
  have hle : time ≤ time * task.period := Nat.le_mul_of_pos_right time hperiod
  omega

theorem turns_of_due (hperiod : 0 < task.period) (hdue : task.due < time) :
    task.turns time = task.postponed.turns time + 1 := by
  refine eq_of_forall_lt_iff fun k => ?_
  cases k with
  | zero =>
      rw [lt_turns_iff hperiod, Nat.zero_mul]
      simpa using hdue
  | succ k =>
      have hrest : k < task.postponed.turns time ↔
          task.due + task.period + k * task.period < time := lt_turns_iff hperiod
      rw [lt_turns_iff hperiod, Nat.succ_lt_succ_iff, hrest, Nat.succ_mul]
      omega

/-- Time may advance in two steps. -/
theorem turns_add (hperiod : 0 < task.period) (hle : time ≤ later) :
    task.turns time + (task.caughtUp time).turns later = task.turns later := by
  refine eq_of_forall_lt_iff fun k => ?_
  rw [lt_turns_iff hperiod]
  by_cases hk : k < task.turns time
  · have hrun := (lt_turns_iff hperiod).mp hk
    omega
  · obtain ⟨rest, rfl⟩ := Nat.exists_eq_add_of_le (Nat.le_of_not_lt hk)
    have hrest : rest < (task.caughtUp time).turns later ↔
        task.due + task.turns time * task.period + rest * task.period < later :=
      lt_turns_iff hperiod
    rw [Nat.add_lt_add_iff_left, hrest, Nat.add_mul]
    omega

theorem caughtUp_caughtUp (hperiod : 0 < task.period) (hle : time ≤ later) :
    (task.caughtUp time).caughtUp later = task.caughtUp later := by
  have hturns := turns_add hperiod hle
  unfold caughtUp at *
  rw [← hturns, Nat.add_mul, Nat.add_assoc]

theorem caughtUp_of_not_due (hperiod : 0 < task.period) (hdue : time ≤ task.due) :
    task.caughtUp time = task := by
  rw [caughtUp, (turns_eq_zero_iff hperiod).mpr hdue, Nat.zero_mul, Nat.add_zero]

theorem caughtUp_postponed (hperiod : 0 < task.period) (hdue : task.due < time) :
    task.postponed.caughtUp time = task.caughtUp time := by
  unfold caughtUp
  rw [turns_of_due hperiod hdue, Nat.succ_mul, postponed]
  congr 1
  dsimp only
  omega

theorem runs_of_not_due (hperiod : 0 < task.period) (hdue : time ≤ task.due) :
    task.runs time = [] := by
  rw [runs, (turns_eq_zero_iff hperiod).mpr hdue]
  rfl

theorem runs_of_due (hperiod : 0 < task.period) (hdue : task.due < time) :
    task.runs time = (task.due, task.job) :: task.postponed.runs time := by
  unfold runs
  rw [turns_of_due hperiod hdue, List.range_succ_eq_map, List.map_cons, List.map_map, Nat.zero_mul]
  congr 1
  refine List.map_congr_left fun k _ => ?_
  simp only [Function.comp_apply, postponed, Nat.succ_mul]
  congr 1
  omega

end PeriodicTask

namespace Agenda

variable {α : Type} {agenda others : Agenda α} {next : PeriodicTask α} {isCurrent : α → Bool}
  {time : Nat}

theorem takeNext_eq_none_iff : takeNext agenda = none ↔ agenda = [] := by
  cases agenda with
  | nil => exact iff_of_true rfl rfl
  | cons task agenda =>
      refine iff_of_false ?_ (List.cons_ne_nil _ _)
      rw [takeNext]
      split
      · exact Option.some_ne_none _
      · split <;> exact Option.some_ne_none _

theorem takeNext_eq_some (hnext : takeNext agenda = some (next, others)) :
    agenda.Perm (next :: others) ∧ ∀ task ∈ agenda, next.due ≤ task.due := by
  induction agenda generalizing next others with
  | nil => contradiction
  | cons task agenda ih =>
      rw [takeNext] at hnext
      split at hnext
      next hnone =>
        obtain ⟨rfl, rfl⟩ := Prod.mk.inj (Option.some.inj hnext)
        rw [takeNext_eq_none_iff.mp hnone]
        exact ⟨List.Perm.refl _, fun other hother => by rw [List.mem_singleton.mp hother]⟩
      next first rest hfirst =>
        obtain ⟨hperm, hleast⟩ := ih hfirst
        split at hnext
        next hle =>
          obtain ⟨rfl, rfl⟩ := Prod.mk.inj (Option.some.inj hnext)
          refine ⟨List.Perm.refl _, fun other hother => ?_⟩
          rcases List.mem_cons.mp hother with rfl | hother
          · exact Nat.le_refl _
          · exact hle.trans (hleast other hother)
        next hlt =>
          obtain ⟨rfl, rfl⟩ := Prod.mk.inj (Option.some.inj hnext)
          refine ⟨(hperm.cons task).trans (List.Perm.swap _ _ _), fun other hother => ?_⟩
          rcases List.mem_cons.mp hother with rfl | hother
          · exact Nat.le_of_not_le hlt
          · exact hleast other hother

/-- No job is stale, and every task waits for another time after it has run. -/
def IsLive (isCurrent : α → Bool) (agenda : Agenda α) : Prop :=
  ∀ task ∈ agenda, isCurrent task.job = true ∧ 0 < task.period

/-- What `advanceWithin` is to achieve: the agenda after all turns before `time`,
and what has run. -/
structure CatchesUp (agenda : Agenda α) (time : Nat) (result : Agenda α × List (Nat × α)) :
    Prop where
  tasks : result.1.Perm (agenda.map (·.caughtUp time))
  runs : result.2.Perm (agenda.flatMap (·.runs time))

theorem catchesUp_of_not_due (hlive : agenda.IsLive isCurrent)
    (hdue : ∀ task ∈ agenda, time ≤ task.due) : agenda.CatchesUp time (agenda, []) := by
  constructor
  · refine List.Perm.of_eq ?_
    conv_lhs => rw [← List.map_id agenda]
    exact List.map_congr_left fun task htask =>
      (PeriodicTask.caughtUp_of_not_due (hlive task htask).2 (hdue task htask)).symm
  · refine List.Perm.of_eq (List.flatMap_eq_nil_iff.mpr fun task htask => ?_).symm
    exact PeriodicTask.runs_of_not_due (hlive task htask).2 (hdue task htask)

/-- The task whose turn it is runs once, and runs on from there. -/
theorem CatchesUp.of_postponed {result : Agenda α × List (Nat × α)}
    (hperm : agenda.Perm (next :: others)) (hperiod : 0 < next.period) (hdue : next.due < time)
    (hrest : CatchesUp (others ++ [next.postponed]) time result) :
    agenda.CatchesUp time (result.1, (next.due, next.job) :: result.2) := by
  have hturn : (others ++ [next.postponed]).Perm (next.postponed :: others) :=
    List.perm_append_singleton next.postponed others
  constructor
  · have hmoved := hrest.tasks.trans (hturn.map (·.caughtUp time))
    rw [List.map_cons, PeriodicTask.caughtUp_postponed hperiod hdue] at hmoved
    exact hmoved.trans (hperm.map (PeriodicTask.caughtUp · time)).symm
  · have hruns := hrest.runs.trans (hturn.flatMap_right (·.runs time))
    refine ((hruns.cons (next.due, next.job)).trans ?_).trans
      (hperm.flatMap_right (·.runs time)).symm
    rw [List.flatMap_cons, List.flatMap_cons, PeriodicTask.runs_of_due hperiod hdue,
      List.cons_append]

/-- By induction on the turns that are left, which suffice for all tasks. -/
theorem catchesUp_advanceWithin (turns : Nat) (hlive : agenda.IsLive isCurrent)
    (hturns : (agenda.map (·.turns time)).sum ≤ turns) :
    agenda.CatchesUp time (advanceWithin isCurrent time turns agenda) := by
  induction turns generalizing agenda with
  | zero =>
      refine catchesUp_of_not_due hlive fun task htask => ?_
      rw [← PeriodicTask.turns_eq_zero_iff (hlive task htask).2]
      exact List.sum_eq_zero_iff.mp (Nat.le_zero.mp hturns) _ (List.mem_map_of_mem htask)
  | succ turns ih =>
      rw [advanceWithin]
      split
      next hnone =>
        rw [takeNext_eq_none_iff.mp hnone]
        exact ⟨List.Perm.refl _, List.Perm.refl _⟩
      next next others hnext =>
        obtain ⟨hperm, hleast⟩ := takeNext_eq_some hnext
        obtain ⟨hcurrent, hperiod⟩ := hlive next (hperm.mem_iff.mpr List.mem_cons_self)
        by_cases hdue : next.due < time
        · rw [if_pos hdue, if_pos hcurrent]
          refine CatchesUp.of_postponed hperm hperiod hdue (ih ?_ ?_)
          · intro task htask
            rcases List.mem_append.mp htask with hother | hlast
            · exact hlive task (hperm.mem_iff.mpr (List.mem_cons_of_mem next hother))
            · rw [List.mem_singleton.mp hlast]
              exact ⟨hcurrent, hperiod⟩
          · have hsum := (hperm.map (·.turns time)).sum_eq
            rw [List.map_cons, List.sum_cons, PeriodicTask.turns_of_due hperiod hdue] at hsum
            rw [List.map_append, List.sum_append, List.map_singleton, List.sum_singleton]
            omega
        · rw [if_neg hdue]
          exact catchesUp_of_not_due hlive fun task htask =>
            (Nat.le_of_not_lt hdue).trans (hleast task htask)

/-- All tasks run at all of their times before `time`, and nothing else runs. -/
theorem catchesUp_advance (time : Nat) (hlive : agenda.IsLive isCurrent) :
    agenda.CatchesUp time (agenda.advance isCurrent time) := by
  refine catchesUp_advanceWithin _ hlive ?_
  have hbound : ∀ turns ∈ agenda.map (·.turns time), turns ≤ time := by
    intro turns hturns
    obtain ⟨task, htask, rfl⟩ := List.mem_map.mp hturns
    exact PeriodicTask.turns_le (hlive task htask).2
  have hsum := List.sum_le_card_nsmul _ time hbound
  rwa [List.length_map, smul_eq_mul] at hsum

end Agenda

end SuspicionMonitor
