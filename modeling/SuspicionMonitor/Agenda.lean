/-!
# Periodic tasks in virtual time

An agenda lists the tasks that wait for their time, in the order in which they
began to wait.  When time advances, the tasks that are due run in the order of
their times, and at the same time in the order of the agenda.  A task that has
run waits for another period.

A task leaves the agenda when it is cancelled through its handle, and also when
its time comes and its job has gone stale.
-/

namespace SuspicionMonitor

structure PeriodicTask (α : Type) where
  /-- The number by which the task can be cancelled. -/
  handle : Nat
  job : α
  due : Nat
  period : Nat

namespace PeriodicTask

variable {α : Type}

/-- The task once it has run. -/
def postponed (task : PeriodicTask α) : PeriodicTask α :=
  { task with due := task.due + task.period }

end PeriodicTask

abbrev Agenda (α : Type) := List (PeriodicTask α)

namespace Agenda

variable {α : Type}

/-- Whether the task with that handle still waits. -/
def holds (agenda : Agenda α) (handle : Nat) : Bool := agenda.any (·.handle == handle)

def cancel (agenda : Agenda α) (handles : List Nat) : Agenda α :=
  agenda.filter fun task => !handles.contains task.handle

/-- The first of the tasks with the least time, and the others. -/
def takeNext : Agenda α → Option (PeriodicTask α × Agenda α)
  | [] => none
  | task :: agenda =>
      match takeNext agenda with
      | none => some (task, [])
      | some (next, others) =>
          if task.due ≤ next.due then some (task, agenda) else some (next, task :: others)

/-- Lets up to `turns` tasks have their turn that are due before `time`.  The
result lists what was run and when. -/
def advanceWithin (isCurrent : α → Bool) (time : Nat) :
    (turns : Nat) → Agenda α → Agenda α × List (Nat × α)
  | 0, agenda => (agenda, [])
  | turns + 1, agenda =>
      match takeNext agenda with
      | none => (agenda, [])
      | some (task, others) =>
          if task.due < time then
            if isCurrent task.job then
              let (agenda, later) :=
                advanceWithin isCurrent time turns (others ++ [task.postponed])
              (agenda, (task.due, task.job) :: later)
            else
              advanceWithin isCurrent time turns others
          else
            (agenda, [])

/-- A task with a positive period has at most one turn at each time before
`time`. -/
def advance (isCurrent : α → Bool) (time : Nat) (agenda : Agenda α) :
    Agenda α × List (Nat × α) :=
  advanceWithin isCurrent time (agenda.length * time) agenda

end Agenda

end SuspicionMonitor
