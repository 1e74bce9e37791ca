import SuspicionMonitor.Proofs.LedgerRuns

/-!
# What a ledger holds

A ledger holds what has been delivered to it, less the rounds below the marks
of its collections.  It does not matter what came first, since a collected
round stays refused, and a lower mark after a higher one changes nothing.
Every suspicion that was new is held or has been dropped exactly once.
-/

namespace SuspicionMonitor

namespace LedgerCall

/-- What the call delivers. -/
def delivered : LedgerCall → List Suspicion
  | .store suspicions => suspicions
  | _ => []

/-- The sum over a run of what each call counts. -/
def total {State : Type} (perform : State → LedgerCall → State)
    (count : State → LedgerCall → Nat) (state : State) : List LedgerCall → Nat
  | [] => 0
  | call :: calls => count state call + total perform count (perform state call) calls

end LedgerCall

namespace Ledger

variable {ledger : Ledger} {settings : LedgerSettings} {call : LedgerCall}
  {calls : List LedgerCall} {suspicion : Suspicion}

theorem value_perform_collect (ledger : Ledger) (settings : LedgerSettings) (low : Round) :
    (ledger.perform settings (.collect low)).value = (ledger.collect low).value.1 := rfl

theorem admits_perform :
    (ledger.perform settings call).value.admits suspicion = true ↔
      ledger.admits suspicion = true ∧ ∀ low, call = .collect low → low ≤ suspicion.round := by
  cases call with
  | store suspicions => simp [value_perform_store, admits_foldl_store]
  | build => simp [value_perform_build_of_due, admits]
  | decay round =>
      rw [value_perform_decay]
      split <;> simp [admits]
  | collect low => simp [value_perform_collect, admits_collect]

theorem mem_held_perform_iff :
    suspicion ∈ (ledger.perform settings call).value.held ↔
      (suspicion ∈ ledger.held ∨ suspicion ∈ call.delivered ∧ ledger.admits suspicion = true) ∧
        ∀ low, call = .collect low → low ≤ suspicion.round := by
  cases call with
  | store suspicions => simp [value_perform_store, mem_held_foldl_store, LedgerCall.delivered]
  | build => simp [value_perform_build_of_due, LedgerCall.delivered]
  | decay round =>
      rw [value_perform_decay]
      split <;> simp [LedgerCall.delivered]
  | collect low => simp [value_perform_collect, mem_held_collect, LedgerCall.delivered]

theorem mem_held_run_iff :
    suspicion ∈ (ledger.run settings calls).value.held ↔
      (suspicion ∈ ledger.held ∨
        suspicion ∈ calls.flatMap LedgerCall.delivered ∧ ledger.admits suspicion = true) ∧
        ∀ low, LedgerCall.collect low ∈ calls → low ≤ suspicion.round := by
  induction calls generalizing ledger with
  | nil => simp [run]
  | cons call calls ih =>
      rw [value_run_cons, ih, mem_held_perform_iff, admits_perform, List.flatMap_cons,
        List.mem_append]
      simp only [List.mem_cons, or_imp, forall_and, eq_comm (b := call)]
      tauto

/-- How many suspicions the call reports as new. -/
def added (ledger : Ledger) : LedgerCall → Nat
  | .store suspicions => (ledger.storeAll suspicions).2
  | _ => 0

/-- How many suspicions the call reports as dropped. -/
def dropped (ledger : Ledger) : LedgerCall → Nat
  | .collect low => (ledger.collect low).value.2
  | _ => 0

theorem size_store (ledger : Ledger) (suspicion : Suspicion) :
    (ledger.store suspicion).size =
      ledger.size + if ledger.isNew suspicion then 1 else 0 := by
  unfold store
  by_cases hnew : ledger.isNew suspicion = true
  · have hfresh : ledger.held.contains suspicion = false := by
      simpa using (Bool.and_eq_true_iff.mp hnew).2
    simp [hnew, size, Std.ExtTreeSet.size_insert, hfresh]
  · simp [hnew]

theorem size_storeAll (ledger : Ledger) (suspicions : List Suspicion) :
    (ledger.storeAll suspicions).1.size = ledger.size + (ledger.storeAll suspicions).2 := by
  refine List.foldlRecOn suspicions _
    (motive := fun state : Ledger × Nat => state.1.size = ledger.size + state.2) rfl ?_
  intro state hstate suspicion _
  rw [size_store, hstate, Nat.add_assoc]

/-- What is new in a call is held or dropped after it. -/
theorem size_perform (ledger : Ledger) (settings : LedgerSettings) (call : LedgerCall) :
    ledger.added call + ledger.size =
      (ledger.perform settings call).value.size + ledger.dropped call := by
  cases call with
  | store suspicions =>
      change _ = (ledger.storeAll suspicions).1.size + 0
      rw [size_storeAll, Nat.add_comm]
      rfl
  | build => simp [added, dropped, value_perform_build_of_due, size]
  | decay round =>
      rw [value_perform_decay]
      split <;> simp [added, dropped, size]
  | collect low =>
      have hkept : (ledger.held.filter fun suspicion => low ≤ suspicion.round).size ≤
          ledger.held.size := Std.ExtTreeSet.size_filter_le_size
      simp only [value_perform_collect, added, dropped, size, collect, Logged.value_bind,
        Logged.value_pure]
      omega

def addedOver (ledger : Ledger) (settings : LedgerSettings) (calls : List LedgerCall) : Nat :=
  LedgerCall.total (fun ledger call => (ledger.perform settings call).value) added ledger calls

def droppedOver (ledger : Ledger) (settings : LedgerSettings) (calls : List LedgerCall) : Nat :=
  LedgerCall.total (fun ledger call => (ledger.perform settings call).value) dropped ledger calls

theorem size_run (ledger : Ledger) (settings : LedgerSettings) (calls : List LedgerCall) :
    ledger.addedOver settings calls + ledger.size =
      (ledger.run settings calls).value.size + ledger.droppedOver settings calls := by
  induction calls generalizing ledger with
  | nil => simp [addedOver, droppedOver, LedgerCall.total, run]
  | cons call calls ih =>
      have hstep := ledger.size_perform settings call
      have hrest := ih (ledger.perform settings call).value
      simp only [addedOver, droppedOver, LedgerCall.total, value_run_cons] at *
      omega

end Ledger

end SuspicionMonitor
