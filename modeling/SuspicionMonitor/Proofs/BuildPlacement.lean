import SuspicionMonitor.Proofs.HeldSuspicions
import SuspicionMonitor.Proofs.IgnoredSuspicions

/-!
# Where the graph is built

A ledger may build its graph between any two deliveries.  A suspicion that
arrives late can move the earliest phase of its round forward, after later
phases have been fed already.  These stay fed.  So a run with builds anywhere
feeds what one build at the end feeds, the suspicions of the earliest phases,
and beyond that only suspicions of later phases.
-/

namespace SuspicionMonitor
namespace Ledger

/-- The earliest phase that any of the suspicions reports about the round. -/
def earliestPhase? (suspicions : List Suspicion) (round : Round) : Option Phase :=
  ((suspicions.filter (·.round == round)).map (·.phase)).argmin Phase.rank

theorem mem_phases_iff {suspicions : List Suspicion} {round : Round} {phase : Phase} :
    phase ∈ (suspicions.filter (·.round == round)).map (·.phase) ↔
      ∃ suspicion ∈ suspicions, suspicion.round = round ∧ suspicion.phase = phase := by
  simp [and_assoc]

theorem exists_earliestPhase {suspicions : List Suspicion} {suspicion : Suspicion}
    (hmem : suspicion ∈ suspicions) :
    ∃ phase, earliestPhase? suspicions suspicion.round = some phase ∧
      phase.rank ≤ suspicion.phase.rank := by
  have hphase := mem_phases_iff.mpr ⟨suspicion, hmem, rfl, rfl⟩
  cases hearliest : earliestPhase? suspicions suspicion.round with
  | none =>
      rw [List.argmin_eq_none.mp hearliest] at hphase
      contradiction
  | some phase => exact ⟨phase, rfl, List.le_of_mem_argmin hphase hearliest⟩

theorem leads_iff_earliestPhase {suspicions : List Suspicion} {suspicion : Suspicion}
    (hmem : suspicion ∈ suspicions) :
    leads suspicions suspicion = true ↔
      earliestPhase? suspicions suspicion.round = some suspicion.phase := by
  obtain ⟨phase, hearliest, hrank⟩ := exists_earliestPhase hmem
  rw [hearliest, Option.some.injEq, leads_iff]
  constructor
  · intro hleads
    obtain ⟨other, hother, hround, rfl⟩ := mem_phases_iff.mp (List.argmin_mem hearliest)
    have hbehind : ¬ other.phase.rank < suspicion.phase.rank := by
      intro hlt
      have hahead := Suspicion.isAheadOf_iff.mpr ⟨hround, hlt⟩
      rw [hleads other hother] at hahead
      contradiction
    exact Phase.rank_injective (Nat.le_antisymm hrank (Nat.not_lt.mp hbehind))
  · rintro rfl other hother
    rw [Bool.eq_false_iff, Ne, Suspicion.isAheadOf_iff]
    rintro ⟨hround, hlt⟩
    have hphase := mem_phases_iff.mpr ⟨other, hother, hround, rfl⟩
    exact absurd hlt (List.le_of_mem_argmin hphase hearliest).not_gt

/-! ## Runs without collection -/

end Ledger

namespace LedgerCall

def isCollect : LedgerCall → Bool
  | .collect _ => true
  | _ => false

end LedgerCall

namespace Ledger

variable {ledger : Ledger} {settings : LedgerSettings} {call : LedgerCall}
  {calls : List LedgerCall} {suspicion : Suspicion}

theorem lowWater_perform (ledger : Ledger) (settings : LedgerSettings)
    (hkept : call.isCollect = false) :
    (ledger.perform settings call).value.lowWater = ledger.lowWater := by
  cases call with
  | store suspicions =>
      rw [value_perform_store, foldl_store_eq]
  | build =>
      rw [value_perform_build_of_due]
  | decay round =>
      rw [value_perform_decay]
      split <;> rfl
  | collect low => contradiction

theorem mem_held_perform (settings : LedgerSettings) (hkept : call.isCollect = false)
    (hlow : ledger.lowWater = none) :
    suspicion ∈ (ledger.perform settings call).value.held ↔
      suspicion ∈ ledger.held ∨ suspicion ∈ call.delivered := by
  have hmark : ∀ low, call ≠ .collect low := by
    rintro low rfl
    contradiction
  simp [mem_held_perform_iff, admits, hlow, hmark]

theorem mem_fed_perform (hkept : call.isCollect = false) :
    suspicion ∈ (ledger.perform settings call).value.fed ↔
      suspicion ∈ ledger.fed ∨ suspicion ∈ (if call.isBuild then ledger.due else []) := by
  cases call with
  | store suspicions =>
      rw [value_perform_store, foldl_store_eq]
      simp [LedgerCall.isBuild]
  | build =>
      rw [value_perform_build_of_due, OrderedSet.mem_insertMany]
      simp [LedgerCall.isBuild]
  | decay round =>
      rw [value_perform_decay]
      split <;> simp [LedgerCall.isBuild]
  | collect low => contradiction

theorem mem_held_run (hkept : ∀ call ∈ calls, call.isCollect = false)
    (hlow : ledger.lowWater = none) :
    suspicion ∈ (ledger.run settings calls).value.held ↔
      suspicion ∈ ledger.held ∨ suspicion ∈ calls.flatMap LedgerCall.delivered := by
  have hmarks : ∀ low, LedgerCall.collect low ∉ calls := by
    intro low hmem
    have hcollect := hkept _ hmem
    contradiction
  simp [mem_held_run_iff, admits, hlow, hmarks]

theorem mem_fed_run (hkept : ∀ call ∈ calls, call.isCollect = false) :
    suspicion ∈ (ledger.run settings calls).value.fed ↔
      suspicion ∈ ledger.fed ∨ suspicion ∈ ledger.fedOver settings calls := by
  induction calls generalizing ledger with
  | nil => simp [run, fedOver, graphCallsOver]
  | cons call calls ih =>
      obtain ⟨hfirst, hrest⟩ := List.forall_mem_cons.mp hkept
      rw [value_run_cons, ih hrest, mem_fed_perform hfirst, fedOver_cons, List.mem_append,
        or_assoc]

theorem fedOver_append (ledger : Ledger) (settings : LedgerSettings)
    (first second : List LedgerCall) :
    ledger.fedOver settings (first ++ second) =
      ledger.fedOver settings first ++
        (ledger.run settings first).value.fedOver settings second := by
  induction first generalizing ledger with
  | nil => rfl
  | cons call first ih =>
      rw [List.cons_append, fedOver_cons, fedOver_cons, ih, List.append_assoc, value_run_cons]

theorem mem_of_mem_fedOver (hkept : ∀ call ∈ calls, call.isCollect = false)
    (hlow : ledger.lowWater = none) (hfed : suspicion ∈ ledger.fedOver settings calls) :
    suspicion ∈ ledger.held ∨ suspicion ∈ calls.flatMap LedgerCall.delivered := by
  induction calls generalizing ledger with
  | nil => contradiction
  | cons call calls ih =>
      obtain ⟨hfirst, hrest⟩ := List.forall_mem_cons.mp hkept
      rw [fedOver_cons, List.mem_append] at hfed
      rcases hfed with hnow | hlater
      · split at hnow
        · exact Or.inl (mem_held_of_mem_due hnow)
        · contradiction
      · have hnext := (ledger.lowWater_perform settings hfirst).trans hlow
        rw [List.flatMap_cons, List.mem_append, ← or_assoc,
          ← mem_held_perform settings hfirst hlow]
        exact ih hrest hnext hlater

theorem fedOver_eq_nil (hnone : ∀ call ∈ calls, call.isBuild = false) :
    ledger.fedOver settings calls = [] := by
  induction calls generalizing ledger with
  | nil => rfl
  | cons call calls ih =>
      obtain ⟨hfirst, hrest⟩ := List.forall_mem_cons.mp hnone
      rw [fedOver_cons, hfirst, ih hrest]
      rfl

/-- A build at the end feeds what is left of the earliest phases. -/
theorem mem_fedOver_build_iff (view : View) (settings : LedgerSettings)
    (hkept : ∀ call ∈ calls, call.isCollect = false) (suspicion : Suspicion) :
    let delivered := calls.flatMap LedgerCall.delivered
    suspicion ∈ (empty view).fedOver settings (calls ++ [.build]) ↔
      suspicion ∈ (empty view).fedOver settings calls ∨
        suspicion ∈ delivered ∧
          earliestPhase? delivered suspicion.round = some suspicion.phase := by
  intro delivered
  set last := ((empty view).run settings calls).value with hlast
  have hheld : ∀ other, other ∈ last.suspicions ↔ other ∈ delivered := by
    intro other
    rw [mem_suspicions, hlast, mem_held_run hkept rfl]
    simp [empty, delivered]
  have hfed : suspicion ∈ last.fed ↔ suspicion ∈ (empty view).fedOver settings calls := by
    rw [hlast, mem_fed_run hkept]
    simp [empty]
  have hleads : leads last.suspicions suspicion = leads delivered suspicion :=
    leads_congr fun other _ => hheld other
  have hbuild : last.fedOver settings [.build] = last.due := by
    rw [fedOver_cons]
    exact List.append_nil _
  rw [fedOver_append, List.mem_append, ← hlast, hbuild, mem_due_iff, hheld, hfed, hleads]
  have hearliest : suspicion ∈ delivered → _ := leads_iff_earliestPhase
  tauto

theorem delivered_filter (calls : List LedgerCall) :
    (calls.filter (!·.isBuild)).flatMap LedgerCall.delivered =
      calls.flatMap LedgerCall.delivered := by
  induction calls with
  | nil => rfl
  | cons call calls ih =>
      cases call with
      | build => exact ih
      | _ =>
          rw [List.filter_cons_of_pos rfl, List.flatMap_cons, List.flatMap_cons, ih]

/-- Deliveries with builds among them, the last one at the end, compared with
the same deliveries and one build at the end.  The single build feeds exactly
the earliest phase of each round.  The other run feeds all of that as well, and
what else it feeds is in a later phase of its round. -/
theorem builds_feed_earliest_phases_and_later_ones (view : View) (settings : LedgerSettings)
    {calls : List LedgerCall} (hkept : ∀ call ∈ calls, call.isCollect = false) :
    let delivered := calls.flatMap LedgerCall.delivered
    let fed := (empty view).fedOver settings (calls ++ [.build])
    let once := (empty view).fedOver settings (calls.filter (!·.isBuild) ++ [.build])
    (∀ suspicion, suspicion ∈ once ↔ suspicion ∈ delivered ∧
      earliestPhase? delivered suspicion.round = some suspicion.phase) ∧
    once ⊆ fed ∧
    ∀ suspicion ∈ fed, suspicion ∉ once → suspicion ∈ delivered ∧
      ∃ phase, earliestPhase? delivered suspicion.round = some phase ∧
        phase.rank < suspicion.phase.rank := by
  intro delivered fed once
  have honce : ∀ suspicion, suspicion ∈ once ↔ suspicion ∈ delivered ∧
      earliestPhase? delivered suspicion.round = some suspicion.phase := by
    intro suspicion
    have hunbuilt : ∀ call ∈ calls.filter (!·.isBuild), call.isBuild = false := by
      intro call hcall
      simpa using (List.mem_filter.mp hcall).2
    have hdeliveries : ∀ call ∈ calls.filter (!·.isBuild), call.isCollect = false :=
      fun call hcall => hkept call (List.mem_of_mem_filter hcall)
    have hsingle := mem_fedOver_build_iff view settings hdeliveries suspicion
    rw [fedOver_eq_nil hunbuilt, delivered_filter] at hsingle
    exact hsingle.trans (or_iff_right List.not_mem_nil)
  refine ⟨honce, ?_, ?_⟩
  · intro suspicion hmem
    have hearliest := (honce suspicion).mp hmem
    exact (mem_fedOver_build_iff view settings hkept suspicion).mpr (Or.inr hearliest)
  · intro suspicion hmem hfresh
    have hdelivered : suspicion ∈ delivered := by
      rcases (mem_fedOver_build_iff view settings hkept suspicion).mp hmem with hbefore | hlast
      · refine (mem_of_mem_fedOver hkept rfl hbefore).resolve_left ?_
        exact Std.ExtTreeSet.not_mem_empty
      · exact hlast.1
    obtain ⟨phase, hearliest, hrank⟩ := exists_earliestPhase hdelivered
    refine ⟨hdelivered, phase, hearliest, lt_of_le_of_ne hrank ?_⟩
    intro hsame
    rw [Phase.rank_injective hsame] at hearliest
    exact hfresh ((honce suspicion).mpr ⟨hdelivered, hearliest⟩)

/-- A write suspicion is fed before a suspicion of the proposal of its round
arrives. -/
theorem write_suspicion_fed_before_proposal :
    let write : Suspicion := ⟨1, .write, .slow, 2, 0⟩
    let calls : List LedgerCall :=
      [.store [write], .build, .decay 150,
        .store [⟨1, .propose, .slow, 3, 1⟩, ⟨2, .accept, .slow, 1, 2⟩]]
    let once := (empty ⟨4, 1, by decide⟩).fedOver .standard (calls.filter (!·.isBuild) ++ [.build])
    (∀ call ∈ calls, call.isCollect = false) ∧
      once = [⟨1, .propose, .slow, 3, 1⟩, ⟨2, .accept, .slow, 1, 2⟩] ∧
      once ⊆ (empty ⟨4, 1, by decide⟩).fedOver .standard (calls ++ [.build]) ∧
      ∃ phase, earliestPhase? (calls.flatMap LedgerCall.delivered) 1 = some phase ∧
        phase.rank < Phase.write.rank := by
  intro write calls once
  have hkept : ∀ call ∈ calls, call.isCollect = false := by decide
  have honce : once = [⟨1, .propose, .slow, 3, 1⟩, ⟨2, .accept, .slow, 1, 2⟩] := by
    decide +kernel
  obtain ⟨-, hsubset, hlater⟩ :=
    builds_feed_earliest_phases_and_later_ones ⟨4, 1, by decide⟩ .standard hkept
  have hwrite : write ∉ once := by
    rw [honce]
    decide
  obtain ⟨-, hearlier⟩ := hlater write (by decide +kernel) hwrite
  exact ⟨hkept, honce, hsubset, hearlier⟩

end Ledger
end SuspicionMonitor
