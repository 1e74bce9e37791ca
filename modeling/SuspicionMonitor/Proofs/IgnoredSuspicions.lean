import SuspicionMonitor.Proofs.LeadingPhases

/-!
# Suspicions that the graph ignores

The graph ignores suspicions of oneself and of or by replicas outside the
view.  A ledger stores them like any others, and they count when it looks for
the earliest phase of a round.  So one of them, in an earlier phase than all
others of its round, holds these back.

Two runs are compared, one of them without the ignored suspicions.  As long as
no build finds anything held back by ignored suspicions alone, the ledger of
the second run is that of the first one with the ignored suspicions taken out.
-/

namespace SuspicionMonitor

/-- Whether the graph of the view takes the suspicion into account. -/
def Suspicion.isHeeded (view : View) (suspicion : Suspicion) : Bool :=
  !suspicion.isSelfSuspicion && view.contains suspicion.reporter &&
    view.contains suspicion.suspect

namespace LedgerCall

/-- The call without the suspicions that the graph ignores. -/
def heeded (view : View) : LedgerCall → LedgerCall
  | .store suspicions => .store (suspicions.filter (·.isHeeded view))
  | .build => .build
  | .decay round => .decay round
  | .collect low => .collect low

def isBuild : LedgerCall → Bool
  | .build => true
  | _ => false

end LedgerCall

namespace SuspicionGraph

theorem accepts_eq_isHeeded (graph : SuspicionGraph) (suspicion : Suspicion) :
    graph.accepts suspicion.reporter suspicion.suspect = suspicion.isHeeded graph.view := by
  rw [accepts, Suspicion.isHeeded, Suspicion.isSelfSuspicion, bne_comm]
  rfl

theorem strengthenAll_filter_isHeeded {graph : SuspicionGraph} {view : View}
    (hview : graph.view = view) (suspicions : List Suspicion) :
    graph.strengthenAll (suspicions.filter (·.isHeeded view)) =
      graph.strengthenAll suspicions := by
  induction suspicions generalizing graph with
  | nil => rfl
  | cons suspicion rest ih =>
      have haccepts := graph.accepts_eq_isHeeded suspicion
      rw [hview] at haccepts
      cases hheeded : suspicion.isHeeded view with
      | true =>
          have hnext : (graph.strengthen suspicion.reporter suspicion.suspect).view = view :=
            (graph.view_strengthen _ _).trans hview
          rw [List.filter_cons_of_pos hheeded]
          exact ih hnext
      | false =>
          have hsame : graph.strengthen suspicion.reporter suspicion.suspect = graph := by
            rw [strengthen, haccepts, hheeded]
            rfl
          rw [List.filter_cons_of_neg (by simp [hheeded]), ih hview]
          exact congrArg (strengthenAll · rest) hsame.symm

end SuspicionGraph

namespace Ledger

def heeded (view : View) (ledger : Ledger) : Ledger :=
  { ledger with
    held := ledger.held.filter (·.isHeeded view)
    fed := ledger.fed.filter (·.isHeeded view) }

/-- Ignored suspicions hold nothing back: what leads the heeded suspicions of
its round and has not been fed leads all suspicions of its round. -/
def IsUnobstructed (view : View) (ledger : Ledger) : Prop :=
  ∀ suspicion ∈ ledger.suspicions, suspicion.isHeeded view = true → suspicion ∉ ledger.fed →
    leads (ledger.suspicions.filter (·.isHeeded view)) suspicion = true →
      leads ledger.suspicions suspicion = true

instance (view : View) (ledger : Ledger) : Decidable (ledger.IsUnobstructed view) :=
  inferInstanceAs (Decidable (∀ suspicion ∈ ledger.suspicions, _))

theorem heeded_empty (view : View) : (empty view).heeded view = empty view := by
  have hnone : (∅ : Std.ExtTreeSet Suspicion).filter (·.isHeeded view) = ∅ := by
    apply Std.ExtTreeSet.ext_mem
    intro suspicion
    simp
  simp only [heeded, empty, hnone]

theorem suspicions_heeded (view : View) (ledger : Ledger) :
    (ledger.heeded view).suspicions = ledger.suspicions.filter (·.isHeeded view) :=
  Std.ExtTreeSet.toList_filter

theorem mem_held_heeded {view : View} {ledger : Ledger} {suspicion : Suspicion} :
    suspicion ∈ (ledger.heeded view).held ↔
      suspicion ∈ ledger.held ∧ suspicion.isHeeded view = true :=
  OrderedSet.mem_filter

theorem mem_fed_heeded {view : View} {ledger : Ledger} {suspicion : Suspicion} :
    suspicion ∈ (ledger.heeded view).fed ↔
      suspicion ∈ ledger.fed ∧ suspicion.isHeeded view = true :=
  OrderedSet.mem_filter

theorem heeded_perform_store (view : View) (ledger : Ledger) (settings : LedgerSettings)
    (suspicions : List Suspicion) :
    ((ledger.heeded view).perform settings ((LedgerCall.store suspicions).heeded view)).value =
      (ledger.perform settings (.store suspicions)).value.heeded view := by
  have hheld : ((suspicions.filter (·.isHeeded view)).foldl store (ledger.heeded view)).held =
      ((suspicions.foldl store ledger).heeded view).held := by
    apply Std.ExtTreeSet.ext_mem
    intro suspicion
    have hadmits : (ledger.heeded view).admits suspicion = ledger.admits suspicion := rfl
    rw [mem_held_foldl_store, mem_held_heeded, mem_held_heeded, mem_held_foldl_store, hadmits,
      List.mem_filter]
    tauto
  rw [LedgerCall.heeded, value_perform_store, value_perform_store, foldl_store_eq, hheld,
    foldl_store_eq ledger]
  rfl

theorem due_heeded_iff {view : View} {ledger : Ledger} :
    (ledger.heeded view).due = ledger.due.filter (·.isHeeded view) ↔
      ledger.IsUnobstructed view := by
  constructor
  · intro hsame suspicion hheld hheeded hfresh hleads
    have hdue : suspicion ∈ (ledger.heeded view).due := by
      rw [mem_due_iff, suspicions_heeded]
      exact ⟨List.mem_filter.mpr ⟨hheld, hheeded⟩, hleads,
        fun hfed => hfresh (mem_fed_heeded.mp hfed).1⟩
    rw [hsame, List.mem_filter, mem_due_iff] at hdue
    exact hdue.1.2.1
  · intro hclear
    rw [due_eq_filter, due_eq_filter, suspicions_heeded, List.filter_filter, List.filter_filter]
    apply List.filter_congr
    intro suspicion hheld
    cases hheeded : suspicion.isHeeded view with
    | false => simp
    | true =>
        have hfed : suspicion ∈ (ledger.heeded view).fed ↔ _ := mem_fed_heeded
        have hforth := hclear suspicion hheld hheeded
        have hback : leads ledger.suspicions suspicion = true →
            leads (ledger.suspicions.filter (·.isHeeded view)) suspicion = true :=
          leads_of_subset (List.filter_subset_self _)
        rw [Bool.and_true, Bool.true_and, Bool.eq_iff_iff]
        simp only [Bool.and_eq_true, Bool.not_eq_true', ← Bool.not_eq_true,
          ← Std.ExtTreeSet.mem_iff_contains, hfed, hheeded, and_true]
        tauto

theorem heeded_perform_build {view : View} {ledger : Ledger} (hview : ledger.graph.view = view)
    (hclear : ledger.IsUnobstructed view) (settings : LedgerSettings) :
    ((ledger.heeded view).perform settings .build).value =
      (ledger.perform settings .build).value.heeded view := by
  have hdue := due_heeded_iff.mpr hclear
  have hgraph := SuspicionGraph.strengthenAll_filter_isHeeded hview ledger.due
  have hfed : ((ledger.heeded view).fed.insertMany (ledger.due.filter (·.isHeeded view))) =
      (ledger.fed.insertMany ledger.due).filter (·.isHeeded view) := by
    apply Std.ExtTreeSet.ext_mem
    intro suspicion
    simp only [heeded, OrderedSet.mem_insertMany, OrderedSet.mem_filter, List.mem_filter]
    tauto
  rw [value_perform_build_of_due, value_perform_build_of_due, hdue, hfed]
  simp only [heeded, hgraph]

theorem heeded_perform_decay (view : View) (ledger : Ledger) (settings : LedgerSettings)
    (round : Round) :
    ((ledger.heeded view).perform settings (.decay round)).value =
      (ledger.perform settings (.decay round)).value.heeded view := by
  rw [value_perform_decay, value_perform_decay]
  have hlast : (ledger.heeded view).lastDecay = ledger.lastDecay := rfl
  rw [hlast]
  split <;> rfl

theorem heeded_perform_collect (view : View) (ledger : Ledger) (settings : LedgerSettings)
    (low : Round) :
    ((ledger.heeded view).perform settings (.collect low)).value =
      (ledger.perform settings (.collect low)).value.heeded view := by
  have hcomm : ∀ set : Std.ExtTreeSet Suspicion,
      (set.filter (·.isHeeded view)).filter (fun suspicion => low ≤ suspicion.round) =
        (set.filter fun suspicion => low ≤ suspicion.round).filter (·.isHeeded view) := by
    intro set
    apply Std.ExtTreeSet.ext_mem
    intro suspicion
    simp only [OrderedSet.mem_filter]
    tauto
  have hheld := hcomm ledger.held
  have hfed := hcomm ledger.fed
  simp only [perform, collect, heeded, Logged.value_bind, Logged.value_pure, hheld, hfed]

theorem heeded_perform {view : View} {ledger : Ledger} (hview : ledger.graph.view = view)
    {call : LedgerCall} (hclear : call.isBuild = true → ledger.IsUnobstructed view)
    (settings : LedgerSettings) :
    ((ledger.heeded view).perform settings (call.heeded view)).value =
      (ledger.perform settings call).value.heeded view := by
  cases call with
  | store suspicions => exact heeded_perform_store view ledger settings suspicions
  | build => exact heeded_perform_build hview (hclear rfl) settings
  | decay round => exact heeded_perform_decay view ledger settings round
  | collect low => exact heeded_perform_collect view ledger settings low

theorem view_perform (ledger : Ledger) (settings : LedgerSettings) (call : LedgerCall) :
    (ledger.perform settings call).value.graph.view = ledger.graph.view := by
  cases call with
  | store suspicions =>
      rw [value_perform_store, foldl_store_eq]
  | build =>
      rw [value_perform_build_of_due]
      exact ledger.graph.view_strengthenAll ledger.due
  | decay round =>
      rw [value_perform_decay]
      split
      · rfl
      · exact ledger.graph.view_weaken _
  | collect low => rfl

/-! ## Runs -/

/-- No build of the run finds its ledger obstructed. -/
def StaysUnobstructed (view : View) (settings : LedgerSettings) :
    Ledger → List LedgerCall → Prop
  | _, [] => True
  | ledger, call :: calls =>
      (call.isBuild = true → ledger.IsUnobstructed view) ∧
        StaysUnobstructed view settings (ledger.perform settings call).value calls

instance decidableStaysUnobstructed (view : View) (settings : LedgerSettings) :
    (ledger : Ledger) → (calls : List LedgerCall) →
      Decidable (ledger.StaysUnobstructed view settings calls)
  | _, [] => .isTrue trivial
  | ledger, call :: calls =>
      have := decidableStaysUnobstructed view settings (ledger.perform settings call).value calls
      inferInstanceAs (Decidable (_ ∧ _))

theorem StaysUnobstructed.heeded_run {view : View} {settings : LedgerSettings} {ledger : Ledger}
    (hview : ledger.graph.view = view) {calls : List LedgerCall}
    (hclear : ledger.StaysUnobstructed view settings calls) :
    ((ledger.heeded view).run settings (calls.map (·.heeded view))).value =
      (ledger.run settings calls).value.heeded view := by
  induction calls generalizing ledger with
  | nil => rfl
  | cons call calls ih =>
      have hnext := (ledger.view_perform settings call).trans hview
      rw [List.map_cons, value_run_cons, value_run_cons, heeded_perform hview hclear.1,
        ih hnext hclear.2]

/-- What the graph is fed with in a run. -/
def fedOver (ledger : Ledger) (settings : LedgerSettings) (calls : List LedgerCall) :
    List Suspicion :=
  (ledger.graphCallsOver settings calls).flatMap GraphCall.suspicions

theorem fedOver_cons (ledger : Ledger) (settings : LedgerSettings) (call : LedgerCall)
    (calls : List LedgerCall) :
    ledger.fedOver settings (call :: calls) =
      (if call.isBuild then ledger.due else []) ++
        (ledger.perform settings call).value.fedOver settings calls := by
  rw [fedOver, graphCallsOver, List.flatMap_append]
  congr 1
  cases call with
  | store suspicions => rfl
  | build =>
      rw [graphCalls]
      cases hdue : ledger.due with
      | nil => rfl
      | cons first rest => simp [GraphCall.suspicions, LedgerCall.isBuild]
  | decay round =>
      rw [graphCalls]
      split <;> rfl
  | collect low => rfl

theorem fed_heeded_iff {view : View} {ledger : Ledger} (call : LedgerCall) :
    ((if (call.heeded view).isBuild then (ledger.heeded view).due else []) =
      (if call.isBuild then ledger.due else []).filter (·.isHeeded view)) ↔
        (call.isBuild = true → ledger.IsUnobstructed view) := by
  cases call with
  | build => simpa [LedgerCall.heeded, LedgerCall.isBuild] using due_heeded_iff
  | _ => simp [LedgerCall.heeded, LedgerCall.isBuild]

theorem staysUnobstructed_iff {view : View} {settings : LedgerSettings} {ledger : Ledger}
    (hview : ledger.graph.view = view) {calls : List LedgerCall} :
    ledger.StaysUnobstructed view settings calls ↔ ∀ before, before <+: calls →
      (ledger.heeded view).fedOver settings (before.map (·.heeded view)) =
        (ledger.fedOver settings before).filter (·.isHeeded view) := by
  induction calls generalizing ledger with
  | nil => simp [StaysUnobstructed, fedOver, graphCallsOver]
  | cons call calls ih =>
      have hnext := (ledger.view_perform settings call).trans hview
      constructor
      · rintro ⟨hclear, hrest⟩ before hbefore
        cases before with
        | nil => rfl
        | cons first before =>
            obtain ⟨rfl, hlater⟩ := List.cons_prefix_cons.mp hbefore
            rw [List.map_cons, fedOver_cons, fedOver_cons, List.filter_append,
              (fed_heeded_iff first).mpr hclear, heeded_perform hview hclear,
              (ih hnext).mp hrest before hlater]
      · intro hsame
        have hclear : call.isBuild = true → ledger.IsUnobstructed view := by
          have hfirst := hsame [call] (by simp)
          rw [List.map_cons, fedOver_cons, fedOver_cons] at hfirst
          apply (fed_heeded_iff call).mp
          simpa [fedOver, graphCallsOver] using hfirst
        -- Up to here the ledgers differ by ignored suspicions only.
        refine ⟨hclear, (ih hnext).mpr ?_⟩
        intro before hbefore
        have hlater := hsame (call :: before) (List.cons_prefix_cons.mpr ⟨rfl, hbefore⟩)
        rw [List.map_cons, fedOver_cons, fedOver_cons, List.filter_append,
          (fed_heeded_iff call).mpr hclear, heeded_perform hview hclear] at hlater
        exact List.append_cancel_left hlater

theorem StaysUnobstructed.of_prefix {view : View} {settings : LedgerSettings} {ledger : Ledger}
    (hview : ledger.graph.view = view) {calls before : List LedgerCall}
    (hclear : ledger.StaysUnobstructed view settings calls) (hbefore : before <+: calls) :
    ledger.StaysUnobstructed view settings before := by
  rw [staysUnobstructed_iff hview] at *
  exact fun earlier hearlier => hclear earlier (hearlier.trans hbefore)

/-- Deleting the suspicions that the graph ignores from all that is stored
leaves what else the graph is fed with unchanged exactly if no build of the
run finds something held back by them.  Then the graph, and with it the
candidates, are the same at every point of the run. -/
theorem ignored_suspicions_have_no_effect (view : View) (settings : LedgerSettings)
    (calls : List LedgerCall) :
    let start := empty view
    (start.StaysUnobstructed view settings calls ↔ ∀ before, before <+: calls →
      start.fedOver settings (before.map (·.heeded view)) =
        (start.fedOver settings before).filter (·.isHeeded view)) ∧
    (start.StaysUnobstructed view settings calls → ∀ before, before <+: calls →
      let graph := (start.run settings before).value.graph
      let thinned := (start.run settings (before.map (·.heeded view))).value.graph
      thinned = graph ∧ ∀ graphSettings, (thinned.candidateSet? graphSettings).value =
        (graph.candidateSet? graphSettings).value) := by
  intro start
  have hview : start.graph.view = view := rfl
  have hstart : start.heeded view = start := heeded_empty view
  constructor
  · rw [staysUnobstructed_iff hview, hstart]
  · intro hclear before hbefore graph thinned
    have hrun := (hclear.of_prefix hview hbefore).heeded_run hview
    rw [hstart] at hrun
    have hgraph : thinned = graph := by
      have hfields := congrArg Ledger.graph hrun
      exact hfields
    refine ⟨hgraph, ?_⟩
    intro graphSettings
    rw [hgraph]

/-- A suspicion of oneself and one of a stranger, beside accusations in the
same phase or in later ones. -/
theorem accusations_beside_ignored_ones :
    let view : View := ⟨4, 1, by decide⟩
    let calls : List LedgerCall :=
      [.store [⟨1, .propose, .slow, 3, 3⟩, ⟨1, .propose, .slow, 2, 1⟩], .build,
        .store [⟨1, .write, .slow, 9, 0⟩, ⟨2, .write, .slow, 1, 2⟩], .decay 100, .collect 2, .build]
    (empty view).StaysUnobstructed view .standard calls ∧
      ((empty view).run .standard (calls.map (·.heeded view))).value.graph =
        ((empty view).run .standard calls).value.graph := by
  intro view calls
  have hclear : (empty view).StaysUnobstructed view .standard calls := by decide +kernel
  obtain ⟨-, hsame⟩ := ignored_suspicions_have_no_effect view .standard calls
  exact ⟨hclear, (hsame hclear calls (List.prefix_refl calls)).1⟩

/-- Two replicas accuse each other of slow writing.  They are candidates all
the same if a third one has accused itself of slow proposing. -/
theorem self_suspicion_holds_accusations_back :
    let view : View := ⟨4, 1, by decide⟩
    let calls : List LedgerCall :=
      [.store [⟨1, .propose, .slow, 3, 3⟩, ⟨1, .write, .slow, 2, 1⟩, ⟨1, .write, .slow, 1, 2⟩],
        .build]
    let graph := ((empty view).run .standard calls).value.graph
    let thinned := ((empty view).run .standard (calls.map (·.heeded view))).value.graph
    graph.suspects 1 2 = false ∧ thinned.suspects 1 2 = true ∧
      (graph.candidateSet? .standard).value = some [0, 1, 2, 3] ∧
      (thinned.candidateSet? .standard).value = some [0, 3] := by
  decide +kernel

end Ledger

end SuspicionMonitor
