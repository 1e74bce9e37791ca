import SuspicionMonitor.Ledger
import SuspicionMonitor.Proofs.GraphRuns
import SuspicionMonitor.Proofs.OrderedSets

/-!
# Runs of a ledger

Between two changes of view a ledger is used through four calls, in any order
and with any arguments.  Collecting a round makes the ledger forget which of
its suspicions the graph has been fed with.  They are not fed again all the
same, since the low-water mark refuses the round from then on.  The invariant
is that every suspicion fed so far is remembered or refused, and that the
ledger holds no suspicion which it refuses.
-/

namespace SuspicionMonitor

inductive LedgerCall where
  | store (suspicions : List Suspicion)
  | build
  | decay (round : Round)
  | collect (low : Round)

namespace Ledger

def perform (ledger : Ledger) (settings : LedgerSettings) : LedgerCall → Logged Ledger
  | .store suspicions => return (ledger.storeAll suspicions).1
  | .build => do
      let (next, _) ← ledger.build
      return next
  | .decay round => do
      let (next, _) ← ledger.decay settings round
      return next
  | .collect low => do
      let (next, _) ← ledger.collect low
      return next

def run (ledger : Ledger) (settings : LedgerSettings) (calls : List LedgerCall) :
    Logged Ledger :=
  calls.foldlM (fun ledger call => ledger.perform settings call) ledger

@[simp] theorem value_run_cons (ledger : Ledger) (settings : LedgerSettings)
    (call : LedgerCall) (calls : List LedgerCall) :
    (ledger.run settings (call :: calls)).value =
      ((ledger.perform settings call).value.run settings calls).value := rfl

theorem value_run_append (ledger : Ledger) (settings : LedgerSettings)
    (before later : List LedgerCall) :
    (ledger.run settings (before ++ later)).value =
      ((ledger.run settings before).value.run settings later).value := by
  induction before generalizing ledger with
  | nil => rfl
  | cons call before ih => rw [List.cons_append, value_run_cons, ih, value_run_cons]

theorem value_reset (ledger : Ledger) (view : View) :
    (ledger.reset view).value = empty view := rfl

theorem fst_storeAll (ledger : Ledger) (suspicions : List Suspicion) :
    (ledger.storeAll suspicions).1 = suspicions.foldl store ledger := by
  have hfold : ∀ (suspicions : List Suspicion) (ledger : Ledger) (stored : Nat),
      (suspicions.foldl (fun (ledger, stored) suspicion =>
        (ledger.store suspicion, stored + if ledger.isNew suspicion then 1 else 0))
        (ledger, stored)).1 = suspicions.foldl store ledger := by
    intro suspicions
    induction suspicions with
    | nil => intros; rfl
    | cons suspicion rest ih => exact fun ledger _ => ih (ledger.store suspicion) _
  exact hfold suspicions ledger 0

theorem value_perform_store (ledger : Ledger) (settings : LedgerSettings)
    (suspicions : List Suspicion) :
    (ledger.perform settings (.store suspicions)).value = suspicions.foldl store ledger :=
  ledger.fst_storeAll suspicions

theorem value_perform_build (ledger : Ledger) (settings : LedgerSettings) :
    (ledger.perform settings .build).value =
      if ledger.due.isEmpty then ledger
      else { ledger with
        graph := ledger.graph.strengthenAll ledger.due
        fed := ledger.fed.insertMany ledger.due } := by
  simp only [perform, build, Logged.value_bind]
  split <;> rfl

theorem value_perform_build_of_due (ledger : Ledger) (settings : LedgerSettings) :
    (ledger.perform settings .build).value =
      { ledger with
        graph := ledger.graph.strengthenAll ledger.due
        fed := ledger.fed.insertMany ledger.due } := by
  rw [value_perform_build]
  cases hdue : ledger.due with
  | nil => simp [SuspicionGraph.strengthenAll]
  | cons first rest => rfl

theorem value_perform_decay (ledger : Ledger) (settings : LedgerSettings) (round : Round) :
    (ledger.perform settings (.decay round)).value =
      if round.since ledger.lastDecay < settings.decayInterval.toNat then ledger
      else { ledger with
        graph := ledger.graph.weaken
          (settings.decayRate * Float.ofNat (round.since ledger.lastDecay))
        lastDecay := round
        decaySteps := ledger.decaySteps + 1 } := by
  simp only [perform, decay, Logged.value_bind]
  split
  · rfl
  · simp only [Logged.value_bind, Logged.value_pure]
    rw [← SuspicionGraph.value_perform_remove]
    rfl

theorem store_eq (ledger : Ledger) (suspicion : Suspicion) :
    ledger.store suspicion = { ledger with held := (ledger.store suspicion).held } := by
  unfold store
  split <;> rfl

theorem foldl_store_eq (ledger : Ledger) (suspicions : List Suspicion) :
    suspicions.foldl store ledger =
      { ledger with held := (suspicions.foldl store ledger).held } := by
  induction suspicions generalizing ledger with
  | nil => rfl
  | cons suspicion rest ih =>
      rw [List.foldl_cons, ledger.store_eq suspicion]
      exact ih _

theorem mem_held_store {ledger : Ledger} {suspicion other : Suspicion} :
    other ∈ (ledger.store suspicion).held ↔
      other ∈ ledger.held ∨ other = suspicion ∧ ledger.admits suspicion = true := by
  unfold store isNew
  by_cases hadmits : ledger.admits suspicion = true
  · by_cases hheld : ledger.held.contains suspicion = true
    · simp only [hadmits, hheld, Bool.not_true, Bool.and_false, Bool.false_eq_true, if_false,
        and_true]
      constructor
      · exact Or.inl
      · rintro (hold | rfl)
        · exact hold
        · exact Std.ExtTreeSet.mem_iff_contains.mpr hheld
    · simp only [hadmits, hheld, Bool.not_false, Bool.and_true, if_true, and_true,
        Std.ExtTreeSet.mem_insert, Std.LawfulEqOrd.compare_eq_iff_eq]
      tauto
  · simp [hadmits]

theorem admits_store (ledger : Ledger) (stored suspicion : Suspicion) :
    (ledger.store stored).admits suspicion = ledger.admits suspicion := by
  rw [store_eq]
  rfl

theorem admits_foldl_store (ledger : Ledger) (stored : List Suspicion)
    (suspicion : Suspicion) :
    (stored.foldl store ledger).admits suspicion = ledger.admits suspicion := by
  rw [foldl_store_eq]
  rfl

theorem max_le_round_iff {mark low round : Round} :
    max mark low ≤ round ↔ mark ≤ round ∧ low ≤ round := by
  change (if mark ≤ low then low else mark) ≤ round ↔ _
  split <;> simp only [Int32.le_iff_toInt_le] at * <;> omega

/-- Collection refuses what lies below the new mark, and goes on refusing
what it has refused before. -/
theorem admits_collect (ledger : Ledger) (low : Round) (suspicion : Suspicion) :
    (ledger.collect low).value.1.admits suspicion = true ↔
      ledger.admits suspicion = true ∧ low ≤ suspicion.round := by
  simp only [collect, admits, Logged.value_bind, Logged.value_pure]
  cases ledger.lowWater with
  | none => simp
  | some mark =>
      simp only [decide_eq_true_eq]
      exact max_le_round_iff

theorem mem_held_collect {ledger : Ledger} {low : Round} {suspicion : Suspicion} :
    suspicion ∈ (ledger.collect low).value.1.held ↔
      suspicion ∈ ledger.held ∧ low ≤ suspicion.round := by
  simp only [collect, Logged.value_bind, Logged.value_pure, OrderedSet.mem_filter,
    decide_eq_true_eq]

theorem mem_fed_collect {ledger : Ledger} {low : Round} {suspicion : Suspicion} :
    suspicion ∈ (ledger.collect low).value.1.fed ↔
      suspicion ∈ ledger.fed ∧ low ≤ suspicion.round := by
  simp only [collect, Logged.value_bind, Logged.value_pure, OrderedSet.mem_filter,
    decide_eq_true_eq]

theorem mem_held_foldl_store {ledger : Ledger} {suspicions : List Suspicion}
    {other : Suspicion} :
    other ∈ (suspicions.foldl store ledger).held ↔
      other ∈ ledger.held ∨ other ∈ suspicions ∧ ledger.admits other = true := by
  induction suspicions generalizing ledger with
  | nil => simp
  | cons suspicion rest ih =>
      rw [List.foldl_cons, ih, mem_held_store, admits_store, List.mem_cons]
      constructor
      · rintro ((hheld | ⟨rfl, hadmits⟩) | ⟨hrest, hadmits⟩)
        · exact Or.inl hheld
        · exact Or.inr ⟨Or.inl rfl, hadmits⟩
        · exact Or.inr ⟨Or.inr hrest, hadmits⟩
      · rintro (hheld | ⟨rfl | hrest, hadmits⟩)
        · exact Or.inl (Or.inl hheld)
        · exact Or.inl (Or.inr ⟨rfl, hadmits⟩)
        · exact Or.inr ⟨hrest, hadmits⟩

/-! ## What is due -/

theorem leadingAfter_sublist (lead : Option (Round × Phase)) (suspicions : List Suspicion) :
    (leadingAfter lead suspicions).Sublist suspicions := by
  induction suspicions generalizing lead with
  | nil =>
      cases lead with
      | none => exact List.Sublist.slnil
      | some stage => exact List.Sublist.slnil
  | cons suspicion rest ih =>
      cases lead with
      | none => exact (ih _).cons_cons suspicion
      | some stage =>
          obtain ⟨round, phase⟩ := stage
          unfold leadingAfter
          split
          · split
            · exact (ih _).cons_cons suspicion
            · exact (ih _).cons suspicion
          · exact (ih _).cons_cons suspicion

theorem nodup_due (ledger : Ledger) : ledger.due.Nodup := by
  have hleading : ledger.leading.Nodup :=
    (OrderedSet.nodup_toList ledger.held).sublist (leadingAfter_sublist none _)
  exact hleading.filter _

theorem mem_held_of_mem_due {ledger : Ledger} {suspicion : Suspicion}
    (hdue : suspicion ∈ ledger.due) : suspicion ∈ ledger.held := by
  have hleading : suspicion ∈ ledger.leading := (List.mem_filter.mp hdue).1
  exact Std.ExtTreeSet.mem_toList.mp ((leadingAfter_sublist none _).subset hleading)

theorem not_mem_fed_of_mem_due {ledger : Ledger} {suspicion : Suspicion}
    (hdue : suspicion ∈ ledger.due) : suspicion ∉ ledger.fed := by
  intro hfed
  have hfresh := (List.mem_filter.mp hdue).2
  rw [Std.ExtTreeSet.mem_iff_contains.mp hfed] at hfresh
  contradiction

/-- The calls that a ledger makes on its graph to carry out a call. -/
def graphCalls (ledger : Ledger) (settings : LedgerSettings) : LedgerCall → List GraphCall
  | .store _ => []
  | .build => if ledger.due.isEmpty then [] else [.populate ledger.due]
  | .decay round =>
      if round.since ledger.lastDecay < settings.decayInterval.toNat then []
      else [.remove (settings.decayRate * Float.ofNat (round.since ledger.lastDecay))]
  | .collect _ => []

def graphCallsOver (ledger : Ledger) (settings : LedgerSettings) :
    List LedgerCall → List GraphCall
  | [] => []
  | call :: calls =>
      ledger.graphCalls settings call ++
        (ledger.perform settings call).value.graphCallsOver settings calls

/-- The graph changes by these calls and by nothing else. -/
theorem graph_perform (ledger : Ledger) (settings : LedgerSettings) (call : LedgerCall) :
    (ledger.perform settings call).value.graph =
      (ledger.graph.run (ledger.graphCalls settings call)).value := by
  cases call with
  | store suspicions =>
      rw [value_perform_store, foldl_store_eq]
      rfl
  | build =>
      rw [value_perform_build, graphCalls]
      split <;> rfl
  | decay round =>
      rw [value_perform_decay, graphCalls]
      split
      · rfl
      · rw [SuspicionGraph.value_run_cons, SuspicionGraph.value_perform_remove]
        rfl
  | collect low => rfl

theorem graph_run (ledger : Ledger) (settings : LedgerSettings) (calls : List LedgerCall) :
    (ledger.run settings calls).value.graph =
      (ledger.graph.run (ledger.graphCallsOver settings calls)).value := by
  induction calls generalizing ledger with
  | nil => rfl
  | cons call calls ih =>
      rw [value_run_cons, ih, graph_perform, graphCallsOver, SuspicionGraph.value_run_append]

theorem ne_resize_of_mem_graphCalls {ledger : Ledger} {settings : LedgerSettings}
    {call : LedgerCall} {made : GraphCall} (hmade : made ∈ ledger.graphCalls settings call)
    (view : View) : made ≠ .resize view := by
  cases call with
  | store suspicions => contradiction
  | build =>
      rw [graphCalls] at hmade
      split at hmade
      · contradiction
      · rw [List.mem_singleton.mp hmade]
        exact nofun
  | decay round =>
      rw [graphCalls] at hmade
      split at hmade
      · contradiction
      · rw [List.mem_singleton.mp hmade]
        exact nofun
  | collect low => contradiction

theorem ne_resize_of_mem_graphCallsOver {ledger : Ledger} {settings : LedgerSettings}
    {calls : List LedgerCall} {made : GraphCall}
    (hmade : made ∈ ledger.graphCallsOver settings calls) (view : View) :
    made ≠ .resize view := by
  induction calls generalizing ledger with
  | nil => contradiction
  | cons call calls ih =>
      rcases List.mem_append.mp hmade with hfirst | hlater
      · exact ne_resize_of_mem_graphCalls hfirst view
      · exact ih hlater

/-- Every suspicion fed so far is remembered as fed or refused, and what is
held is not refused. -/
structure Remembers (ledger : Ledger) (past : List Suspicion) : Prop where
  nodup : past.Nodup
  known : ∀ suspicion ∈ past, ledger.admits suspicion = true → suspicion ∈ ledger.fed
  admitted : ∀ suspicion ∈ ledger.held, ledger.admits suspicion = true

theorem remembers_empty (view : View) : (empty view).Remembers [] := by
  constructor
  · exact List.nodup_nil
  · intro suspicion hmem
    contradiction
  · intro suspicion _
    rfl

/-- What is due is held, hence admitted, and so it is none of the past. -/
theorem Remembers.not_mem_past {ledger : Ledger} {past : List Suspicion}
    (hpast : ledger.Remembers past) {suspicion : Suspicion} (hdue : suspicion ∈ ledger.due) :
    suspicion ∉ past := by
  intro hmem
  have hadmits := hpast.admitted suspicion (mem_held_of_mem_due hdue)
  exact not_mem_fed_of_mem_due hdue (hpast.known suspicion hmem hadmits)

theorem Remembers.store {ledger : Ledger} {past : List Suspicion}
    (hpast : ledger.Remembers past) (suspicions : List Suspicion) :
    (suspicions.foldl Ledger.store ledger).Remembers past := by
  constructor
  · exact hpast.nodup
  · intro suspicion hmem hadmits
    rw [admits_foldl_store] at hadmits
    rw [foldl_store_eq]
    exact hpast.known suspicion hmem hadmits
  · intro suspicion hheld
    rw [admits_foldl_store]
    rcases mem_held_foldl_store.mp hheld with hold | ⟨-, hnew⟩
    · exact hpast.admitted suspicion hold
    · exact hnew

theorem Remembers.feed {ledger : Ledger} {past : List Suspicion}
    (hpast : ledger.Remembers past) (graph : SuspicionGraph) :
    { ledger with graph, fed := ledger.fed.insertMany ledger.due }.Remembers
      (past ++ ledger.due) := by
  constructor
  · refine List.nodup_append'.mpr ⟨hpast.nodup, ledger.nodup_due, ?_⟩
    intro suspicion hmem hdue
    exact hpast.not_mem_past hdue hmem
  · intro suspicion hmem hadmits
    apply OrderedSet.mem_insertMany.mpr
    rcases List.mem_append.mp hmem with hold | hdue
    · exact Or.inl (hpast.known suspicion hold hadmits)
    · exact Or.inr hdue
  · exact hpast.admitted

theorem Remembers.collect {ledger : Ledger} {past : List Suspicion}
    (hpast : ledger.Remembers past) (low : Round) :
    (ledger.collect low).value.1.Remembers past := by
  constructor
  · exact hpast.nodup
  · intro suspicion hmem hadmits
    obtain ⟨hbefore, hlow⟩ := (ledger.admits_collect low suspicion).mp hadmits
    exact mem_fed_collect.mpr ⟨hpast.known suspicion hmem hbefore, hlow⟩
  · intro suspicion hheld
    obtain ⟨hbefore, hlow⟩ := mem_held_collect.mp hheld
    exact (ledger.admits_collect low suspicion).mpr ⟨hpast.admitted suspicion hbefore, hlow⟩

theorem Remembers.perform {ledger : Ledger} {past : List Suspicion}
    (hpast : ledger.Remembers past) (settings : LedgerSettings) (call : LedgerCall) :
    (ledger.perform settings call).value.Remembers
      (past ++ (ledger.graphCalls settings call).flatMap GraphCall.suspicions) := by
  cases call with
  | store suspicions =>
      rw [value_perform_store, graphCalls, List.flatMap_nil, List.append_nil]
      exact hpast.store suspicions
  | build =>
      rw [value_perform_build, graphCalls]
      by_cases hnone : ledger.due.isEmpty = true
      · rw [if_pos hnone, if_pos hnone, List.flatMap_nil, List.append_nil]
        exact hpast
      · rw [if_neg hnone, if_neg hnone, List.flatMap_singleton]
        exact hpast.feed _
  | decay round =>
      have hquiet : (ledger.graphCalls settings (.decay round)).flatMap GraphCall.suspicions =
          [] := by
        rw [graphCalls]
        split <;> rfl
      rw [hquiet, List.append_nil, value_perform_decay]
      split
      · exact hpast
      · exact ⟨hpast.nodup, hpast.known, hpast.admitted⟩
  | collect low =>
      rw [graphCalls, List.flatMap_nil, List.append_nil]
      exact hpast.collect low

theorem Remembers.run {ledger : Ledger} {past : List Suspicion}
    (hpast : ledger.Remembers past) (settings : LedgerSettings) (calls : List LedgerCall) :
    (ledger.run settings calls).value.Remembers
      (past ++ (ledger.graphCallsOver settings calls).flatMap GraphCall.suspicions) := by
  induction calls generalizing ledger past with
  | nil =>
      rw [graphCallsOver, List.flatMap_nil, List.append_nil]
      exact hpast
  | cons call calls ih =>
      rw [value_run_cons, graphCallsOver, List.flatMap_append, ← List.append_assoc]
      exact ih (hpast.perform settings call)

/-! ## How often an edge is strengthened -/

theorem sum_accusations (made : List GraphCall) (reporter suspect : ReplicaId) :
    (made.map (GraphCall.accusations reporter suspect)).sum =
      (made.flatMap GraphCall.suspicions).countP (·.accuses reporter suspect) := by
  rw [List.countP_flatMap]
  rfl

theorem countP_accuses {suspicions : List Suspicion} (hnodup : suspicions.Nodup)
    (reporter suspect : ReplicaId) :
    suspicions.countP (·.accuses reporter suspect) =
      (suspicions.toFinset.filter fun suspicion =>
        suspicion.reporter = reporter ∧ suspicion.suspect = suspect).card := by
  have hfilter : (suspicions.toFinset.filter fun suspicion =>
      suspicion.reporter = reporter ∧ suspicion.suspect = suspect) =
      (suspicions.filter (·.accuses reporter suspect)).toFinset := by
    ext suspicion
    simp [Suspicion.accuses]
  rw [hfilter, List.toFinset_card_of_nodup (hnodup.filter _), List.countP_eq_length_filter]

/-- In a run from the creation of a ledger or from its last reset, no
suspicion is fed to the graph twice.  So an edge is strengthened once for each
different suspicion that accuses its suspect in the name of its reporter. -/
theorem each_suspicion_is_fed_once (settings : LedgerSettings) (view : View)
    (start : Ledger) (hstart : start = empty view ∨
      ∃ before : Ledger, start = (before.reset view).value)
    (calls : List LedgerCall) :
    let graph := (start.run settings calls).value.graph
    let made := start.graphCallsOver settings calls
    let fed := made.flatMap GraphCall.suspicions
    graph = SuspicionGraph.after view made ∧ fed.Nodup ∧
      ∀ reporter suspect, view.contains reporter = true → view.contains suspect = true →
        reporter ≠ suspect →
        graph.weight? reporter suspect = made.foldl (GraphCall.reweigh reporter suspect) none ∧
          (made.map (GraphCall.accusations reporter suspect)).sum =
            (fed.toFinset.filter fun suspicion =>
              suspicion.reporter = reporter ∧ suspicion.suspect = suspect).card := by
  obtain rfl : start = empty view := by
    rcases hstart with hcreated | ⟨before, hreset⟩
    · exact hcreated
    · exact hreset.trans (before.value_reset view)
  intro graph made fed
  have hgraph : graph = SuspicionGraph.after view made := (empty view).graph_run settings calls
  have hnodup : fed.Nodup := ((remembers_empty view).run settings calls).nodup
  refine ⟨hgraph, hnodup, ?_⟩
  intro reporter suspect hreporter hsuspect hne
  constructor
  · have haccepts : (SuspicionGraph.empty view).accepts reporter suspect = true := by
      simp [SuspicionGraph.accepts, SuspicionGraph.empty, hreporter, hsuspect, hne]
    rw [hgraph, SuspicionGraph.after, SuspicionGraph.weight?_run haccepts
      (fun call hcall => ne_resize_of_mem_graphCallsOver hcall), SuspicionGraph.weight?_empty]
  · rw [sum_accusations, countP_accuses hnodup]

/-- A suspicion that is sent again after its round was collected is not fed
again, however low the last collection. -/
theorem replayed_suspicion_is_fed_once :
    let suspicion : Suspicion :=
      { round := 1, phase := .propose, kind := .slow, suspect := 2, reporter := 0 }
    let start := ((empty ⟨7, 2, by decide⟩).reset ⟨4, 1, by decide⟩).value
    let made := start.graphCallsOver .standard
      [.store [suspicion], .build, .collect 2, .collect (-5), .store [suspicion], .build]
    made.flatMap GraphCall.suspicions = [suspicion] ∧
      (made.map (GraphCall.accusations 0 2)).sum = 1 := by
  intro suspicion start made
  have hfed : made.flatMap GraphCall.suspicions = [suspicion] := by decide +kernel
  obtain ⟨-, -, hcount⟩ := each_suspicion_is_fed_once .standard ⟨4, 1, by decide⟩ start
    (Or.inr ⟨empty ⟨7, 2, by decide⟩, rfl⟩)
    [.store [suspicion], .build, .collect 2, .collect (-5), .store [suspicion], .build]
  have hone := (hcount 0 2 (by decide) (by decide) (by decide)).2
  rw [hfed] at hone
  exact ⟨hfed, hone⟩

end Ledger

end SuspicionMonitor
