import SuspicionMonitor.Proofs.LeadingPhases
import SuspicionMonitor.Proofs.ReplicaRuns

/-!
# What is forgotten does not matter

Two replicas keep suspicions for different numbers of rounds and are delivered
the same values.  The ledger that forgets earlier is the other one without the
rounds it refuses.  As long as it is sent nothing about these rounds, nothing of
them is due in the longer ledger either: all that led them has been fed before
they were forgotten, and no earlier phase can appear.  So both graphs are fed
with the same suspicions.
-/

namespace SuspicionMonitor

theorem Round.ofIntClamp_le_ofIntClamp {first second : Int} (hle : first ≤ second) :
    Int32.ofIntClamp first ≤ Int32.ofIntClamp second := by
  have hmin := Int32.toInt_minValue
  have hmax := Int32.toInt_maxValue
  rw [Int32.le_iff_toInt_le]
  unfold Int32.ofIntClamp
  split_ifs <;> simp <;> omega

namespace Ledger

/-- The rounds below this are forgotten at the end of `round`. -/
def lowWaterAt (settings : LedgerSettings) (round : Round) : Round :=
  round.minus (Int32.ofIntClamp settings.retention.toNat)

theorem lowWaterAt_le {settings longer : LedgerSettings}
    (hretention : settings.retention ≤ longer.retention) (round : Round) :
    lowWaterAt longer round ≤ lowWaterAt settings round := by
  have hnat : settings.retention.toNat ≤ longer.retention.toNat := hretention
  have hclamp := Round.ofIntClamp_le_ofIntClamp (Int.ofNat_le.mpr hnat)
  rw [Int32.le_iff_toInt_le] at hclamp
  exact Round.ofIntClamp_le_ofIntClamp (by omega)

end Ledger

/-- The suspicion that a value carries, if it carries one that can be read. -/
def Submission.suspicion? (value : Submission) : Option Suspicion :=
  match value.kind with
  | .latency => none
  | .suspicion => (Suspicion.decode value.payload value.sender).toOption

namespace Ledger

theorem receive_eq (ledger : Ledger) (value : Submission) :
    ledger.receive value = value.suspicion?.elim ledger ledger.store := by
  unfold receive notify Submission.suspicion?
  cases value.kind with
  | latency => rfl
  | suspicion => cases Suspicion.decode value.payload value.sender <;> rfl

theorem foldl_receive (ledger : Ledger) (values : List Submission) :
    values.foldl receive ledger = (values.filterMap Submission.suspicion?).foldl store ledger := by
  induction values generalizing ledger with
  | nil => rfl
  | cons value values ih =>
      rw [List.foldl_cons, ih, receive_eq]
      cases hvalue : value.suspicion? with
      | none => rw [List.filterMap_cons_none hvalue, Option.elim_none]
      | some suspicion => rw [List.filterMap_cons_some hvalue, Option.elim_some, List.foldl_cons]

theorem deliver_eq_run (ledger : Ledger) (settings : LedgerSettings) (round : Round)
    (values : List Submission) :
    ledger.deliver settings round values =
      (ledger.run settings [.store (values.filterMap Submission.suspicion?), .build,
        .decay round, .collect (lowWaterAt settings round)]).value := by
  simp only [value_run_cons, value_perform_store, ← foldl_receive]
  rfl

/-! ## A ledger cut down to what it admits -/

/-- The first ledger is the second one without the rounds that it refuses, and
nothing of these is due. -/
structure IsTrimmed (short long : Ledger) : Prop where
  graph : short.graph = long.graph
  lastDecay : short.lastDecay = long.lastDecay
  admits : ∀ suspicion, short.admits suspicion = true → long.admits suspicion = true
  held : ∀ suspicion, suspicion ∈ short.held ↔
    suspicion ∈ long.held ∧ short.admits suspicion = true
  fed : ∀ suspicion, suspicion ∈ short.fed ↔
    suspicion ∈ long.fed ∧ short.admits suspicion = true
  due : ∀ suspicion ∈ long.due, short.admits suspicion = true

theorem isTrimmed_empty (view : View) : IsTrimmed (empty view) (empty view) := by
  constructor <;> simp [empty, admits]

theorem admits_of_round_eq {ledger : Ledger} {first second : Suspicion}
    (hround : first.round = second.round) : ledger.admits first = ledger.admits second := by
  unfold Ledger.admits
  rw [hround]

variable {short long : Ledger}

/-- Rounds are kept or refused as a whole, so what leads a kept one leads it in
both ledgers. -/
theorem IsTrimmed.leads_eq (htrimmed : IsTrimmed short long) {suspicion : Suspicion}
    (hadmits : short.admits suspicion = true) :
    leads short.suspicions suspicion = leads long.suspicions suspicion := by
  apply leads_congr
  intro other hround
  rw [mem_suspicions, mem_suspicions, htrimmed.held, admits_of_round_eq hround]
  simp [hadmits]

theorem IsTrimmed.due_eq (htrimmed : IsTrimmed short long) : short.due = long.due := by
  have hsorted : ∀ ledger : Ledger, ledger.due.Pairwise fun a b => compare a b = .lt := by
    intro ledger
    rw [due_eq_filter]
    exact ledger.held.ordered_toList.filter _
  refine OrderedSet.eq_of_mem_iff (hsorted short) (hsorted long) ?_
  intro suspicion
  rw [mem_due_iff, mem_due_iff, mem_suspicions, mem_suspicions]
  constructor
  · rintro ⟨hheld, hleads, hfresh⟩
    obtain ⟨hlong, hadmits⟩ := (htrimmed.held suspicion).mp hheld
    rw [htrimmed.leads_eq hadmits] at hleads
    exact ⟨hlong, hleads, fun hfed => hfresh ((htrimmed.fed suspicion).mpr ⟨hfed, hadmits⟩)⟩
  · rintro ⟨hlong, hleads, hfresh⟩
    have hadmits : short.admits suspicion = true :=
      htrimmed.due suspicion (mem_due_iff.mpr ⟨mem_suspicions.mpr hlong, hleads, hfresh⟩)
    exact ⟨(htrimmed.held suspicion).mpr ⟨hlong, hadmits⟩,
      (htrimmed.leads_eq hadmits).trans hleads,
      fun hfed => hfresh ((htrimmed.fed suspicion).mp hfed).1⟩

/-- A refused round has gained nothing, so what is due in it was due before. -/
theorem IsTrimmed.store (htrimmed : IsTrimmed short long) {suspicions : List Suspicion}
    (htimely : ∀ suspicion ∈ suspicions, short.admits suspicion = true) :
    IsTrimmed (suspicions.foldl Ledger.store short) (suspicions.foldl Ledger.store long) := by
  have hshort := foldl_store_eq short suspicions
  have hlong := foldl_store_eq long suspicions
  constructor
  · rw [hshort, hlong]
    exact htrimmed.graph
  · rw [hshort, hlong]
    exact htrimmed.lastDecay
  · intro suspicion
    rw [admits_foldl_store, admits_foldl_store]
    exact htrimmed.admits suspicion
  · intro suspicion
    rw [mem_held_foldl_store, mem_held_foldl_store, admits_foldl_store, htrimmed.held]
    have hboth := htrimmed.admits suspicion
    tauto
  · intro suspicion
    rw [admits_foldl_store, hshort, hlong]
    exact htrimmed.fed suspicion
  · intro suspicion hdue
    rw [admits_foldl_store]
    obtain ⟨hheld, hleads, hfresh⟩ := mem_due_iff.mp hdue
    rw [mem_suspicions, mem_held_foldl_store] at hheld
    rcases hheld with hold | ⟨hnew, -⟩
    · apply htrimmed.due suspicion
      rw [mem_due_iff, mem_suspicions]
      refine ⟨hold, leads_of_subset ?_ hleads, ?_⟩
      · intro other hother
        rw [mem_suspicions] at hother ⊢
        exact mem_held_foldl_store.mpr (Or.inl hother)
      · rwa [hlong] at hfresh
    · exact htimely suspicion hnew

theorem due_build (ledger : Ledger) (settings : LedgerSettings) :
    (ledger.perform settings .build).value.due = [] := by
  apply List.eq_nil_iff_forall_not_mem.mpr
  intro suspicion hdue
  rw [value_perform_build_of_due, mem_due_iff] at hdue
  obtain ⟨hheld, hleads, hfresh⟩ := hdue
  obtain ⟨hbefore, hnow⟩ := not_or.mp fun hfed => hfresh (OrderedSet.mem_insertMany.mpr hfed)
  exact hnow (mem_due_iff.mpr ⟨hheld, hleads, hbefore⟩)

theorem IsTrimmed.build (htrimmed : IsTrimmed short long) (settings longer : LedgerSettings) :
    IsTrimmed (short.perform settings .build).value (long.perform longer .build).value := by
  have hdue := htrimmed.due_eq
  have hnone := long.due_build longer
  rw [value_perform_build_of_due, value_perform_build_of_due] at *
  constructor
  · rw [hdue, htrimmed.graph]
  · exact htrimmed.lastDecay
  · exact htrimmed.admits
  · exact htrimmed.held
  · intro suspicion
    have hadmits : suspicion ∈ long.due → short.admits suspicion = true := htrimmed.due suspicion
    change suspicion ∈ short.fed.insertMany short.due ↔
      suspicion ∈ long.fed.insertMany long.due ∧ short.admits suspicion = true
    simp only [OrderedSet.mem_insertMany, htrimmed.fed, hdue]
    tauto
  · intro suspicion hmem
    rw [hnone] at hmem
    contradiction

theorem IsTrimmed.decay (htrimmed : IsTrimmed short long) {settings longer : LedgerSettings}
    (hinterval : settings.decayInterval = longer.decayInterval)
    (hrate : settings.decayRate = longer.decayRate) (round : Round) :
    IsTrimmed (short.perform settings (.decay round)).value
      (long.perform longer (.decay round)).value := by
  rw [value_perform_decay, value_perform_decay, htrimmed.lastDecay, hinterval, hrate]
  split
  · exact htrimmed
  · exact ⟨by rw [htrimmed.graph], rfl, htrimmed.admits, htrimmed.held, htrimmed.fed, htrimmed.due⟩

theorem due_perform_decay (ledger : Ledger) (settings : LedgerSettings) (round : Round) :
    (ledger.perform settings (.decay round)).value.due = ledger.due := by
  rw [value_perform_decay]
  split <;> rfl

/-- Collection forgets whole rounds, so nothing becomes due by it. -/
theorem due_collect {ledger : Ledger} (hdue : ledger.due = []) (low : Round) :
    (ledger.collect low).value.1.due = [] := by
  apply List.eq_nil_iff_forall_not_mem.mpr
  intro suspicion hmem
  obtain ⟨hheld, hleads, hfresh⟩ := mem_due_iff.mp hmem
  rw [mem_suspicions, mem_held_collect] at hheld
  have hround : leads (ledger.collect low).value.1.suspicions suspicion =
      leads ledger.suspicions suspicion := by
    apply leads_congr
    intro other hsame
    simp [mem_suspicions, mem_held_collect, hsame, hheld.2]
  have hbefore : suspicion ∈ ledger.due := by
    rw [mem_due_iff, mem_suspicions, ← hround]
    exact ⟨hheld.1, hleads, fun hfed => hfresh (mem_fed_collect.mpr ⟨hfed, hheld.2⟩)⟩
  rw [hdue] at hbefore
  contradiction

theorem IsTrimmed.collect (htrimmed : IsTrimmed short long) (hdue : long.due = [])
    {low lower : Round} (hlow : lower ≤ low) :
    IsTrimmed (short.collect low).value.1 (long.collect lower).value.1 := by
  have hkept : ∀ suspicion : Suspicion, low ≤ suspicion.round → lower ≤ suspicion.round :=
    fun suspicion => Int32.le_trans hlow
  constructor
  · exact htrimmed.graph
  · exact htrimmed.lastDecay
  · intro suspicion
    rw [admits_collect, admits_collect]
    exact fun hadmits => ⟨htrimmed.admits suspicion hadmits.1, hkept suspicion hadmits.2⟩
  · intro suspicion
    rw [mem_held_collect, mem_held_collect, admits_collect, htrimmed.held]
    have := hkept suspicion
    tauto
  · intro suspicion
    rw [mem_fed_collect, mem_fed_collect, admits_collect, htrimmed.fed]
    have := hkept suspicion
    tauto
  · intro suspicion hmem
    rw [due_collect hdue] at hmem
    contradiction

/-! ## Deliveries -/

/-- No suspicion among the values is about a round that the ledger refuses. -/
def IsTimely (ledger : Ledger) (values : List Submission) : Prop :=
  ∀ suspicion ∈ values.filterMap Submission.suspicion?, ledger.admits suspicion = true

instance (ledger : Ledger) (values : List Submission) : Decidable (ledger.IsTimely values) :=
  inferInstanceAs (Decidable (∀ suspicion ∈ _, _))

theorem IsTrimmed.deliver (htrimmed : IsTrimmed short long) {settings longer : LedgerSettings}
    (hinterval : settings.decayInterval = longer.decayInterval)
    (hrate : settings.decayRate = longer.decayRate)
    (hretention : settings.retention ≤ longer.retention) {values : List Submission}
    (htimely : short.IsTimely values) (round : Round) :
    IsTrimmed (short.deliver settings round values) (long.deliver longer round values) := by
  rw [deliver_eq_run, deliver_eq_run]
  simp only [value_run_cons, value_perform_store]
  have hbuilt := (htrimmed.store htimely).build settings longer
  have hdecayed := hbuilt.decay hinterval hrate round
  refine hdecayed.collect ?_ (lowWaterAt_le hretention round)
  rw [due_perform_decay, due_build]

def deliverAll (ledger : Ledger) (settings : LedgerSettings)
    (deliveries : List (Round × List Submission)) : Ledger :=
  deliveries.foldl (fun ledger (round, values) => ledger.deliver settings round values) ledger

/-- No delivery brings a suspicion about a round that the ledger refuses by
then. -/
def StaysTimely (settings : LedgerSettings) : Ledger → List (Round × List Submission) → Prop
  | _, [] => True
  | ledger, (round, values) :: deliveries =>
      ledger.IsTimely values ∧
        StaysTimely settings (ledger.deliver settings round values) deliveries

instance decidableStaysTimely (settings : LedgerSettings) :
    (ledger : Ledger) → (deliveries : List (Round × List Submission)) →
      Decidable (ledger.StaysTimely settings deliveries)
  | _, [] => .isTrue trivial
  | ledger, (round, values) :: deliveries =>
      have := decidableStaysTimely settings (ledger.deliver settings round values) deliveries
      inferInstanceAs (Decidable (_ ∧ _))

theorem StaysTimely.of_prefix {settings : LedgerSettings} {ledger : Ledger}
    {deliveries before : List (Round × List Submission)}
    (htimely : ledger.StaysTimely settings deliveries) (hbefore : before <+: deliveries) :
    ledger.StaysTimely settings before := by
  induction before generalizing ledger deliveries with
  | nil => trivial
  | cons delivery before ih =>
      obtain ⟨later, rfl⟩ := hbefore
      exact ⟨htimely.1, ih htimely.2 (List.prefix_append before later)⟩

theorem IsTrimmed.deliverAll (htrimmed : IsTrimmed short long)
    {settings longer : LedgerSettings}
    (hinterval : settings.decayInterval = longer.decayInterval)
    (hrate : settings.decayRate = longer.decayRate)
    (hretention : settings.retention ≤ longer.retention)
    {deliveries : List (Round × List Submission)}
    (htimely : short.StaysTimely settings deliveries) :
    IsTrimmed (short.deliverAll settings deliveries) (long.deliverAll longer deliveries) := by
  induction deliveries generalizing short long with
  | nil => exact htrimmed
  | cons delivery deliveries ih =>
      exact ih (htrimmed.deliver hinterval hrate hretention htimely.1 delivery.1) htimely.2

end Ledger

def Settings.withRetention (settings : Settings) (retention : UInt32) : Settings :=
  { settings with ledger := { settings.ledger with retention } }

def ReplicaCall.ofDelivery : Round × List Submission → ReplicaCall
  | (round, values) => .deliver round values

theorem OrderedState.foldl_apply_ofDelivery (state : OrderedState)
    (deliveries : List (Round × List Submission)) :
    (deliveries.map ReplicaCall.ofDelivery).foldl apply state =
      { state with ledger := state.ledger.deliverAll state.settings.ledger deliveries } := by
  induction deliveries generalizing state with
  | nil => rfl
  | cons delivery deliveries ih =>
      rw [List.map_cons, List.foldl_cons, ih]
      rfl

namespace Replica

theorem orderedCalls_map_ofDelivery (replica : Replica)
    (deliveries : List (Round × List Submission)) :
    replica.orderedCalls (deliveries.map ReplicaCall.ofDelivery) =
      deliveries.map ReplicaCall.ofDelivery := by
  induction deliveries generalizing replica with
  | nil => rfl
  | cons delivery deliveries ih =>
      rw [List.map_cons, orderedCalls_cons, ih]
      rfl

/-- The replica after a run with these deliveries and no other ordered calls. -/
theorem ledger_run_of_orderedCalls {id : ReplicaId} {view : View} {settings : Settings}
    {calls : List ReplicaCall} {deliveries : List (Round × List Submission)}
    (hordered : (fresh id view settings).orderedCalls calls =
      deliveries.map ReplicaCall.ofDelivery) :
    ((fresh id view settings).run calls).value.1.ledger =
        (Ledger.empty view).deliverAll settings.ledger deliveries ∧
      ((fresh id view settings).run calls).value.1.settings = settings := by
  have hstate := orderedState_run (fresh id view settings) calls
  rw [hordered, OrderedState.foldl_apply_ofDelivery] at hstate
  exact ⟨congrArg OrderedState.ledger hstate, congrArg OrderedState.settings hstate⟩

/-- Two replicas of one view that differ in how long they keep suspicions, and
in what they observe, have the same graph and the same candidates after each
of the same deliveries, whatever rounds these are ordered in, if no suspicion
comes after the replica that keeps them for the shorter time has forgotten its
round. -/
theorem same_graph_under_longer_retention (view : View) (settings : Settings)
    (shorter longer : UInt32) (hretention : shorter ≤ longer)
    (deliveries : List (Round × List Submission))
    (htimely : (Ledger.empty view).StaysTimely (settings.withRetention shorter).ledger deliveries)
    (first second : ReplicaId) (firstCalls secondCalls : List ReplicaCall)
    (before : List (Round × List Submission)) (hbefore : before <+: deliveries)
    (hfirst : (fresh first view (settings.withRetention shorter)).orderedCalls firstCalls =
      before.map ReplicaCall.ofDelivery)
    (hsecond : (fresh second view (settings.withRetention longer)).orderedCalls secondCalls =
      before.map ReplicaCall.ofDelivery) :
    let firstEnd := ((fresh first view (settings.withRetention shorter)).run firstCalls).value.1
    let secondEnd := ((fresh second view (settings.withRetention longer)).run secondCalls).value.1
    firstEnd.ledger.graph = secondEnd.ledger.graph ∧
      firstEnd.candidateSet?.value = secondEnd.candidateSet?.value := by
  intro firstEnd secondEnd
  obtain ⟨hshort, hfirstSettings⟩ := ledger_run_of_orderedCalls hfirst
  obtain ⟨hlong, hsecondSettings⟩ := ledger_run_of_orderedCalls hsecond
  have hinterval : (settings.withRetention shorter).ledger.decayInterval =
      (settings.withRetention longer).ledger.decayInterval := rfl
  have hrate : (settings.withRetention shorter).ledger.decayRate =
      (settings.withRetention longer).ledger.decayRate := rfl
  have htrimmed := (Ledger.isTrimmed_empty view).deliverAll hinterval hrate hretention
    (htimely.of_prefix hbefore)
  have hgraph : firstEnd.ledger.graph = secondEnd.ledger.graph := by
    rw [hshort, hlong]
    exact htrimmed.graph
  refine ⟨hgraph, ?_⟩
  unfold candidateSet?
  rw [hgraph, hfirstSettings, hsecondSettings]
  rfl

/-- Of two suspicions, one replica has forgotten the first when the second is
delivered, and the other keeps both. -/
theorem same_graph_after_one_is_forgotten :
    let view : View := ⟨4, 1, by decide⟩
    let accusation : Suspicion :=
      { round := 1, phase := .write, kind := .slow, suspect := 2, reporter := 1 }
    let reply : Suspicion :=
      { round := 4, phase := .write, kind := .falseAccusation, suspect := 1, reporter := 2 }
    let deliveries : List (Round × List Submission) :=
      [(2, [⟨1, .suspicion, accusation.encode⟩]), (4, []), (5, [⟨2, .suspicion, reply.encode⟩])]
    let calls := deliveries.map ReplicaCall.ofDelivery
    let firstEnd := ((fresh 0 view (Settings.standard.withRetention 1)).run
      (.noteRequest 5 :: calls)).value.1
    let secondEnd := ((fresh 3 view (Settings.standard.withRetention 10)).run
      (.recordWrite 2 7 :: calls)).value.1
    (Ledger.empty view).StaysTimely (Settings.standard.withRetention 1).ledger deliveries ∧
      firstEnd.ledger.size = 1 ∧ secondEnd.ledger.size = 2 ∧
      firstEnd.candidateSet?.value = some [0, 3] ∧
      firstEnd.ledger.graph = secondEnd.ledger.graph ∧
      firstEnd.candidateSet?.value = secondEnd.candidateSet?.value := by
  intro view accusation reply deliveries calls
  have htimely : (Ledger.empty view).StaysTimely (Settings.standard.withRetention 1).ledger
      deliveries := by decide +kernel
  have hfirst : (fresh 0 view (Settings.standard.withRetention 1)).orderedCalls
      (.noteRequest 5 :: calls) = calls := by
    rw [orderedCalls_cons, orderedCalls_map_ofDelivery]
    rfl
  have hsecond : (fresh 3 view (Settings.standard.withRetention 10)).orderedCalls
      (.recordWrite 2 7 :: calls) = calls := by
    rw [orderedCalls_cons, orderedCalls_map_ofDelivery]
    rfl
  exact ⟨htimely, by decide +kernel, by decide +kernel, by decide +kernel,
    same_graph_under_longer_retention view .standard 1 10 (by decide) deliveries htimely 0 3
      (.noteRequest 5 :: calls) (.recordWrite 2 7 :: calls) deliveries (List.prefix_refl _)
      hfirst hsecond⟩

end Replica

end SuspicionMonitor
