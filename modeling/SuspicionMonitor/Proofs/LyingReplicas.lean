import SuspicionMonitor.Proofs.Arming
import SuspicionMonitor.Proofs.DrawnAccusations

/-!
# Liars among armed replicas

In a scenario the accusations are delivered in one round and their answers in
the next one.  All replicas hold the same ledger throughout.  Its suspicions
are about one stage, so all of them are fed, and the rounds are too few for
anything to decay or to be collected.  In the end the graph of every replica has
the accusations and their reversals as edges.
-/

namespace SuspicionMonitor

namespace Ledger

/-- The suspicion is about the stage in which liars claim to have seen a delay. -/
def IsAboutLies (suspicion : Suspicion) : Prop :=
  suspicion.round = Scenario.accusedRound ∧ suspicion.phase = .write

/-- The ledger holds the suspicions `held`, has fed the graph with those of them
that are `fed`, and has not decayed. -/
structure Holds (ledger : Ledger) (view : View) (held fed : List Suspicion) : Prop where
  stage : ∀ suspicion ∈ held, IsAboutLies suspicion
  fed_subset : fed ⊆ held
  mem_held : ∀ suspicion, suspicion ∈ ledger.held ↔ suspicion ∈ held
  mem_fed : ∀ suspicion, suspicion ∈ ledger.fed ↔ suspicion ∈ fed
  admits : ∀ suspicion, IsAboutLies suspicion → ledger.admits suspicion = true
  lastDecay : ledger.lastDecay = 0
  sameView : ledger.graph.view = view
  suspects : ∀ u v, ledger.graph.suspects u v = true ↔
    (SuspicionGraph.empty view).accepts u v = true ∧
      ∃ suspicion ∈ fed, suspicion.reporter = u ∧ suspicion.suspect = v

theorem holds_empty (view : View) : (empty view).Holds view [] [] := by
  have hview : (SuspicionGraph.empty view).view = view := rfl
  constructor <;> simp [empty, admits, SuspicionGraph.suspects_empty, hview]

variable {ledger : Ledger} {view : View} {held fed : List Suspicion}

theorem Holds.store (hholds : ledger.Holds view held fed) {added : List Suspicion}
    (hadded : ∀ suspicion ∈ added, IsAboutLies suspicion) :
    (added.foldl Ledger.store ledger).Holds view (held ++ added) fed := by
  have hsame := foldl_store_eq ledger added
  refine ⟨?_, ?_, ?_, ?_, ?_, ?_, ?_, ?_⟩
  · exact List.forall_mem_append.mpr ⟨hholds.stage, hadded⟩
  · exact List.subset_append_of_subset_left _ hholds.fed_subset
  · intro suspicion
    rw [mem_held_foldl_store, hholds.mem_held, List.mem_append]
    exact or_congr_right
      (and_iff_left_of_imp fun hmem => hholds.admits suspicion (hadded suspicion hmem))
  · rw [hsame]
    exact hholds.mem_fed
  · intro suspicion habout
    rw [admits_foldl_store]
    exact hholds.admits suspicion habout
  · rw [hsame]
    exact hholds.lastDecay
  · rw [hsame]
    exact hholds.sameView
  · rw [hsame]
    exact hholds.suspects

/-- Suspicions about one stage all lead their round. -/
theorem Holds.mem_due (hholds : ledger.Holds view held fed) {suspicion : Suspicion} :
    suspicion ∈ ledger.due ↔ suspicion ∈ held ∧ suspicion ∉ fed := by
  rw [mem_due_iff, mem_suspicions, leads_iff, hholds.mem_held, hholds.mem_fed]
  constructor
  · exact fun hdue => ⟨hdue.1, hdue.2.2⟩
  · rintro ⟨hmem, hfresh⟩
    refine ⟨hmem, fun other hother => ?_, hfresh⟩
    rw [mem_suspicions, hholds.mem_held] at hother
    rw [Bool.eq_false_iff, Ne, Suspicion.isAheadOf_iff, (hholds.stage other hother).2,
      (hholds.stage suspicion hmem).2]
    exact fun hahead => lt_irrefl _ hahead.2

theorem Holds.build (hholds : ledger.Holds view held fed) (settings : LedgerSettings) :
    (ledger.perform settings .build).value.Holds view held held := by
  have hdue : ∀ suspicion, suspicion ∈ held ↔ suspicion ∈ fed ∨ suspicion ∈ ledger.due := by
    intro suspicion
    have hsubset := @hholds.fed_subset suspicion
    rw [hholds.mem_due]
    tauto
  rw [value_perform_build_of_due]
  refine { hholds with
    fed_subset := fun _ hmem => hmem
    mem_fed := ?_
    sameView := ?_
    suspects := ?_ }
  · intro suspicion
    change suspicion ∈ ledger.fed.insertMany ledger.due ↔ suspicion ∈ held
    rw [OrderedSet.mem_insertMany, hholds.mem_fed, hdue]
  · exact (ledger.graph.view_strengthenAll ledger.due).trans hholds.sameView
  · intro u v
    have haccepts : ledger.graph.accepts u v = (SuspicionGraph.empty view).accepts u v := by
      simp only [SuspicionGraph.accepts, hholds.sameView, SuspicionGraph.empty]
    change (ledger.graph.strengthenAll ledger.due).suspects u v = true ↔ _
    rw [SuspicionGraph.suspects_strengthenAll, hholds.suspects, haccepts, ← and_or_left,
      ← exists_or]
    simp only [hdue, or_and_right]

theorem Holds.decay (hholds : ledger.Holds view held fed) {settings : LedgerSettings}
    {round : Round} (hearly : round.since 0 < settings.decayInterval.toNat) :
    (ledger.perform settings (.decay round)).value.Holds view held fed := by
  rw [value_perform_decay, hholds.lastDecay, if_pos hearly]
  exact hholds

theorem Holds.collect (hholds : ledger.Holds view held fed) {low : Round}
    (hlow : low ≤ Scenario.accusedRound) :
    (ledger.collect low).value.1.Holds view held fed := by
  have hkept : ∀ suspicion, IsAboutLies suspicion → low ≤ suspicion.round :=
    fun suspicion habout => by rwa [habout.1]
  refine { hholds with
    mem_held := ?_
    mem_fed := ?_
    admits := ?_ }
  · intro suspicion
    rw [mem_held_collect, hholds.mem_held]
    exact and_iff_left_of_imp fun hmem => hkept suspicion (hholds.stage suspicion hmem)
  · intro suspicion
    rw [mem_fed_collect, hholds.mem_fed]
    exact and_iff_left_of_imp fun hmem =>
      hkept suspicion (hholds.stage suspicion (hholds.fed_subset hmem))
  · intro suspicion habout
    exact (ledger.admits_collect low suspicion).mpr
      ⟨hholds.admits suspicion habout, hkept suspicion habout⟩

/-- A delivery before anything decays or is collected. -/
theorem Holds.deliver (hholds : ledger.Holds view held held) (settings : LedgerSettings)
    (round : Round) (values : List Submission)
    (hearly : round.since 0 < settings.decayInterval.toNat)
    (hlow : lowWaterAt settings round ≤ Scenario.accusedRound)
    (hvalues : ∀ suspicion ∈ values.filterMap Submission.suspicion?, IsAboutLies suspicion) :
    let all := held ++ values.filterMap Submission.suspicion?
    (ledger.deliver settings round values).Holds view all all := by
  rw [deliver_eq_run]
  simp only [value_run_cons, value_perform_store]
  exact (((hholds.store hvalues).build settings).decay hearly).collect hlow

end Ledger

/-! ## Lies and their answers -/

theorem Submission.suspicion?_encode {suspicion : Suspicion}
    (hsuspect : suspicion.suspect.toNat < 2 ^ 31) :
    (Submission.mk suspicion.reporter .suspicion suspicion.encode).suspicion? =
      some suspicion := by
  unfold Submission.suspicion?
  dsimp only
  rw [Suspicion.decode_encode, if_pos hsuspect]
  rfl

/-- The suspicions in a batch that has one value for each accusation. -/
theorem Submission.mem_suspicions_iff {values : List Submission} {accusations : List Accusation}
    {write : Accusation → Submission} {read : Accusation → Suspicion}
    (hvalues : ∀ value, value ∈ values ↔ ∃ accusation ∈ accusations, write accusation = value)
    (hread : ∀ accusation ∈ accusations, (write accusation).suspicion? = some (read accusation))
    {other : Suspicion} :
    other ∈ values.filterMap suspicion? ↔
      ∃ accusation ∈ accusations, read accusation = other := by
  rw [List.mem_filterMap]
  constructor
  · rintro ⟨value, hvalue, hother⟩
    obtain ⟨accusation, hmem, rfl⟩ := (hvalues value).mp hvalue
    rw [hread accusation hmem] at hother
    exact ⟨accusation, hmem, Option.some.inj hother⟩
  · rintro ⟨accusation, hmem, rfl⟩
    exact ⟨_, (hvalues _).mpr ⟨accusation, hmem, rfl⟩, hread accusation hmem⟩

namespace Scenario.Accusation

/-- What its victim submits once it has received the accusation. -/
def reply (accusation : Accusation) : Submission :=
  ⟨accusation.victim, .suspicion, (suspicion accusation).answer.encode⟩

theorem suspicion?_submission {accusation : Accusation}
    (hvictim : accusation.victim.toNat < 2 ^ 31) :
    (submission accusation).suspicion? = some (suspicion accusation) :=
  Submission.suspicion?_encode hvictim

theorem suspicion?_reply {accusation : Accusation} (hliar : accusation.liar.toNat < 2 ^ 31) :
    (reply accusation).suspicion? = some (suspicion accusation).answer :=
  Submission.suspicion?_encode hliar

end Scenario.Accusation

open Scenario.Accusation

/-- A replica that stands by answers everybody else who calls it slow. -/
theorem Replica.StandsBy.answer?_eq {replica : Replica} {settings : Settings} {ledger : Ledger}
    (hstands : replica.StandsBy settings ledger) {accusation : Accusation}
    (hbelow : accusation.victim.toNat < 2 ^ 31) (hne : accusation.victim ≠ accusation.liar) :
    replica.answer? (submission accusation) =
      if accusation.victim = replica.id then some (reply accusation) else none := by
  have hcalm : ∀ stage, replica.sensor.corroborates stage = false := by
    intro stage
    simp [Sensor.corroborates, Sensor.isFlagged, hstands.unflagged]
  unfold Replica.answer?
  rw [suspicion?_submission hbelow, Option.bind_some]
  unfold Sensor.reply?
  rw [hcalm, hstands.armed]
  by_cases hself : accusation.victim = replica.id
  · rw [if_pos hself]
    have hother : accusation.liar ≠ replica.id := by
      rw [← hself]
      exact hne.symm
    simp [suspicion, hself, hother, reply, Suspicion.answer]
  · simp [suspicion, hself]

namespace Cluster

variable {cluster : Cluster} {view : View} {settings : Settings} {ledger : Ledger}
  {accusations : List Accusation} {liars : Nat}

theorem StandsBy.deliver (hstands : cluster.StandsBy view settings ledger) :
    cluster.deliver.value.1.StandsBy view settings
      (ledger.deliver settings.ledger cluster.nextRound cluster.pending) := by
  refine ⟨cluster.ids_deliver.trans hstands.ids, ?_⟩
  rw [value_deliver]
  intro replica hreplica
  obtain ⟨before, hbefore, rfl⟩ := List.mem_map.mp hreplica
  obtain ⟨hsetUp, hholds, harmed, hunflagged⟩ := hstands.replicas before hbefore
  rw [Replica.value_deliver]
  exact ⟨hsetUp, by rw [hsetUp, hholds], harmed, hunflagged⟩

/-- Every accusation is answered by its victim, and nobody else answers. -/
theorem StandsBy.mem_pending_deliver (hstands : cluster.StandsBy view settings ledger)
    (hview : view.n ≤ maxReplicas) (hdrawn : AreDrawn view.n liars accusations)
    (hpending : cluster.pending = accusations.map submission) {value : Submission} :
    value ∈ cluster.deliver.value.1.pending ↔ ∃ accusation ∈ accusations,
      reply accusation = value := by
  have hview : view.n ≤ 1024 := hview
  have hanswer : ∀ replica ∈ cluster.replicas, ∀ accusation ∈ accusations,
      replica.answer? (submission accusation) =
        if accusation.victim = replica.id then some (reply accusation) else none := by
    intro replica hreplica accusation hmem
    have hvictim := hdrawn.victim_lt accusation hmem
    exact (hstands.replicas replica hreplica).answer?_eq (by omega)
      (hdrawn.honest accusation hmem accusation hmem)
  rw [value_deliver, hpending]
  simp only [List.mem_flatMap, List.mem_filterMap, List.mem_map]
  constructor
  · rintro ⟨replica, hreplica, -, ⟨accusation, hmem, rfl⟩, hvalue⟩
    rw [hanswer replica hreplica accusation hmem] at hvalue
    split at hvalue
    · exact ⟨accusation, hmem, Option.some.inj hvalue⟩
    · contradiction
  · rintro ⟨accusation, hmem, rfl⟩
    have hlisted : accusation.victim ∈ cluster.ids := by
      have hvictim := hdrawn.victim_lt accusation hmem
      rw [hstands.ids, View.mem_replicas, Nat.mod_eq_of_lt (by rw [UInt32.size]; omega)]
      exact hvictim
    obtain ⟨replica, hreplica, hid⟩ := List.mem_map.mp hlisted
    refine ⟨replica, hreplica, _, ⟨accusation, hmem, rfl⟩, ?_⟩
    rw [hanswer replica hreplica accusation hmem, if_pos hid.symm]

theorem mem_suspicions_of_lies (hview : view.n ≤ maxReplicas)
    (hdrawn : AreDrawn view.n liars accusations) {other : Suspicion} :
    other ∈ (accusations.map submission).filterMap Submission.suspicion? ↔
      ∃ accusation ∈ accusations, suspicion accusation = other := by
  have hview : view.n ≤ 1024 := hview
  refine Submission.mem_suspicions_iff (fun _ => List.mem_map) fun accusation hmem => ?_
  have hvictim := hdrawn.victim_lt accusation hmem
  exact suspicion?_submission (by omega)

theorem StandsBy.mem_suspicions_of_replies (hstands : cluster.StandsBy view settings ledger)
    (hview : view.n ≤ maxReplicas) (hdrawn : AreDrawn view.n liars accusations)
    (hpending : cluster.pending = accusations.map submission) {other : Suspicion} :
    other ∈ cluster.deliver.value.1.pending.filterMap Submission.suspicion? ↔
      ∃ accusation ∈ accusations, (suspicion accusation).answer = other := by
  have hbound : view.n ≤ 1024 := hview
  refine Submission.mem_suspicions_iff
    (fun _ => hstands.mem_pending_deliver hview hdrawn hpending) fun accusation hmem => ?_
  have hliar := hdrawn.liar_lt accusation hmem
  exact suspicion?_reply (by omega)

/-- What a ledger that holds the lies and their answers has made of them. -/
theorem hasEdgesOf_of_holds (hdrawn : AreDrawn view.n liars accusations)
    {lies answers : List Suspicion} (hholds : ledger.Holds view (lies ++ answers) (lies ++ answers))
    (hlies : ∀ other, other ∈ lies ↔ ∃ accusation ∈ accusations, suspicion accusation = other)
    (hanswers : ∀ other, other ∈ answers ↔
      ∃ accusation ∈ accusations, (suspicion accusation).answer = other) :
    ledger.graph.HasEdgesOf accusations := by
  intro u v
  rw [hholds.suspects]
  constructor
  · rintro ⟨-, other, hother, rfl, rfl⟩
    rcases List.mem_append.mp hother with hlie | hanswer
    · obtain ⟨accusation, hmem, rfl⟩ := (hlies other).mp hlie
      exact ⟨accusation, hmem, Or.inl ⟨rfl, rfl⟩⟩
    · obtain ⟨accusation, hmem, rfl⟩ := (hanswers other).mp hanswer
      exact ⟨accusation, hmem, Or.inr ⟨rfl, rfl⟩⟩
  · rintro ⟨accusation, hmem, hends⟩
    have hne := hdrawn.honest accusation hmem accusation hmem
    have hliar := hdrawn.liar_lt accusation hmem
    have hvictim := hdrawn.victim_lt accusation hmem
    rcases hends with ⟨rfl, rfl⟩ | ⟨rfl, rfl⟩
    · refine ⟨?_, _, List.mem_append_left _ ((hlies _).mpr ⟨accusation, hmem, rfl⟩), rfl, rfl⟩
      simp [SuspicionGraph.accepts, SuspicionGraph.empty, View.contains, hne.symm, hliar, hvictim]
    · refine ⟨?_, _, List.mem_append_right _ ((hanswers _).mpr ⟨accusation, hmem, rfl⟩), rfl, rfl⟩
      simp [SuspicionGraph.accepts, SuspicionGraph.empty, View.contains, hne, hliar, hvictim]

theorem nextRound_deliver (cluster : Cluster) :
    cluster.deliver.value.1.nextRound = cluster.nextRound.plus 1 := by
  rw [value_deliver]

theorem settle_eq_deliver_deliver (hpending : cluster.pending ≠ [])
    (hanswers : cluster.deliver.value.1.pending ≠ [])
    (hsettled : cluster.deliver.value.1.deliver.value.1.pending = []) :
    cluster.settle.value.1 = cluster.deliver.value.1.deliver.value.1 := by
  rw [settle, settleLimit, value_settleWithin_succ, if_neg (by simpa using hpending),
    value_settleWithin_succ, if_neg (by simpa using hanswers),
    value_settleWithin_of_pending hsettled]

/-- Lies are delivered in round 2 and their answers in round 3, if there are
any. -/
theorem StandsBy.settle (hstands : cluster.StandsBy view .simulation ledger)
    (hholds : ledger.Holds view [] []) (hview : view.n ≤ maxReplicas)
    (hdrawn : AreDrawn view.n liars accusations)
    (hpending : cluster.pending = accusations.map submission) (hround : cluster.nextRound = 2) :
    ∃ settled, cluster.settle.value.1.StandsBy view .simulation settled ∧
      settled.graph.view = view ∧ settled.graph.HasEdgesOf accusations ∧
      cluster.settle.value.1.pending = [] ∧
      cluster.settle.value.1.nextRound = if accusations = [] then 2 else 4 := by
  by_cases hnone : accusations = []
  · subst hnone
    have hidle : cluster.settle.value = (cluster, 0) := value_settleWithin_of_pending hpending _
    rw [hidle]
    have hnothing : ledger.Holds view ([] ++ []) ([] ++ []) := hholds
    exact ⟨ledger, hstands, hholds.sameView,
      hasEdgesOf_of_holds hdrawn hnothing (by simp) (by simp), hpending, hround⟩
  obtain ⟨accusation, hmem⟩ := List.exists_mem_of_ne_nil accusations hnone
  have hids : cluster.ids.Nodup := by
    rw [hstands.ids]
    exact view.nodup_replicas
  have hanswers : cluster.deliver.value.1.pending ≠ [] :=
    List.ne_nil_of_mem
      ((hstands.mem_pending_deliver hview hdrawn hpending).mpr ⟨accusation, hmem, rfl⟩)
  have hsettled := pending_deliver_deliver hids
  have hnext : cluster.deliver.value.1.nextRound = 3 := by
    rw [nextRound_deliver, hround]
    decide
  have hlies := hholds.deliver Settings.simulation.ledger 2 cluster.pending
    (by decide) (by decide) (by
      intro other hother
      rw [hpending, mem_suspicions_of_lies hview hdrawn] at hother
      obtain ⟨accusation, -, rfl⟩ := hother
      exact ⟨rfl, rfl⟩)
  have hboth := hlies.deliver Settings.simulation.ledger 3 cluster.deliver.value.1.pending
    (by decide) (by decide) (by
      intro other hother
      rw [hstands.mem_suspicions_of_replies hview hdrawn hpending] at hother
      obtain ⟨accusation, -, rfl⟩ := hother
      exact ⟨rfl, rfl⟩)
  have hend := hstands.deliver.deliver
  rw [hround, hnext] at hend
  rw [settle_eq_deliver_deliver (by simpa [hpending] using hnone) hanswers hsettled, if_neg hnone]
  refine ⟨_, hend, hboth.sameView, ?_, hsettled, ?_⟩
  · refine hasEdgesOf_of_holds hdrawn hboth ?_ ?_
    · intro other
      rw [hpending]
      exact mem_suspicions_of_lies hview hdrawn
    · exact fun other => hstands.mem_suspicions_of_replies hview hdrawn hpending
  · rw [nextRound_deliver, hnext]
    decide

end Cluster

/-! ## The whole run -/

namespace Scenario

theorem value_run {n f liars : Nat} {seed : UInt64} {settings : Settings} (hliars : liars ≤ f)
    {scenario armed settled : Scenario} {accusations : List Accusation}
    (hscenario : ofSettings n f settings = .ok scenario)
    (harmed : scenario.arm.value = (armed, .ok ()))
    (haccusations : (drawAccusations armed.view.n liars (ChaCha.Generator.ofSeed seed)).1 =
      accusations)
    (hsettled : (armed.withPending
      (armed.cluster.pending ++ accusations.map Accusation.submission)).settle.value =
        (settled, .ok ())) :
    (run n f liars seed settings).value =
      .ok (settled.report seed accusations settled.candidateSets.value) := by
  have haccuse := value_accuse armed liars (ChaCha.Generator.ofSeed seed)
  rw [haccusations] at haccuse
  unfold run
  rw [if_neg hliars.not_gt, hscenario]
  simp only [Logged.value_bind, harmed, haccuse, hsettled]
  rfl

theorem value_candidateSets {scenario : Scenario} {view : View} {ledger : Ledger}
    (hstands : scenario.cluster.StandsBy view .simulation ledger)
    (hledger : ledger.graph.view = view) (hview : view.n < UInt32.size) :
    scenario.candidateSets.value =
      scenario.cluster.replicas.map fun _ => some ledger.graph.heuristicCandidates := by
  rw [candidateSets, Logged.value_mapM]
  apply List.map_congr_left
  intro replica hreplica
  obtain ⟨hsetUp, hholds, -, -⟩ := hstands.replicas replica hreplica
  rw [Replica.candidateSet?, hsetUp, hholds, SuspicionGraph.value_candidateSet?]
  have hcandidates : (ledger.graph.candidates Settings.simulation.graph).ids =
      ledger.graph.heuristicCandidates := rfl
  rw [hcandidates, if_pos]
  rw [← hledger] at hview
  exact SuspicionGraph.candidateFloor_le_heuristicCandidates hview

/-- Replicas that hold the same ledger are reported to agree. -/
theorem report_eq (scenario : Scenario) {view : View} {ledger : Ledger}
    (hstands : scenario.cluster.StandsBy view .simulation ledger)
    (hledger : ledger.graph.view = view) (hview : view.n < UInt32.size) (seed : UInt64)
    (accusations : List Accusation) :
    scenario.report seed accusations scenario.candidateSets.value = {
      view := scenario.view
      seed
      accusations
      instances := scenario.cluster.nextRound.minus 1
      edges := ledger.graph.edges.map Prod.fst
      candidates := ledger.graph.heuristicCandidates
      agreed := true } := by
  have hpos := view.n_pos
  have hlength : scenario.cluster.replicas.length = view.n := by
    have hids := congrArg List.length hstands.ids
    rwa [Cluster.ids, List.length_map, View.length_replicas, Nat.mod_eq_of_lt hview] at hids
  rw [← hlength] at hpos
  obtain ⟨first, rest, hreplicas⟩ := List.exists_cons_of_length_pos hpos
  have hfirst : first.ledger = ledger :=
    (hstands.replicas first (by simp [hreplicas])).holds
  rw [report, value_candidateSets hstands hledger hview, edges, hreplicas]
  simp [hfirst]

/-- The report on liars in a simulation, from what was drawn and from the graph
that all replicas share in the end. -/
theorem run_simulation {n f liars : Nat} (hbound : 3 * f + 1 ≤ n) (hn : n ≤ maxReplicas)
    (hliars : liars ≤ f) (seed : UInt64) :
    ∃ (accusations : List Accusation) (graph : SuspicionGraph),
      AreDrawn n liars accusations ∧ graph.view = ⟨n, f, hbound⟩ ∧
      graph.HasEdgesOf accusations ∧
      (run n f liars seed .simulation).value = .ok {
        view := ⟨n, f, hbound⟩
        seed
        accusations
        instances := if accusations = [] then 1 else 3
        edges := graph.edges.map Prod.fst
        candidates := graph.heuristicCandidates
        agreed := true } := by
  let view : View := ⟨n, f, hbound⟩
  have hsize : n < UInt32.size := lt_of_le_of_lt hn (by decide)
  have hscenario : ofSettings n f .simulation = .ok (fresh view .simulation) := by
    refine ofSettings_of_valid ?_ (by decide +kernel)
    rw [View.ofCounts, if_neg view.n_pos.ne', dif_pos hbound]
  have hlisted : view.n ≤ maxReplicas := hn
  obtain ⟨cluster, harmed, hstands, hnone, hround⟩ := arm_fresh hlisted Settings.simulation
  obtain ⟨accusations, haccusations⟩ : ∃ accusations,
      (drawAccusations n liars (ChaCha.Generator.ofSeed seed)).1 = accusations := ⟨_, rfl⟩
  have hdrawn : AreDrawn n liars accusations := by
    rw [← haccusations]
    exact draws_drawAccusations (by omega) hsize.le (ChaCha.Generator.ofSeed seed)
  have hholds : ((Ledger.empty view).deliver Settings.simulation.ledger 1 []).Holds view [] [] :=
    (Ledger.holds_empty view).deliver Settings.simulation.ledger 1 [] (by decide) (by decide)
      (by simp)
  let accused : Cluster :=
    { cluster with pending := cluster.pending ++ accusations.map Accusation.submission }
  have haccused : accused.StandsBy view .simulation _ := ⟨hstands.ids, hstands.replicas⟩
  obtain ⟨ledger, hend, hledger, hedges, hsettled, hinstances⟩ :=
    haccused.settle hholds hlisted hdrawn (by simp [accused, hnone]) hround
  refine ⟨accusations, ledger.graph, hdrawn, hledger, hedges, ?_⟩
  have hsettle : (Scenario.mk view accused).settle.value =
      (⟨view, accused.settle.value.1⟩, .ok ()) := by
    rw [value_settle, hsettled, List.isEmpty_nil, if_pos rfl]
  rw [value_run hliars hscenario harmed haccusations hsettle,
    report_eq ⟨view, accused.settle.value.1⟩ hend hledger hsize, hinstances]
  split <;> rfl

end Scenario

end SuspicionMonitor
