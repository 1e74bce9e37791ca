import SuspicionMonitor.Proofs.LyingReplicas

/-!
# Reports on simulated liars

Whatever is drawn, a simulation of liars settles, all replicas agree, and the
victims are no candidates while enough others remain.  A liar is excluded
together with its victim unless a lower liar has accused the same victim: the
matching needs the victim only once.
-/

namespace SuspicionMonitor

/-- The report tells of so many liars, each answered by its victim, and of
candidates that all replicas agree on. -/
structure ScenarioReport.IsSettled (report : ScenarioReport) (liars : Nat) : Prop where
  agreed : report.agreed = true
  length : report.accusations.length = liars
  distinct : (report.accusations.map Accusation.liar).Nodup
  honest : ∀ first ∈ report.accusations, ∀ second ∈ report.accusations,
    first.victim ≠ second.liar
  members : ∀ accusation ∈ report.accusations,
    report.view.contains accusation.liar = true ∧ report.view.contains accusation.victim = true
  edges : ∀ u v, Edge.mk u v ∈ report.edges ↔ ∃ accusation ∈ report.accusations,
    accusation.liar = u ∧ accusation.victim = v ∨ accusation.victim = u ∧ accusation.liar = v
  nodup_edges : report.edges.Nodup
  instances : report.instances = if 0 < liars then 3 else 1
  victims : ∀ accusation ∈ report.accusations, accusation.victim ∉ report.candidates
  nodup_candidates : report.candidates.Nodup
  candidates : ∀ id ∈ report.candidates, report.view.contains id = true
  floor : report.view.f + 1 ≤ report.candidates.length

namespace SuspicionGraph

theorem mem_map_fst_edges {graph : SuspicionGraph} {u v : ReplicaId} :
    Edge.mk u v ∈ graph.edges.map Prod.fst ↔ graph.suspects u v = true := by
  rw [edges, Std.ExtTreeMap.map_fst_toList_eq_keys, Std.ExtTreeMap.mem_keys]
  exact Std.ExtTreeMap.mem_iff_contains

theorem nodup_map_fst_edges (graph : SuspicionGraph) : (graph.edges.map Prod.fst).Nodup := by
  rw [edges, Std.ExtTreeMap.map_fst_toList_eq_keys]
  exact Std.ExtTreeMap.nodup_keys

variable {graph : SuspicionGraph} {accusations : List Accusation} {n f liars : Nat}
  {hbound : 3 * f + 1 ≤ n}

/-- At most `2 f` replicas take part in the accusations, so none of them has to
be released. -/
theorem mem_heuristicCandidates_of_drawn (hdrawn : AreDrawn n liars accusations)
    (hliars : liars ≤ f) (hview : graph.view = ⟨n, f, hbound⟩)
    (hedges : graph.HasEdgesOf accusations) {id : ReplicaId} :
    id ∈ graph.heuristicCandidates ↔ id ∈ graph.view.replicas ∧
      ∀ accusation ∈ accusations, accusation.victim ≠ id ∧
        (accusation.liar = id → ¬ IsFirstAgainst accusations accusation) := by
  apply (hedges.isMadeOf hdrawn.toAreLies).mem_heuristicCandidates_iff hdrawn.toAreLies
  rw [hdrawn.length, hview]
  simp only [View.maxExclusions]
  omega

end SuspicionGraph

namespace Scenario

/-- A simulation of liars succeeds and settles, whoever is drawn. -/
theorem simulated_lies_settle {n f liars : Nat} (hbound : 3 * f + 1 ≤ n) (hn : n ≤ 1024)
    (hliars : liars ≤ f) (seed : UInt64) :
    ∃ report, (run n f liars seed .simulation).value = .ok report ∧
      report.view = ⟨n, f, hbound⟩ ∧ report.seed = seed ∧ report.IsSettled liars := by
  obtain ⟨accusations, graph, hdrawn, hview, hedges, hrun⟩ :=
    run_simulation hbound hn hliars seed
  have hsize : graph.view.n < UInt32.size := by
    rw [hview]
    exact lt_of_le_of_lt hn (by decide)
  have hfloor := SuspicionGraph.candidateFloor_le_heuristicCandidates hsize
  refine ⟨_, hrun, rfl, rfl, ?_⟩
  constructor
  · rfl
  · exact hdrawn.length
  · exact hdrawn.distinct
  · exact hdrawn.honest
  · intro accusation hmem
    simp [View.contains, hdrawn.liar_lt accusation hmem, hdrawn.victim_lt accusation hmem]
  · exact fun u v => SuspicionGraph.mem_map_fst_edges.trans (hedges u v)
  · exact graph.nodup_map_fst_edges
  · have hempty : accusations = [] ↔ ¬ 0 < liars := by
      rw [← hdrawn.length, Nat.not_lt, Nat.le_zero, List.length_eq_zero_iff]
    by_cases hsome : 0 < liars <;> simp [hempty, hsome]
  · intro accusation hmem hcandidate
    have hall := ((SuspicionGraph.mem_heuristicCandidates_of_drawn hdrawn hliars hview hedges).mp
      hcandidate).2
    exact (hall accusation hmem).1 rfl
  · exact graph.nodup_heuristicCandidates
  · intro id hid
    have hlisted := (SuspicionGraph.mem_heuristicCandidates.mp hid).1
    rw [hview] at hlisted
    exact View.contains_of_mem_replicas hlisted
  · rw [hview] at hfloor
    exact hfloor

theorem two_lies_settle_among_seven :
    3 * 2 + 1 ≤ 7 ∧ 7 ≤ 1024 ∧ 2 ≤ 2 ∧
      ∃ report, (run 7 2 2 0 .simulation).value = .ok report ∧
        report.view = ⟨7, 2, by decide⟩ ∧ report.seed = 0 ∧ report.IsSettled 2 :=
  ⟨by decide, by decide, by decide, simulated_lies_settle (by decide) (by decide) (by decide) 0⟩

/-- In a simulation every victim is excluded, and so is every liar unless a
liar with a lower id has accused the same victim. -/
theorem simulated_liar_stays_iff {n f liars : Nat} (hbound : 3 * f + 1 ≤ n) (hn : n ≤ 1024)
    (hliars : liars ≤ f) (seed : UInt64) :
    ∃ report, (run n f liars seed .simulation).value = .ok report ∧
      ∀ accusation ∈ report.accusations, accusation.victim ∉ report.candidates ∧
        (accusation.liar ∈ report.candidates ↔ ∃ other ∈ report.accusations,
          other.victim = accusation.victim ∧ other.liar < accusation.liar) := by
  obtain ⟨accusations, graph, hdrawn, hview, hedges, hrun⟩ :=
    run_simulation hbound hn hliars seed
  have hcandidate : ∀ {id}, id ∈ graph.heuristicCandidates ↔ _ :=
    SuspicionGraph.mem_heuristicCandidates_of_drawn hdrawn hliars hview hedges
  refine ⟨_, hrun, fun accusation hmem => ⟨fun hvictim => ?_, ?_⟩⟩
  · exact ((hcandidate.mp hvictim).2 accusation hmem).1 rfl
  have hlisted : accusation.liar ∈ graph.view.replicas := by
    have hsize : n < UInt32.size := lt_of_le_of_lt hn (by decide)
    rw [View.mem_replicas, hview, Nat.mod_eq_of_lt hsize]
    exact hdrawn.liar_lt accusation hmem
  have hnotFirst : ¬ SuspicionGraph.IsFirstAgainst accusations accusation ↔
      ∃ other ∈ accusations, other.victim = accusation.victim ∧
        other.liar < accusation.liar := by
    simp [SuspicionGraph.IsFirstAgainst]
  rw [← hnotFirst]
  constructor
  · exact fun hliar => ((hcandidate.mp hliar).2 accusation hmem).2 rfl
  · intro hrival
    refine hcandidate.mpr ⟨hlisted, fun other hother => ⟨?_, fun hsame => ?_⟩⟩
    · exact hdrawn.honest other hother accusation hmem
    · rwa [hdrawn.eq_of_liar hother hmem hsame]

theorem liars_among_seven_stay_iff :
    3 * 2 + 1 ≤ 7 ∧ 7 ≤ 1024 ∧ 2 ≤ 2 ∧
      ∃ report, (run 7 2 2 0 .simulation).value = .ok report ∧
        ∀ accusation ∈ report.accusations, accusation.victim ∉ report.candidates ∧
          (accusation.liar ∈ report.candidates ↔ ∃ other ∈ report.accusations,
            other.victim = accusation.victim ∧ other.liar < accusation.liar) :=
  ⟨by decide, by decide, by decide, simulated_liar_stays_iff (by decide) (by decide) (by decide) 0⟩

/-- Replicas 4 and 5 accuse replica 2, which is matched with the first of them. -/
theorem second_liar_stays_candidate :
    ∃ report, (run 7 2 2 0 .simulation).value = .ok report ∧
      report.accusations = [⟨4, 2⟩, ⟨5, 2⟩] ∧ report.candidates = [0, 1, 3, 5, 6] := by
  have hreport : ((run 7 2 2 0 .simulation).value.toOption.map fun report =>
      (report.accusations, report.candidates)) = some ([⟨4, 2⟩, ⟨5, 2⟩], [0, 1, 3, 5, 6]) := by
    decide +kernel
  cases hrun : (run 7 2 2 0 .simulation).value with
  | error error =>
      rw [hrun] at hreport
      contradiction
  | ok report =>
      rw [hrun] at hreport
      obtain ⟨haccusations, hcandidates⟩ := Prod.mk.inj (Option.some.inj hreport)
      exact ⟨report, rfl, haccusations, hcandidates⟩

end Scenario

end SuspicionMonitor
