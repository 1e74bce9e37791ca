import SuspicionMonitor.Proofs.UnsuspectedCandidates

/-!
# Greedy sets as seeds

Taking the least connected vertex until none remains ends with a maximal
independent set, since each round discards neighbours of the vertex it takes
and nobody else.  The neighbourhoods of a maximal set cover the graph, which
bounds its size from below.  The search starts from this set and only ever
replaces it by a larger one, so it answers no smaller one, whenever it is
stopped and whatever it cuts branches off by.
-/

namespace SuspicionMonitor

namespace Adjacency

variable {n : Nat} {graph : Adjacency n} {remaining : List (Fin n)} {u v : Fin n}

/-- A remaining vertex with the fewest remaining neighbours, the lowest of
them. -/
structure IsLeastConnected (graph : Adjacency n) (remaining : List (Fin n)) (v : Fin n) :
    Prop where
  mem : v ∈ remaining
  least : ∀ u ∈ remaining, u ≠ v →
    graph.degreeWithin remaining v < graph.degreeWithin remaining u ∨
      graph.degreeWithin remaining v = graph.degreeWithin remaining u ∧ v < u

theorem IsLeastConnected.unique (hu : graph.IsLeastConnected remaining u)
    (hv : graph.IsLeastConnected remaining v) : u = v := by
  by_contra hne
  have hforward := hu.least v hv.mem (Ne.symm hne)
  have hbackward := hv.least u hu.mem hne
  omega

/-- Of two scores the one with fewer neighbours is lower, as an index is less
than the number of vertices. -/
theorem score_lt_of_score_le (hle : graph.score remaining v ≤ graph.score remaining u)
    (hne : u ≠ v) :
    graph.degreeWithin remaining v < graph.degreeWithin remaining u ∨
      graph.degreeWithin remaining v = graph.degreeWithin remaining u ∧ v < u := by
  unfold score at hle
  rcases Nat.lt_trichotomy (graph.degreeWithin remaining v) (graph.degreeWithin remaining u) with
    hless | hequal | hmore
  · exact Or.inl hless
  · rw [hequal] at hle
    have hne : u.val ≠ v.val := fun heq => hne (Fin.ext heq)
    exact Or.inr ⟨hequal, by omega⟩
  · have hscaled := Nat.mul_le_mul_right n (Nat.succ_le_of_lt hmore)
    rw [Nat.succ_mul] at hscaled
    omega

theorem isLeastConnected_of_leastConnected?
    (hv : graph.leastConnected? remaining = some v) : graph.IsLeastConnected remaining v where
  mem := mem_of_leastConnected?_eq_some hv
  least := by
    intro u hu hne
    obtain ⟨⟨score, taken⟩, hleast, rfl⟩ := Option.map_eq_some_iff.mp hv
    obtain ⟨w, hw, hscored⟩ := List.mem_map.mp (List.minOn?_mem hleast)
    obtain ⟨rfl, rfl⟩ := Prod.mk.inj hscored
    have hmem :
        (graph.score remaining u, u) ∈ remaining.map fun v => (graph.score remaining v, v) :=
      List.mem_map.mpr ⟨u, hu, rfl⟩
    have hle := List.apply_get_minOn?_le_of_mem (f := Prod.fst) hmem
    simp only [hleast, Option.get_some] at hle
    exact score_lt_of_score_le hle hne

/-- The vertices taken one after the other until none remains, each with its
neighbours discarded. -/
inductive TakesGreedily (graph : Adjacency n) : (remaining chosen : List (Fin n)) → Prop
  | done : graph.TakesGreedily [] []
  | round {remaining chosen : List (Fin n)} {v : Fin n} :
      graph.IsLeastConnected remaining v →
      graph.TakesGreedily (remaining.filter fun u => u != v && !graph.adjacent v u) chosen →
      graph.TakesGreedily remaining (v :: chosen)

theorem takesGreedily_greedyFrom {rounds : Nat} (hrounds : remaining.length ≤ rounds) :
    graph.TakesGreedily remaining (graph.greedyFrom rounds remaining) := by
  induction rounds generalizing remaining with
  | zero =>
      obtain rfl := List.length_eq_zero_iff.mp (Nat.le_zero.mp hrounds)
      exact .done
  | succ rounds ih =>
      unfold greedyFrom
      split
      next hnone =>
        rw [leastConnected?_eq_none_iff.mp hnone]
        exact .done
      next taken htaken =>
        have hchoice := isLeastConnected_of_leastConnected? htaken
        have hleft := graph.length_filter_round_lt hchoice.mem
        exact .round hchoice (ih (by omega))

theorem TakesGreedily.unique {first second : List (Fin n)}
    (hfirst : graph.TakesGreedily remaining first)
    (hsecond : graph.TakesGreedily remaining second) : first = second := by
  induction hfirst generalizing second with
  | done =>
      cases hsecond with
      | done => rfl
      | round hchoice _ => exact absurd hchoice.mem List.not_mem_nil
  | round hchoice _ ih =>
      cases hsecond with
      | done => exact absurd hchoice.mem List.not_mem_nil
      | round hother hrest =>
          obtain rfl := hchoice.unique hother
          rw [ih hrest]

instance (hgraph : graph.IsUndirected) : DecidableRel (graph.simpleGraph hgraph).Adj :=
  fun u v => inferInstanceAs (Decidable (graph.adjacent u v = true))

/-- The members and their neighbours are all vertices, and each member brings
at most as many as the greatest degree and itself. -/
theorem IsDominating.le_length_mul {members : List (Fin n)} (hmembers : graph.IsDominating members)
    (hgraph : graph.IsUndirected) :
    n ≤ members.length * ((graph.simpleGraph hgraph).maxDegree + 1) := by
  have hcover : (Finset.univ : Finset (Fin n)) ⊆
      members.toFinset.biUnion fun u => insert u ((graph.simpleGraph hgraph).neighborFinset u) := by
    intro v _
    simp only [Finset.mem_biUnion, List.mem_toFinset, Finset.mem_insert,
      SimpleGraph.mem_neighborFinset]
    rcases hmembers v with hv | ⟨u, hu, hadj⟩
    · exact ⟨v, hv, Or.inl rfl⟩
    · exact ⟨u, hu, Or.inr hadj⟩
  calc
    n = (Finset.univ : Finset (Fin n)).card := (Finset.card_fin n).symm
    _ ≤ (members.toFinset.biUnion fun u =>
          insert u ((graph.simpleGraph hgraph).neighborFinset u)).card := Finset.card_le_card hcover
    _ ≤ members.toFinset.card * ((graph.simpleGraph hgraph).maxDegree + 1) := by
      refine Finset.card_biUnion_le_card_mul _ _ _ fun u _ => ?_
      exact (Finset.card_insert_le _ _).trans
        (Nat.add_le_add_right ((graph.simpleGraph hgraph).degree_le_maxDegree u) 1)
    _ ≤ members.length * ((graph.simpleGraph hgraph).maxDegree + 1) :=
      Nat.mul_le_mul_right _ (List.toFinset_card_le members)

/-! ## The search from the seed -/

theorem searchUnder_zero (graph : Adjacency n) (bound : List (Fin n) → Nat) :
    graph.searchUnder bound (some 0) =
      { best := graph.greedyIndependentSet, allowance := some 0, stopped := true } := rfl

theorem length_greedy_le_searchUnder (graph : Adjacency n) (bound : List (Fin n) → Nat)
    (allowance : Option Nat) :
    graph.greedyIndependentSet.length ≤ (graph.searchUnder bound allowance).best.length := by
  rcases graph.improves_searchUnder bound allowance with hkept | ⟨-, hlonger⟩
  · rw [hkept]
  · exact hlonger.le

/-- An independent set with at least as many members as the greedy one. -/
structure ReachesGreedy (graph : Adjacency n) (hgraph : graph.IsUndirected)
    (members : List (Fin n)) : Prop where
  nodup : members.Nodup
  independent : (graph.simpleGraph hgraph).IsIndepSet (members.toFinset : Set (Fin n))
  length : graph.greedyIndependentSet.length ≤ members.length

theorem reachesGreedy_searchUnder (hgraph : graph.IsUndirected) (bound : List (Fin n) → Nat)
    (allowance : Option Nat) :
    graph.ReachesGreedy hgraph (graph.searchUnder bound allowance).best where
  nodup := (isCliqueList_searchUnder hgraph bound allowance).nodup hgraph.complement
  independent := (isCliqueList_searchUnder hgraph bound allowance).isIndepSet hgraph
  length := graph.length_greedy_le_searchUnder bound allowance

/-- Taking the least connected vertex until none remains comes to an end with
one set, which is independent and maximal, and so large that it and its
neighbours can be all vertices.  A search that may make no expansion answers
this set, and every other search, stopped or not and whatever it cuts branches
off by, an independent set that is at least as large. -/
theorem greedy_set_seeds_search (hgraph : graph.IsUndirected) :
    let greedy := graph.greedyIndependentSet
    (∀ chosen, graph.TakesGreedily (List.finRange n) chosen ↔ chosen = greedy) ∧
      greedy.Nodup ∧ (graph.simpleGraph hgraph).IsIndepSet (greedy.toFinset : Set (Fin n)) ∧
      graph.IsDominating greedy ∧
      n ≤ greedy.length * ((graph.simpleGraph hgraph).maxDegree + 1) ∧
      graph.maximumIndependentSet (some 0) =
        { best := greedy, allowance := some 0, stopped := true } ∧
      (∀ allowance, graph.ReachesGreedy hgraph (graph.maximumIndependentSet allowance).best) ∧
      ∀ bound allowance, graph.ReachesGreedy hgraph (graph.searchUnder bound allowance).best := by
  intro greedy
  have hrun : graph.TakesGreedily (List.finRange n) greedy := takesGreedily_greedyFrom (by simp)
  have hends : ∀ chosen, graph.TakesGreedily (List.finRange n) chosen ↔ chosen = greedy :=
    fun chosen => ⟨fun hchosen => hchosen.unique hrun, fun heq => by rwa [heq]⟩
  have hclique := graph.isCliqueList_greedyFrom n (List.finRange n)
  have hdominating := graph.isDominating_greedyIndependentSet
  refine ⟨hends, hclique.nodup hgraph.complement, hclique.isIndepSet hgraph, hdominating,
    hdominating.le_length_mul hgraph, ?_, ?_, reachesGreedy_searchUnder hgraph⟩
  · rw [maximumIndependentSet_eq_searchUnder]
    exact graph.searchUnder_zero _
  · intro allowance
    rw [maximumIndependentSet_eq_searchUnder]
    exact reachesGreedy_searchUnder hgraph _ allowance

/-- Among these six vertices the greedy set is smaller than the largest
independent set.  A search that stops at once keeps it, one that may go on does
not. -/
theorem greedy_set_among_six :
    let edges : List (Nat × Nat) := [(0, 2), (0, 4), (1, 2), (1, 3), (1, 5), (3, 5), (4, 5)]
    let six : Adjacency 6 := .ofRel fun u v => (u.val, v.val) ∈ edges || (v.val, u.val) ∈ edges
    ∃ hsix : six.IsUndirected, six.greedyIndependentSet = [0, 1] ∧
      six.TakesGreedily (List.finRange 6) [0, 1] ∧
      6 ≤ 2 * ((six.simpleGraph hsix).maxDegree + 1) ∧
      six.maximumIndependentSet (some 0) =
        { best := [0, 1], allowance := some 0, stopped := true } ∧
      (six.maximumIndependentSet none).best.length = 3 := by
  intro edges six
  have hsix : six.IsUndirected := ⟨by decide, by decide⟩
  have hgreedy : six.greedyIndependentSet = [0, 1] := by decide
  obtain ⟨hends, -, -, -, hsize, hzero, -⟩ := greedy_set_seeds_search hsix
  rw [hgreedy] at hsize hzero
  exact ⟨hsix, hgreedy, (hends _).mpr hgreedy.symm, hsize, hzero, by decide⟩

end Adjacency
end SuspicionMonitor
