import SuspicionMonitor.Proofs.MaximumCandidates

/-!
# Candidates that do not suspect each other

Two replicas that suspect each other are both candidates only if excluded
replicas had to be released, and then there are no more candidates than the
floor asks for.

The matching leaves no mutually suspecting pair untouched, so the heuristic
candidates are independent as long as none is released.  The search starts
from an independent set and replaces it by longer ones only, so what it
answers is independent as well, whenever it is stopped.
-/

namespace SuspicionMonitor

namespace Adjacency

variable {n : Nat}

/-- The best clique is kept, or one of the leaves takes its place that is
longer. -/
def Improves (leaves : List (List (Fin n))) (before after : List (Fin n)) : Prop :=
  after = before ∨ after ∈ leaves ∧ before.length < after.length

theorem Improves.append {first second : List (List (Fin n))} {before between after : List (Fin n)}
    (hfirst : Improves first before between) (hsecond : Improves second between after) :
    Improves (first ++ second) before after := by
  rcases hsecond with rfl | ⟨hleaf, hlonger⟩
  · exact hfirst.imp_right fun ⟨hleaf, hlonger⟩ => ⟨List.mem_append_left second hleaf, hlonger⟩
  · refine Or.inr ⟨List.mem_append_right first hleaf, ?_⟩
    rcases hfirst with rfl | ⟨-, hbefore⟩
    · exact hlonger
    · exact hbefore.trans hlonger

theorem improves_visitOver {graph : Adjacency n}
    {visit : Search n → (clique candidates excluded : List (Fin n)) → Search n}
    {below : (clique candidates excluded : List (Fin n)) → List (List (Fin n))}
    (hvisit : ∀ search clique candidates excluded,
      Improves (below clique candidates excluded) search.best
        (visit search clique candidates excluded).best)
    (clique branches : List (Fin n)) (search : Search n) (candidates excluded : List (Fin n)) :
    Improves (graph.leavesOver below clique branches candidates excluded) search.best
      (graph.visitOver visit clique branches search candidates excluded).best := by
  induction branches generalizing search candidates excluded with
  | nil => exact Or.inl rfl
  | cons v branches ih => exact (hvisit _ _ _ _).append (ih _ _ _)

theorem improves_expandUnder (graph : Adjacency n) (bound : List (Fin n) → Nat) (depth : Nat)
    (search : Search n) (clique candidates excluded : List (Fin n)) :
    Improves (graph.leaves depth clique candidates excluded) search.best
      (graph.expandUnder bound depth search clique candidates excluded).best := by
  induction depth generalizing search clique candidates excluded with
  | zero => exact Or.inl rfl
  | succ depth ih =>
      unfold expandUnder
      by_cases hstopped : search.stopped = true
      · rw [if_pos hstopped]
        exact Or.inl rfl
      by_cases hallowance : search.allowance = some 0
      · rw [if_neg hstopped, if_pos hallowance]
        exact Or.inl rfl
      rw [if_neg hstopped, if_neg hallowance]
      by_cases hcandidates : candidates.isEmpty = true
      · simp only [if_pos hcandidates, leaves]
        by_cases hleaf : (excluded.isEmpty && search.best.length < clique.length) = true
        · obtain ⟨hexcluded, hlonger⟩ := Bool.and_eq_true_iff.mp hleaf
          rw [if_pos hleaf, if_pos hexcluded]
          exact Or.inr ⟨List.mem_singleton_self clique, of_decide_eq_true hlonger⟩
        · rw [if_neg hleaf]
          exact Or.inl rfl
      · simp only [if_neg hcandidates, leaves]
        by_cases hcut : clique.length + bound candidates ≤ search.best.length
        · rw [if_pos hcut]
          exact Or.inl rfl
        · rw [if_neg hcut]
          exact improves_visitOver ih clique _ _ candidates excluded

theorem improves_searchUnder (graph : Adjacency n) (bound : List (Fin n) → Nat)
    (allowance : Option Nat) :
    Improves (graph.complement.leaves (n + 1) [] (List.finRange n) []) graph.greedyIndependentSet
      (graph.searchUnder bound allowance).best :=
  graph.complement.improves_expandUnder bound (n + 1) _ [] (List.finRange n) []

theorem isCliqueList_searchUnder {graph : Adjacency n} (hgraph : graph.IsUndirected)
    (bound : List (Fin n) → Nat) (allowance : Option Nat) :
    graph.complement.IsCliqueList (graph.searchUnder bound allowance).best := by
  rcases graph.improves_searchUnder bound allowance with hkept | ⟨hleaf, -⟩
  · rw [hkept]
    exact graph.isCliqueList_greedyFrom n (List.finRange n)
  · obtain ⟨added, hadded, -, hclique⟩ := exists_added_of_mem_leaves hgraph.complement hleaf
    rw [hadded, List.append_nil]
    exact hclique

theorem IsCliqueList.isIndepSet {graph : Adjacency n} (hgraph : graph.IsUndirected)
    {vertices : List (Fin n)} (hvertices : graph.complement.IsCliqueList vertices) :
    (graph.simpleGraph hgraph).IsIndepSet (vertices.toFinset : Set (Fin n)) := by
  have hclique := hvertices.isClique hgraph.complement
  rwa [simpleGraph_complement hgraph, SimpleGraph.isClique_compl] at hclique

theorem isIndepSet_best {graph : Adjacency n} (hgraph : graph.IsUndirected)
    (allowance : Option Nat) :
    (graph.simpleGraph hgraph).IsIndepSet
      ((graph.maximumIndependentSet allowance).best.toFinset : Set (Fin n)) := by
  rw [maximumIndependentSet_eq_searchUnder]
  exact (isCliqueList_searchUnder hgraph _ allowance).isIndepSet hgraph

end Adjacency

namespace SuspicionGraph

theorem isIndependent_independentCandidates {graph : SuspicionGraph} (hproper : graph.IsProper)
    (hids : graph.view.n ≤ UInt32.size) (allowance : Option Nat) :
    graph.IsIndependent (graph.independentCandidates allowance).ids.toFinset := by
  rw [toFinset_independentCandidates]
  exact (isIndependent_image_vertexId hproper hids _).mpr
    (Adjacency.isIndepSet_best (isUndirected_mutualAdjacency hproper) allowance)

theorem mem_exclusions_or_of_suspectEachOther {graph : SuspicionGraph} (hproper : graph.IsProper)
    {u v : ReplicaId} (hmutual : graph.suspectEachOther u v = true) :
    u ∈ graph.exclusions ∨ v ∈ graph.exclusions := by
  have hne : u ≠ v := hproper.ne (suspectEachOther_iff.mp hmutual).1
  rcases matching_covers hmutual hne with hu | hv
  · exact Or.inl (mem_exclusions.mpr (Or.inl hu))
  · exact Or.inr (mem_exclusions.mpr (Or.inl hv))

theorem isIndependent_heuristicCandidates {graph : SuspicionGraph} (hproper : graph.IsProper)
    (hsize : graph.exclusions.size ≤ graph.view.maxExclusions) :
    graph.IsIndependent graph.heuristicCandidates.toFinset := by
  have hkept : ∀ id ∈ graph.heuristicCandidates.toFinset,
      id ∈ graph.view.replicas ∧ id ∉ graph.exclusions := by
    intro id hid
    rw [List.mem_toFinset, mem_heuristicCandidates, clampExclusions_eq_self hsize] at hid
    exact hid
  constructor
  · intro id hid
    exact View.contains_of_mem_replicas (hkept id hid).1
  · intro u hu v hv
    by_contra hmutual
    rcases mem_exclusions_or_of_suspectEachOther hproper (by simpa using hmutual) with hout | hout
    · exact (hkept u hu).2 hout
    · exact (hkept v hv).2 hout

theorem contains_of_mem_exclusions {graph : SuspicionGraph} (hproper : graph.IsProper)
    {id : ReplicaId} (hid : id ∈ graph.exclusions) : graph.view.contains id = true := by
  obtain ⟨other, hmutual⟩ := exists_suspectEachOther_of_mem_exclusions hid
  exact hproper.reporter_mem (suspectEachOther_iff.mp hmutual).1

theorem size_exclusions_le (graph : SuspicionGraph) : graph.exclusions.size ≤ UInt32.size := by
  have hnodup : (graph.exclusions.toList.map UInt32.toFin).Nodup :=
    (OrderedSet.nodup_toList graph.exclusions).map fun _ _ heq => UInt32.toFin_inj.mp heq
  have hcard := hnodup.length_le_card
  rwa [List.length_map, Std.ExtTreeSet.length_toList, Fintype.card_fin] at hcard

theorem size_clampExclusions_le {graph : SuspicionGraph} (hproper : graph.IsProper)
    (hids : graph.view.n < UInt32.size) :
    (graph.clampExclusions graph.exclusions).size ≤
      (graph.view.replicas.filter (graph.clampExclusions graph.exclusions).contains).length := by
  apply OrderedSet.size_le_length
  intro id hid
  have hview := contains_of_mem_exclusions hproper (mem_clampExclusions.mp hid).1
  have hlisted : id ∈ graph.view.replicas := by
    rw [View.mem_replicas, Nat.mod_eq_of_lt hids]
    simpa [View.contains] using hview
  exact List.mem_filter.mpr ⟨hlisted, Std.ExtTreeSet.mem_iff_contains.mp hid⟩

/-- If replicas are released, no more candidates are left than the floor asks
for. -/
theorem length_heuristicCandidates_le {graph : SuspicionGraph} (hproper : graph.IsProper)
    (hsize : graph.view.maxExclusions < graph.exclusions.size) :
    graph.heuristicCandidates.length ≤ graph.view.candidateFloor := by
  have hview := graph.view.maxExclusions_add_candidateFloor
  by_cases hids : graph.view.n < UInt32.size
  · have hsplit := graph.length_heuristicCandidates_add
    have hremoved := size_clampExclusions_le hproper hids
    rw [size_clampExclusions, Nat.min_eq_right hsize.le] at hremoved
    rw [View.length_replicas, Nat.mod_eq_of_lt hids] at hsplit
    omega
  · -- Ids wrap around: of so large a view no more than `f` replicas are listed.
    have hall := graph.size_exclusions_le
    have hlisted : graph.heuristicCandidates.length ≤ graph.view.n % UInt32.size := by
      rw [← View.length_replicas]
      exact List.length_filter_le _ _
    have hbound := graph.view.bound
    unfold View.maxExclusions View.candidateFloor at *
    have hover : graph.view.n % UInt32.size = graph.view.n - UInt32.size := by
      rw [Nat.mod_eq_sub_mod (by omega), Nat.mod_eq_of_lt (by omega)]
    omega

/-! ## Both strategies -/

/-- The independent set that the search has found is large enough to be the
answer. -/
structure SearchAnswers (graph : SuspicionGraph) (settings : GraphSettings)
    (inTime : Option Nat := none) : Prop where
  searches : settings.searches graph.view.n = true
  enough : graph.view.candidateFloor ≤
    (graph.independentCandidates (settings.searchAllowance inTime)).ids.length

theorem SearchAnswers.candidates_eq {graph : SuspicionGraph} {settings : GraphSettings}
    {inTime : Option Nat} (hanswers : graph.SearchAnswers settings inTime) :
    graph.candidates settings inTime =
      graph.independentCandidates (settings.searchAllowance inTime) := by
  rw [candidates, if_pos hanswers.searches]
  exact if_pos hanswers.enough

theorem SearchAnswers.isIndependent {graph : SuspicionGraph} (hproper : graph.IsProper)
    {settings : GraphSettings} {inTime : Option Nat}
    (hanswers : graph.SearchAnswers settings inTime) :
    graph.IsIndependent (graph.candidates settings inTime).ids.toFinset := by
  have hids : graph.view.n ≤ UInt32.size :=
    (searches_le hanswers.searches).trans (by decide)
  rw [hanswers.candidates_eq]
  exact isIndependent_independentCandidates hproper hids _

theorem isIndependent_candidates_of_lt {graph : SuspicionGraph} (hproper : graph.IsProper)
    {settings : GraphSettings} {inTime : Option Nat}
    (hmany : graph.view.candidateFloor < (graph.candidates settings inTime).ids.length) :
    graph.IsIndependent (graph.candidates settings inTime).ids.toFinset := by
  rcases graph.ids_candidates settings inTime with hheuristic | ⟨hsearch, hfound, henough⟩
  · rw [hheuristic] at hmany ⊢
    apply isIndependent_heuristicCandidates hproper
    by_contra hreleased
    have hfew := length_heuristicCandidates_le hproper (Nat.lt_of_not_le hreleased)
    omega
  · rw [hfound] at henough
    exact SearchAnswers.isIndependent hproper ⟨hsearch, henough⟩

/-- If there are more candidates than the floor asks for, no two of them
suspect each other.  With the exhaustive strategy this is so for exactly as
many as well if the search has supplied them, completed or stopped. -/
theorem candidates_suspect_no_candidate (start : View) (calls : List GraphCall)
    (settings : GraphSettings) (inTime : Option Nat) (ids : List ReplicaId)
    (hids : ((after start calls).candidateSet? settings inTime).value = some ids)
    (hmany : (after start calls).view.candidateFloor < ids.length ∨
      (after start calls).SearchAnswers settings inTime) :
    (after start calls).IsIndependent ids.toFinset := by
  have hproper := isProper_after start calls
  rw [value_candidateSet?] at hids
  obtain ⟨-, hids⟩ := Option.ite_none_right_eq_some.mp hids
  obtain rfl : ((after start calls).candidates settings inTime).ids = ids := Option.some.inj hids
  rcases hmany with hmany | hanswers
  · exact isIndependent_candidates_of_lt hproper hmany
  · exact hanswers.isIndependent hproper

/-- Seven replicas of which two suspect each other, and four in a ring of
mutual suspicion, searched without time. -/
theorem candidates_beside_pair_and_in_ring :
    let pair := after ⟨7, 2, by decide⟩ [.add 0 1, .add 1 0]
    let accusations : List GraphCall :=
      [.add 0 1, .add 1 0, .add 1 2, .add 2 1, .add 2 3, .add 3 2, .add 3 0, .add 0 3]
    let ring := after ⟨4, 1, by decide⟩ accusations
    let settings : GraphSettings :=
      { GraphSettings.standard with strategy := .exhaustive, exhaustiveBudget := 0 }
    (pair.candidateSet? .standard).value = some [2, 3, 4, 5, 6] ∧
      pair.IsIndependent {2, 3, 4, 5, 6} ∧
      (ring.candidateSet? settings).value = some [0, 2] ∧ ring.IsIndependent {0, 2} := by
  intro pair accusations ring settings
  have hpair : (pair.candidateSet? .standard).value = some [2, 3, 4, 5, 6] := by decide +kernel
  have hring : (ring.candidateSet? settings).value = some [0, 2] := by decide +kernel
  have hanswers : ring.SearchAnswers settings := ⟨by decide +kernel, by decide +kernel⟩
  exact ⟨hpair,
    candidates_suspect_no_candidate ⟨7, 2, by decide⟩ _ _ _ _ hpair (Or.inl (by decide +kernel)),
    hring, candidates_suspect_no_candidate _ accusations settings _ _ hring (Or.inr hanswers)⟩

end SuspicionGraph

end SuspicionMonitor
