import SuspicionMonitor.Proofs.GraphRuns
import SuspicionMonitor.Proofs.OrderedSets

/-!
# The exclusion list

Who is excluded, and how many.  The greedy matching cannot be extended: each
mutually suspecting pair has an end in it.  The list holds the ends of the
matching and further replicas of mutually suspecting pairs, and clamping cuts
it to exactly the size that is allowed.
-/

namespace SuspicionMonitor
namespace SuspicionGraph

theorem suspectEachOther_comm (graph : SuspicionGraph) (u v : ReplicaId) :
    graph.suspectEachOther u v = graph.suspectEachOther v u := by
  unfold suspectEachOther
  exact Bool.and_comm _ _

theorem suspectEachOther_iff {graph : SuspicionGraph} {u v : ReplicaId} :
    graph.suspectEachOther u v = true ↔
      graph.suspects u v = true ∧ graph.suspects v u = true := by
  simp [suspectEachOther]

theorem mem_mutualPairs {graph : SuspicionGraph} {u v : ReplicaId} :
    (u, v) ∈ graph.mutualPairs ↔ u < v ∧ graph.suspectEachOther u v = true := by
  unfold mutualPairs
  rw [suspectEachOther_iff]
  constructor
  · intro hmem
    obtain ⟨edge, hedge, heq⟩ := List.mem_map.mp hmem
    obtain ⟨hkey, hcond⟩ := List.mem_filter.mp hedge
    simp only [Bool.and_eq_true, decide_eq_true_eq] at hcond
    obtain ⟨rfl, rfl⟩ := Prod.mk.inj heq
    have hforward : graph.suspects edge.reporter edge.suspect = true :=
      Std.ExtTreeMap.mem_iff_contains.mp (Std.ExtTreeMap.mem_keys.mp hkey)
    exact ⟨hcond.1, hforward, hcond.2⟩
  · rintro ⟨hlt, hforward, hback⟩
    refine List.mem_map.mpr ⟨⟨u, v⟩, List.mem_filter.mpr ⟨?_, ?_⟩, rfl⟩
    · exact Std.ExtTreeMap.mem_keys.mpr (Std.ExtTreeMap.mem_iff_contains.mpr hforward)
    · simp [hlt, hback]

theorem mem_triangles {graph : SuspicionGraph} {u v w : ReplicaId} :
    (u, v, w) ∈ graph.triangles ↔
      (u, v) ∈ graph.mutualPairs ∧ (u, w) ∈ graph.mutualPairs ∧
        (v, w) ∈ graph.mutualPairs := by
  simp only [triangles, List.mem_flatMap, List.mem_map, List.mem_filter, Prod.exists,
    Bool.and_eq_true, beq_iff_eq, decide_eq_true_eq, Prod.mk.injEq]
  constructor
  · rintro ⟨a, b, hab, x, y, ⟨hxy, ⟨rfl, hlt⟩, hmutual⟩, rfl, rfl, rfl⟩
    exact ⟨hab, hxy, mem_mutualPairs.mpr ⟨hlt, hmutual⟩⟩
  · rintro ⟨huv, huw, hvw⟩
    obtain ⟨hlt, hmutual⟩ := mem_mutualPairs.mp hvw
    exact ⟨u, v, huv, u, w, ⟨huw, ⟨rfl, hlt⟩, hmutual⟩, rfl, rfl, rfl⟩

theorem covers_iff {pairs : List ReplicaPair} {id : ReplicaId} :
    covers pairs id = true ↔ ∃ pair ∈ pairs, pair.1 = id ∨ pair.2 = id := by
  simp [covers]

theorem covers_takePair {matching : List ReplicaPair} {id : ReplicaId}
    (hcovers : covers matching id = true) (pair : ReplicaPair) :
    covers (takePair matching pair) id = true := by
  unfold takePair
  split
  · exact hcovers
  · obtain ⟨taken, htaken, hend⟩ := covers_iff.mp hcovers
    exact covers_iff.mpr ⟨taken, List.mem_cons_of_mem pair htaken, hend⟩

theorem covers_foldl_takePair {matching : List ReplicaPair} {id : ReplicaId}
    (hcovers : covers matching id = true) (pairs : List ReplicaPair) :
    covers (pairs.foldl takePair matching) id = true := by
  induction pairs generalizing matching with
  | nil => exact hcovers
  | cons pair pairs ih => exact ih (covers_takePair hcovers pair)

theorem covers_takePair_self (matching : List ReplicaPair) (pair : ReplicaPair) :
    covers (takePair matching pair) pair.1 = true ∨
      covers (takePair matching pair) pair.2 = true := by
  unfold takePair
  split
  next htaken => simpa using htaken
  next =>
    exact Or.inl (covers_iff.mpr ⟨pair, List.mem_cons_self, Or.inl rfl⟩)

theorem covers_foldl_takePair_of_mem {pairs : List ReplicaPair} {pair : ReplicaPair}
    (hpair : pair ∈ pairs) (matching : List ReplicaPair) :
    covers (pairs.foldl takePair matching) pair.1 = true ∨
      covers (pairs.foldl takePair matching) pair.2 = true := by
  induction pairs generalizing matching with
  | nil => contradiction
  | cons head pairs ih =>
      rw [List.foldl_cons]
      rcases List.mem_cons.mp hpair with rfl | hrest
      · exact (covers_takePair_self matching pair).imp
          (covers_foldl_takePair · pairs) (covers_foldl_takePair · pairs)
      · exact ih hrest (takePair matching head)

theorem mem_or_mem_of_mem_foldl_takePair {pairs matching : List ReplicaPair}
    {pair : ReplicaPair} (hpair : pair ∈ pairs.foldl takePair matching) :
    pair ∈ matching ∨ pair ∈ pairs := by
  induction pairs generalizing matching with
  | nil => exact Or.inl hpair
  | cons head pairs ih =>
      rcases ih hpair with htaken | hrest
      · unfold takePair at htaken
        split at htaken
        · exact Or.inl htaken
        · rcases List.mem_cons.mp htaken with rfl | hold
          · exact Or.inr List.mem_cons_self
          · exact Or.inl hold
      · exact Or.inr (List.mem_cons_of_mem head hrest)

theorem mutualPairs_of_mem_matching {graph : SuspicionGraph} {pair : ReplicaPair}
    (hpair : pair ∈ graph.matching) : pair ∈ graph.mutualPairs := by
  rcases mem_or_mem_of_mem_foldl_takePair hpair with hnil | hmem
  · contradiction
  · exact hmem

/-- The matching cannot be extended: of two replicas that suspect each other
at least one is matched. -/
theorem matching_covers {graph : SuspicionGraph} {u v : ReplicaId}
    (hmutual : graph.suspectEachOther u v = true) (hne : u ≠ v) :
    covers graph.matching u = true ∨ covers graph.matching v = true := by
  rcases UInt32.lt_or_lt_of_ne hne with hlt | hgt
  · exact covers_foldl_takePair_of_mem (mem_mutualPairs.mpr ⟨hlt, hmutual⟩) []
  · rw [suspectEachOther_comm] at hmutual
    exact (covers_foldl_takePair_of_mem (mem_mutualPairs.mpr ⟨hgt, hmutual⟩) []).symm

/-- The order in which the matching considers the pairs. -/
def PairBefore (first second : ReplicaPair) : Prop :=
  first.1 < second.1 ∨ first.1 = second.1 ∧ first.2 < second.2

theorem pairwise_mutualPairs (graph : SuspicionGraph) :
    graph.mutualPairs.Pairwise PairBefore := by
  unfold mutualPairs
  rw [List.pairwise_map]
  refine (graph.weights.ordered_keys.filter _).imp ?_
  intro first second hlt
  change compareLex (compareOn Edge.reporter) (compareOn Edge.suspect) first second = .lt at hlt
  simp only [compareLex, compareOn, Ordering.then_eq_lt] at hlt
  rcases hlt with hreporter | ⟨hreporter, hsuspect⟩
  · exact Or.inl (Std.compare_eq_lt.mp hreporter)
  · exact Or.inr ⟨Std.LawfulEqOrd.compare_eq_iff_eq.mp hreporter,
      Std.compare_eq_lt.mp hsuspect⟩

theorem mem_foldl_takePair_of_mem {matching : List ReplicaPair} {pair : ReplicaPair}
    (hpair : pair ∈ matching) (pairs : List ReplicaPair) :
    pair ∈ pairs.foldl takePair matching := by
  induction pairs generalizing matching with
  | nil => exact hpair
  | cons head pairs ih =>
      apply ih
      unfold takePair
      split
      · exact hpair
      · exact List.mem_cons_of_mem head hpair

/-- A pair that shares no end with the pairs taken before is taken. -/
theorem mem_greedyMatching_of_free {before later : List ReplicaPair} {pair : ReplicaPair}
    (hfree : ∀ taken ∈ greedyMatching before, ∀ id, pair.1 = id ∨ pair.2 = id →
      ¬ (taken.1 = id ∨ taken.2 = id)) :
    pair ∈ greedyMatching (before ++ pair :: later) := by
  have hopen : ∀ id, pair.1 = id ∨ pair.2 = id →
      covers (greedyMatching before) id = false := by
    intro id hend
    rw [← Bool.not_eq_true, covers_iff]
    rintro ⟨taken, htaken, hshared⟩
    exact hfree taken htaken id hend hshared
  have hsplit : greedyMatching (before ++ pair :: later) =
      later.foldl takePair (takePair (greedyMatching before) pair) := by
    rw [greedyMatching, List.foldl_append, List.foldl_cons]
    rfl
  rw [hsplit]
  apply mem_foldl_takePair_of_mem
  rw [takePair, hopen pair.1 (Or.inl rfl), hopen pair.2 (Or.inr rfl)]
  exact List.mem_cons_self

/-! ## Exclusions -/

theorem mem_exclusions {graph : SuspicionGraph} {id : ReplicaId} :
    id ∈ graph.exclusions ↔
      covers graph.matching id = true ∨
        ∃ u v w, (u, v, w) ∈ graph.triangles ∧
          ((u, v) ∈ graph.matching ∨ (u, w) ∈ graph.matching ∨ (v, w) ∈ graph.matching) ∧
          (id = u ∨ id = v ∨ id = w) := by
  unfold exclusions
  rw [Std.ExtTreeSet.mem_ofList, List.contains_iff_mem, List.mem_append, covers_iff]
  apply or_congr
  · simp only [List.mem_flatMap, List.mem_cons, List.not_mem_nil, or_false, Prod.exists]
    simp only [eq_comm]
  · simp only [List.mem_flatMap, Prod.exists, Bool.or_eq_true, List.contains_iff_mem]
    constructor
    · rintro ⟨u, v, w, htriangle, hid⟩
      split at hid
      next hmatched =>
        exact ⟨u, v, w, htriangle, or_assoc.mp hmatched, by simpa using hid⟩
      next => contradiction
    · rintro ⟨u, v, w, htriangle, hmatched, hid⟩
      refine ⟨u, v, w, htriangle, ?_⟩
      rw [if_pos (or_assoc.mpr hmatched)]
      simpa using hid

/-- Nobody is excluded who suspects nobody that suspects him as well. -/
theorem exists_suspectEachOther_of_mem_exclusions {graph : SuspicionGraph} {id : ReplicaId}
    (hid : id ∈ graph.exclusions) : ∃ other, graph.suspectEachOther id other = true := by
  have hpair : ∀ {u v}, (u, v) ∈ graph.mutualPairs →
      graph.suspectEachOther u v = true ∧ graph.suspectEachOther v u = true := by
    intro u v hmem
    have hmutual := (mem_mutualPairs.mp hmem).2
    exact ⟨hmutual, by rwa [suspectEachOther_comm]⟩
  rcases mem_exclusions.mp hid with hcovers | ⟨u, v, w, htriangle, _, hcorner⟩
  · obtain ⟨⟨u, v⟩, hmem, hend⟩ := covers_iff.mp hcovers
    have hmutual := hpair (mutualPairs_of_mem_matching hmem)
    rcases hend with rfl | rfl
    · exact ⟨v, hmutual.1⟩
    · exact ⟨u, hmutual.2⟩
  · obtain ⟨huv, huw, _⟩ := mem_triangles.mp htriangle
    rcases hcorner with rfl | rfl | rfl
    · exact ⟨v, (hpair huv).1⟩
    · exact ⟨u, (hpair huv).2⟩
    · exact ⟨u, (hpair huw).2⟩

theorem releaseOrder_perm (graph : SuspicionGraph) (excluded : Std.ExtTreeSet ReplicaId) :
    (graph.releaseOrder excluded).Perm excluded.toList := by
  have hsort := List.mergeSort_perm
    (excluded.toList.map fun id => (graph.inDegree id, id)) releasedBefore
  simpa [releaseOrder, Function.comp_def] using hsort.map Prod.snd

theorem nodup_released (graph : SuspicionGraph) (excluded : Std.ExtTreeSet ReplicaId) :
    (graph.released excluded).Nodup := by
  have hnodup : (graph.releaseOrder excluded).Nodup :=
    (graph.releaseOrder_perm excluded).nodup_iff.mpr (OrderedSet.nodup_toList excluded)
  exact hnodup.sublist (List.take_sublist _ _)

theorem mem_of_mem_released {graph : SuspicionGraph} {excluded : Std.ExtTreeSet ReplicaId}
    {id : ReplicaId} (hid : id ∈ graph.released excluded) : id ∈ excluded := by
  have horder : id ∈ graph.releaseOrder excluded := List.mem_of_mem_take hid
  exact Std.ExtTreeSet.mem_toList.mp ((graph.releaseOrder_perm excluded).mem_iff.mp horder)

theorem length_released (graph : SuspicionGraph) (excluded : Std.ExtTreeSet ReplicaId) :
    (graph.released excluded).length = excluded.size - graph.view.maxExclusions := by
  unfold released
  rw [List.length_take, (graph.releaseOrder_perm excluded).length_eq,
    Std.ExtTreeSet.length_toList]
  omega

theorem mem_clampExclusions {graph : SuspicionGraph} {excluded : Std.ExtTreeSet ReplicaId}
    {id : ReplicaId} :
    id ∈ graph.clampExclusions excluded ↔ id ∈ excluded ∧ id ∉ graph.released excluded :=
  OrderedSet.mem_foldl_erase

theorem size_clampExclusions (graph : SuspicionGraph) (excluded : Std.ExtTreeSet ReplicaId) :
    (graph.clampExclusions excluded).size = min excluded.size graph.view.maxExclusions := by
  have hsize : (graph.clampExclusions excluded).size + (graph.released excluded).length =
      excluded.size :=
    OrderedSet.size_foldl_erase (graph.nodup_released excluded)
      (fun _ hid => mem_of_mem_released hid)
  rw [length_released] at hsize
  omega

theorem clampExclusions_eq_self {graph : SuspicionGraph} {excluded : Std.ExtTreeSet ReplicaId}
    (hsize : excluded.size ≤ graph.view.maxExclusions) :
    graph.clampExclusions excluded = excluded := by
  have hnone : graph.released excluded = [] := by
    apply List.eq_nil_of_length_eq_zero
    rw [length_released]
    omega
  simp [clampExclusions, hnone]

end SuspicionGraph
end SuspicionMonitor
