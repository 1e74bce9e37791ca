import SuspicionMonitor.Proofs.HonestExclusions
import SuspicionMonitor.Proofs.StrategyComparison

/-!
# The exclusions in closed form

Who is excluded follows from the mutually suspecting pairs and the in-degrees,
whatever the order in which pairs and triangles are found.  Exactly one set of
pairs satisfies the greedy rule: the matching.  Excluded are the ends of its
pairs and whoever is suspicious of both ends of a pair and suspected by them.
If these are too many, the least suspected of them are let off.
-/

namespace SuspicionMonitor

namespace SuspicionGraph

def ShareEnd (first second : ReplicaPair) : Prop :=
  ∃ id, (first.1 = id ∨ first.2 = id) ∧ (second.1 = id ∨ second.2 = id)

/-- A mutually suspecting pair is taken exactly if no pair taken before it has
an end in common with it. -/
def IsGreedy (graph : SuspicionGraph) (taken : Set ReplicaPair) : Prop :=
  ∀ pair, pair ∈ taken ↔
    pair.1 < pair.2 ∧ graph.suspectEachOther pair.1 pair.2 = true ∧
      ∀ earlier ∈ taken, PairBefore earlier pair → ¬ ShareEnd earlier pair

theorem wellFounded_pairBefore : WellFounded PairBefore := by
  have hlex : WellFounded (Prod.Lex (· < ·) (· < ·) : ℕ × ℕ → ℕ × ℕ → Prop) :=
    wellFounded_lt.prod_lex wellFounded_lt
  refine Subrelation.wf ?_ (InvImage.wf (fun pair => (pair.1.toNat, pair.2.toNat)) hlex)
  rintro ⟨low, high⟩ ⟨_, _⟩ (hlow | ⟨rfl, hhigh⟩)
  · exact Prod.Lex.left _ _ hlow
  · exact Prod.Lex.right low.toNat hhigh

theorem pairBefore_irrefl (pair : ReplicaPair) : ¬ PairBefore pair pair :=
  wellFounded_pairBefore.irrefl.irrefl pair

/-- Which pairs are taken is decided from the least pair upwards. -/
theorem IsGreedy.eq {graph : SuspicionGraph} {first second : Set ReplicaPair}
    (hfirst : graph.IsGreedy first) (hsecond : graph.IsGreedy second) : first = second := by
  have hiff : ∀ pair, pair ∈ first ↔ pair ∈ second := by
    intro pair
    induction pair using wellFounded_pairBefore.induction with
    | _ pair ih =>
        rw [hfirst pair, hsecond pair]
        refine and_congr_right fun _ => and_congr_right fun _ => forall_congr' fun earlier => ?_
        constructor
        · exact fun hfree hmem hbefore => hfree ((ih earlier hbefore).mpr hmem) hbefore
        · exact fun hfree hmem hbefore => hfree ((ih earlier hbefore).mp hmem) hbefore
  exact Set.ext hiff

theorem isGreedy_matching (graph : SuspicionGraph) :
    graph.IsGreedy {pair | pair ∈ graph.matching} := by
  intro pair
  rw [Set.mem_ofPred_eq, ← and_assoc, ← mem_mutualPairs]
  constructor
  · intro htaken
    refine ⟨mutualPairs_of_mem_matching htaken, ?_⟩
    rintro earlier hearlier hbefore ⟨id, hend, hshared⟩
    have heq := graph.isMatching_matching earlier hearlier pair htaken id hend hshared
    rw [heq] at hbefore
    exact pairBefore_irrefl pair hbefore
  · rintro ⟨hpair, hfree⟩
    rcases List.append_of_mem hpair with ⟨before, later, hsplit⟩
    have hsorted := graph.pairwise_mutualPairs
    rw [hsplit] at hsorted
    have hearlier : ∀ earlier ∈ before, PairBefore earlier pair := fun earlier hmem =>
      (List.pairwise_append.mp hsorted).2.2 earlier hmem pair List.mem_cons_self
    unfold matching at hfree ⊢
    rw [hsplit] at hfree ⊢
    apply mem_greedyMatching_of_free
    intro taken htaken id hend hshared
    have hkept : taken ∈ greedyMatching (before ++ pair :: later) := by
      rw [greedyMatching, List.foldl_append]
      exact mem_foldl_takePair_of_mem htaken (pair :: later)
    have hbefore : taken ∈ before :=
      (mem_or_mem_of_mem_foldl_takePair htaken).resolve_left List.not_mem_nil
    exact hfree taken hkept (hearlier taken hbefore) ⟨id, hshared, hend⟩

/-! ## The exclusion list -/

/-- The ends of the pairs, and all who suspect both ends of a pair and are
suspected by them. -/
def implicated (graph : SuspicionGraph) (taken : Set ReplicaPair) : Set ReplicaId :=
  {id | (∃ pair ∈ taken, pair.1 = id ∨ pair.2 = id) ∨
    ∃ pair ∈ taken, graph.suspectEachOther id pair.1 = true ∧
      graph.suspectEachOther id pair.2 = true}

theorem mem_exclusions_of_corner {graph : SuspicionGraph} {pair : ReplicaPair} {id : ReplicaId}
    (hpair : pair ∈ graph.matching) (hfirst : graph.suspectEachOther id pair.1 = true)
    (hsecond : graph.suspectEachOther id pair.2 = true) : id ∈ graph.exclusions := by
  rw [mem_exclusions]
  by_cases hend : pair.1 = id ∨ pair.2 = id
  · exact Or.inl (covers_iff.mpr ⟨pair, hpair, hend⟩)
  right
  obtain ⟨hnu, hnv⟩ := not_or.mp hend
  have huv : pair ∈ graph.mutualPairs := mutualPairs_of_mem_matching hpair
  have hmutual : ∀ {u v : ReplicaId}, u < v → graph.suspectEachOther u v = true →
      (u, v) ∈ graph.mutualPairs := fun hlt hboth => mem_mutualPairs.mpr ⟨hlt, hboth⟩
  have hback : ∀ {u : ReplicaId}, graph.suspectEachOther id u = true →
      graph.suspectEachOther u id = true := fun hboth => by rwa [suspectEachOther_comm]
  -- The three corners in ascending order.
  rcases UInt32.lt_or_lt_of_ne hnu with hu | hu
  · rcases UInt32.lt_or_lt_of_ne hnv with hv | hv
    · exact ⟨pair.1, pair.2, id, mem_triangles.mpr ⟨huv, hmutual hu (hback hfirst),
        hmutual hv (hback hsecond)⟩, Or.inl hpair, by simp⟩
    · exact ⟨pair.1, id, pair.2, mem_triangles.mpr ⟨hmutual hu (hback hfirst), huv,
        hmutual hv hsecond⟩, Or.inr (Or.inl hpair), by simp⟩
  · have hv : id < pair.2 := UInt32.lt_trans hu (mem_mutualPairs.mp huv).1
    exact ⟨id, pair.1, pair.2, mem_triangles.mpr ⟨hmutual hu hfirst, hmutual hv hsecond, huv⟩,
      Or.inr (Or.inr hpair), by simp⟩

theorem implicated_matching (graph : SuspicionGraph) :
    graph.implicated {pair | pair ∈ graph.matching} = {id | id ∈ graph.exclusions} := by
  ext id
  constructor
  · rintro (⟨pair, hpair, hend⟩ | ⟨pair, hpair, hfirst, hsecond⟩)
    · exact mem_exclusions.mpr (Or.inl (covers_iff.mpr ⟨pair, hpair, hend⟩))
    · exact mem_exclusions_of_corner hpair hfirst hsecond
  · intro hid
    rcases matched_or_corner_of_mem_exclusions hid with hcovers | ⟨u, v, hpair, -, -, hu, hv⟩
    · exact Or.inl (covers_iff.mp hcovers)
    · exact Or.inr ⟨(u, v), hpair, hu, hv⟩

/-- Fewer replicas suspect the first one, or as many and its id is lower. -/
def LessSuspected (graph : SuspicionGraph) (first second : ReplicaId) : Prop :=
  graph.inDegree first < graph.inDegree second ∨
    graph.inDegree first = graph.inDegree second ∧ first < second

instance (graph : SuspicionGraph) : DecidableRel graph.LessSuspected :=
  fun _ _ => inferInstanceAs (Decidable (_ ∨ _))

theorem LessSuspected.asymm {graph : SuspicionGraph} {first second : ReplicaId}
    (hless : graph.LessSuspected first second) : ¬ graph.LessSuspected second first := by
  unfold LessSuspected at *
  rw [UInt32.lt_iff_toNat_lt] at *
  omega

/-- Those of the replicas that fewer than `count` of them are less suspected
than. -/
def leastSuspected (graph : SuspicionGraph) (count : ℕ) (ids : Set ReplicaId) : Set ReplicaId :=
  {id ∈ ids | {other ∈ ids | graph.LessSuspected other id}.ncard < count}

theorem pairwise_releaseOrder (graph : SuspicionGraph) (excluded : Std.ExtTreeSet ReplicaId) :
    (graph.releaseOrder excluded).Pairwise graph.LessSuspected := by
  have htrans : ∀ a b c : ℕ × ReplicaId, releasedBefore a b = true →
      releasedBefore b c = true → releasedBefore a c = true := by
    intro a b c
    simp only [releasedBefore, Bool.or_eq_true, Bool.and_eq_true, decide_eq_true_eq, beq_iff_eq,
      UInt32.le_iff_toNat_le]
    omega
  have htotal : ∀ a b : ℕ × ReplicaId, (releasedBefore a b || releasedBefore b a) = true := by
    intro a b
    simp only [releasedBefore, Bool.or_eq_true, Bool.and_eq_true, decide_eq_true_eq, beq_iff_eq,
      UInt32.le_iff_toNat_le]
    omega
  set ranked := excluded.toList.map fun id => (graph.inDegree id, id) with hranked
  have hsorted := List.pairwise_mergeSort htrans htotal ranked
  have hnodup : (graph.releaseOrder excluded).Nodup :=
    (graph.releaseOrder_perm excluded).nodup_iff.mpr (OrderedSet.nodup_toList excluded)
  have hrank : ∀ entry ∈ ranked.mergeSort releasedBefore, entry.1 = graph.inDegree entry.2 := by
    intro entry hentry
    rcases List.mem_map.mp ((List.mergeSort_perm _ _).mem_iff.mp hentry) with ⟨id, -, rfl⟩
    rfl
  rw [releaseOrder, List.Nodup, List.pairwise_map] at hnodup
  rw [releaseOrder, List.pairwise_map]
  refine (hsorted.and hnodup).imp_of_mem ?_
  rintro first second hfirst hsecond ⟨hle, hne⟩
  have hfirst := hrank first hfirst
  have hsecond := hrank second hsecond
  simp only [releasedBefore, Bool.or_eq_true, Bool.and_eq_true, decide_eq_true_eq, beq_iff_eq,
    hfirst, hsecond] at hle
  exact hle.imp_right fun htie => ⟨htie.1, UInt32.lt_of_le_of_ne htie.2 hne⟩

theorem released_eq_leastSuspected (graph : SuspicionGraph)
    (excluded : Std.ExtTreeSet ReplicaId) :
    {id | id ∈ graph.released excluded} =
      graph.leastSuspected (excluded.size - graph.view.maxExclusions) {id | id ∈ excluded} := by
  ext id
  simp only [leastSuspected, Set.mem_ofPred_eq]
  rw [← and_iff_right_of_imp mem_of_mem_released]
  refine and_congr_right fun hid => ?_
  have horder : id ∈ graph.releaseOrder excluded :=
    (graph.releaseOrder_perm excluded).mem_iff.mpr (Std.ExtTreeSet.mem_toList.mpr hid)
  rw [released, OrderedSet.mem_take_iff_countP_lt (fun _ _ => LessSuspected.asymm)
    (graph.pairwise_releaseOrder excluded) horder, (graph.releaseOrder_perm excluded).countP_eq,
    OrderedSet.ncard_setOf_mem]

/-- The replicas to exclude: all who are implicated if there is room for them,
and otherwise all but the least suspected that are too many. -/
def exclusionSet (graph : SuspicionGraph) (taken : Set ReplicaPair) : Set ReplicaId :=
  if (graph.implicated taken).ncard ≤ graph.view.maxExclusions then
    graph.implicated taken
  else
    graph.implicated taken \
      graph.leastSuspected ((graph.implicated taken).ncard - graph.view.maxExclusions)
        (graph.implicated taken)

theorem ncard_implicated_matching (graph : SuspicionGraph) :
    (graph.implicated {pair | pair ∈ graph.matching}).ncard = graph.exclusions.size := by
  have hall := OrderedSet.ncard_setOf_mem graph.exclusions fun _ => True
  rw [implicated_matching]
  simpa [Std.ExtTreeSet.length_toList] using hall

theorem exclusionSet_matching (graph : SuspicionGraph) :
    graph.exclusionSet {pair | pair ∈ graph.matching} =
      {id | id ∈ graph.clampExclusions graph.exclusions} := by
  unfold exclusionSet
  rw [ncard_implicated_matching, implicated_matching, ← released_eq_leastSuspected]
  split
  next hroom => rw [clampExclusions_eq_self hroom]
  next =>
    ext id
    simp [mem_clampExclusions]

/-- The candidates are the listed replicas outside the exclusion set. -/
structure AreLeftBy (graph : SuspicionGraph) (taken : Set ReplicaPair) (ids : List ReplicaId) :
    Prop where
  ascending : ids.Pairwise (· < ·)
  left_iff : ∀ id, id ∈ ids ↔ graph.view.contains id = true ∧ id ∉ graph.exclusionSet taken
  floor : graph.view.maxExclusions < (graph.implicated taken).ncard →
    ids.length = graph.view.candidateFloor

theorem areLeftBy_heuristicCandidates {graph : SuspicionGraph} (hproper : graph.IsProper)
    (hids : graph.view.n < UInt32.size) :
    graph.AreLeftBy {pair | pair ∈ graph.matching} graph.heuristicCandidates := by
  constructor
  · exact graph.view.pairwise_replicas.filter _
  · intro id
    rw [mem_heuristicCandidates, View.mem_replicas, Nat.mod_eq_of_lt hids, exclusionSet_matching]
    simp [View.contains]
  · intro hmany
    rw [ncard_implicated_matching] at hmany
    exact Nat.le_antisymm (length_heuristicCandidates_le hproper hmany)
      (candidateFloor_le_heuristicCandidates hids)

theorem not_mem_exclusionSet_of_empty (view : View) (id : ReplicaId) :
    id ∉ (empty view).exclusionSet {pair | pair ∈ (empty view).matching} := by
  rw [exclusionSet_matching]
  intro hid
  rcases exists_suspectEachOther_of_mem_exclusions (mem_clampExclusions.mp hid).1 with
    ⟨other, hmutual⟩
  simp [suspectEachOther, suspects_empty] at hmutual

/-- In every graph that a run leaves behind in the view exactly one set of pairs
is closed under the greedy rule, and the heuristic candidates are the view
without the exclusions of that set, exactly if 32-bit ids can name all replicas
of the view. -/
theorem heuristic_keeps_all_but_exclusion_set_iff (view : View) :
    (∀ (start : View) (calls : List GraphCall) (settings : GraphSettings),
        let graph := after start calls
        graph.view = view →
        ∃ taken, (∀ other, graph.IsGreedy other ↔ other = taken) ∧
          ∃ ids, (graph.candidateSet? { settings with strategy := .heuristic }).value = some ids ∧
            graph.AreLeftBy taken ids) ↔
      view.n < UInt32.size := by
  constructor
  · intro hall
    by_contra hids
    have hwrap : view.n % UInt32.size < UInt32.size := Nat.mod_lt _ (by decide)
    -- The least id that is not listed, in a graph without edges.
    let id : ReplicaId := UInt32.ofNat (view.n % UInt32.size)
    have hid : id.toNat = view.n % UInt32.size := UInt32.toNat_ofNat_of_lt' hwrap
    have hmember : view.contains id = true := by
      simp only [View.contains, hid, decide_eq_true_eq]
      omega
    rcases hall view [] .standard rfl with ⟨taken, htaken, ids, hvalue, hleft⟩
    obtain rfl := (htaken _).mp (isGreedy_matching _)
    have hlisted : id ∈ ids :=
      (hleft.left_iff id).mpr ⟨hmember, not_mem_exclusionSet_of_empty view id⟩
    rw [← ids_candidates_of_value_candidateSet? hvalue, candidates_heuristic,
      mem_heuristicCandidates, View.mem_replicas] at hlisted
    rw [hid] at hlisted
    exact absurd hlisted.1 (lt_irrefl _)
  · intro hids start calls settings graph hview
    rw [← hview] at hids
    refine ⟨{pair | pair ∈ graph.matching}, ?_, graph.heuristicCandidates, ?_, ?_⟩
    · intro other
      refine ⟨fun hother => hother.eq graph.isGreedy_matching, ?_⟩
      rintro rfl
      exact graph.isGreedy_matching
    · rw [value_candidateSet?, candidates_heuristic,
        if_pos (candidateFloor_le_heuristicCandidates hids)]
    · exact areLeftBy_heuristicCandidates (isProper_after start calls) hids

/-- Nobody suspects anybody, so no pair is taken and nobody is to be excluded,
and still one of the first two replicas is left out. -/
theorem second_of_four_billion_is_left_out :
    let graph := after ⟨4294967297, 0, by decide⟩ []
    graph.IsGreedy ∅ ∧ graph.exclusionSet ∅ = ∅ ∧ graph.view.contains 1 = true ∧
      (graph.candidateSet? .standard).value = some [0] := by
  intro graph
  refine ⟨?_, ?_, by decide, by decide +kernel⟩
  · intro pair
    simp [graph, after, suspectEachOther, suspects_empty]
  · simp [exclusionSet, implicated]

end SuspicionGraph
end SuspicionMonitor
