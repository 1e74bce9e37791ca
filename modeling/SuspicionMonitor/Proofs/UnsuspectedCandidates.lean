import SuspicionMonitor.Proofs.IndependentCandidates

/-!
# Candidates that no mutual suspicion touches

A replica that suspects nobody by whom it is suspected keeps its place among
the candidates, whoever else accuses it.  The exclusion list holds replicas of
mutually suspecting pairs only.  The greedy set and every clique at a leaf of
the search are maximal: each vertex is a member or a neighbour of one, so a
vertex without neighbours is a member.
-/

namespace SuspicionMonitor

namespace Adjacency

variable {n : Nat}

/-- Every vertex is a member or a neighbour of one. -/
def IsDominating (graph : Adjacency n) (vertices : List (Fin n)) : Prop :=
  ∀ v, v ∈ vertices ∨ ∃ u ∈ vertices, graph.adjacent u v = true

theorem leastConnected?_eq_none_iff {graph : Adjacency n} {remaining : List (Fin n)} :
    graph.leastConnected? remaining = none ↔ remaining = [] := by
  cases remaining with
  | nil => simp [leastConnected?]
  | cons v rest => simp [leastConnected?, List.minOn?_cons]

/-- The round that takes a vertex discards at least this one. -/
theorem length_filter_round_lt (graph : Adjacency n) {remaining : List (Fin n)} {taken : Fin n}
    (htaken : taken ∈ remaining) :
    (remaining.filter fun u => u != taken && !graph.adjacent taken u).length <
      remaining.length :=
  List.length_filter_lt_length_iff_exists.mpr ⟨taken, htaken, by simp⟩

/-- Whoever is discarded in a round is a neighbour of the vertex taken in it. -/
theorem mem_greedyFrom_or {graph : Adjacency n} {rounds : Nat} {remaining : List (Fin n)}
    (hrounds : remaining.length ≤ rounds) {v : Fin n} (hv : v ∈ remaining) :
    v ∈ graph.greedyFrom rounds remaining ∨
      ∃ u ∈ graph.greedyFrom rounds remaining, graph.adjacent u v = true := by
  induction rounds generalizing remaining with
  | zero => simp_all
  | succ rounds ih =>
      unfold greedyFrom
      split
      next hnone =>
        rw [leastConnected?_eq_none_iff.mp hnone] at hv
        contradiction
      next taken htaken =>
        by_cases heq : v = taken
        · simp [heq]
        by_cases hadj : graph.adjacent taken v = true
        · exact Or.inr ⟨taken, List.mem_cons_self, hadj⟩
        have hleft := graph.length_filter_round_lt (mem_of_leastConnected?_eq_some htaken)
        have hkept : v ∈ remaining.filter fun u => u != taken && !graph.adjacent taken u := by
          simp [hv, heq, hadj]
        rcases ih (by omega) hkept with hmem | ⟨u, hu, hadj⟩
        · exact Or.inl (List.mem_cons_of_mem taken hmem)
        · exact Or.inr ⟨u, List.mem_cons_of_mem taken hu, hadj⟩

theorem isDominating_greedyIndependentSet (graph : Adjacency n) :
    graph.IsDominating graph.greedyIndependentSet :=
  fun v => mem_greedyFrom_or (by simp) (List.mem_finRange v)

/-- No candidate and no excluded vertex is joined to all of what has been added. -/
def Blocks (graph : Adjacency n) (added candidates excluded : List (Fin n)) : Prop :=
  ∀ w, w ∈ candidates ∨ w ∈ excluded → ∃ u ∈ added, graph.adjacent w u = false

/-- A vertex that is passed over moves to the excluded ones and has to be blocked there. -/
theorem exists_blocks_of_mem_leavesOver {graph : Adjacency n} (hgraph : graph.IsUndirected)
    {below : (clique candidates excluded : List (Fin n)) → List (List (Fin n))}
    (hbelow : ∀ clique candidates excluded, ∀ leaf ∈ below clique candidates excluded,
      ∃ added, leaf = added ++ clique ∧ graph.Blocks added candidates excluded)
    {clique branches candidates excluded leaf : List (Fin n)}
    (hleaf : leaf ∈ graph.leavesOver below clique branches candidates excluded) :
    ∃ added, leaf = added ++ clique ∧ graph.Blocks added candidates excluded := by
  induction branches generalizing candidates excluded with
  | nil => contradiction
  | cons v branches ih =>
      rcases List.mem_append.mp hleaf with hfirst | hrest
      · obtain ⟨added, rfl, hblocks⟩ := hbelow _ _ _ leaf hfirst
        refine ⟨added ++ [v], by simp, ?_⟩
        intro w hw
        cases hadj : graph.adjacent v w with
        | false => exact ⟨v, by simp, by rwa [hgraph.symm w v]⟩
        | true =>
            have hbelow : w ∈ graph.neighboursWithin candidates v ∨
                w ∈ graph.neighboursWithin excluded v := by
              simpa [mem_neighboursWithin, hadj] using hw
            obtain ⟨u, hu, hblocked⟩ := hblocks w hbelow
            exact ⟨u, List.mem_append_left [v] hu, hblocked⟩
      · obtain ⟨added, rfl, hblocks⟩ := ih hrest
        refine ⟨added, rfl, ?_⟩
        intro w hw
        apply hblocks w
        by_cases heq : w = v
        · simp [heq]
        · simpa [heq] using hw

theorem exists_blocks_of_mem_leaves {graph : Adjacency n} (hgraph : graph.IsUndirected)
    {depth : Nat} {clique candidates excluded leaf : List (Fin n)}
    (hleaf : leaf ∈ graph.leaves depth clique candidates excluded) :
    ∃ added, leaf = added ++ clique ∧ graph.Blocks added candidates excluded := by
  induction depth generalizing clique candidates excluded leaf with
  | zero => contradiction
  | succ depth ih =>
      unfold leaves at hleaf
      split at hleaf
      next hcandidates =>
        split at hleaf
        next hexcluded => exact ⟨[], by simp_all [Blocks]⟩
        next => contradiction
      next => exact exists_blocks_of_mem_leavesOver hgraph (fun _ _ _ _ hleaf => ih hleaf) hleaf

/-- What the search ends with is maximal, completed or stopped. -/
theorem isDominating_best {graph : Adjacency n} (hgraph : graph.IsUndirected)
    (allowance : Option Nat) :
    graph.IsDominating (graph.maximumIndependentSet allowance).best := by
  rw [maximumIndependentSet_eq_searchUnder]
  rcases graph.improves_searchUnder _ allowance with hkept | ⟨hleaf, -⟩
  · rw [hkept]
    exact graph.isDominating_greedyIndependentSet
  · obtain ⟨added, hadded, hblocks⟩ := exists_blocks_of_mem_leaves hgraph.complement hleaf
    rw [hadded, List.append_nil]
    intro v
    obtain ⟨u, hu, hblocked⟩ := hblocks v (Or.inl (List.mem_finRange v))
    rw [Bool.eq_false_iff, Ne, adjacent_complement, not_and_or, not_not,
      Bool.not_eq_false, hgraph.symm v u] at hblocked
    rcases hblocked with rfl | hadj
    · exact Or.inl hu
    · exact Or.inr ⟨u, hu, hadj⟩

end Adjacency

namespace SuspicionGraph

/-! ## Replicas apart -/

/-- Whether the replica is in no mutually suspecting pair. -/
def IsApart (graph : SuspicionGraph) (id : ReplicaId) : Prop :=
  ∀ other, graph.suspectEachOther id other = false

theorem IsApart.not_mem_exclusions {graph : SuspicionGraph} {id : ReplicaId}
    (hapart : graph.IsApart id) : id ∉ graph.exclusions := by
  intro hid
  obtain ⟨other, hmutual⟩ := exists_suspectEachOther_of_mem_exclusions hid
  simp [hapart other] at hmutual

theorem IsApart.mem_heuristicCandidates {graph : SuspicionGraph} {id : ReplicaId}
    (hapart : graph.IsApart id) (hlisted : id ∈ graph.view.replicas) :
    id ∈ graph.heuristicCandidates := by
  refine SuspicionGraph.mem_heuristicCandidates.mpr ⟨hlisted, ?_⟩
  intro hclamped
  exact hapart.not_mem_exclusions (mem_clampExclusions.mp hclamped).1

theorem IsApart.mem_independentCandidates {graph : SuspicionGraph} (hproper : graph.IsProper)
    {id : ReplicaId} (hapart : graph.IsApart id) (hview : graph.view.contains id = true)
    (allowance : Option Nat) : id ∈ (graph.independentCandidates allowance).ids := by
  have hlt : id.toNat < graph.view.n := by simpa [View.contains] using hview
  have hgraph := isUndirected_mutualAdjacency hproper
  have halone : ∀ u, graph.mutualAdjacency.adjacent u ⟨id.toNat, hlt⟩ = false := by
    intro u
    rw [hgraph.symm, mutualAdjacency, Adjacency.adjacent_ofRel]
    simpa using hapart (UInt32.ofNat u)
  apply SuspicionGraph.mem_independentCandidates.mpr
  rcases Adjacency.isDominating_best hgraph allowance ⟨id.toNat, hlt⟩ with hmem | ⟨u, -, hadj⟩
  · exact ⟨_, hmem, UInt32.ofNat_toNat⟩
  · rw [halone u] at hadj
    contradiction

theorem IsApart.mem_candidates {graph : SuspicionGraph} (hproper : graph.IsProper)
    (hids : graph.view.n < UInt32.size) {id : ReplicaId} (hapart : graph.IsApart id)
    (hview : graph.view.contains id = true) (settings : GraphSettings) (inTime : Option Nat) :
    id ∈ (graph.candidates settings inTime).ids := by
  rcases graph.ids_candidates settings inTime with hheuristic | ⟨-, hfound, -⟩
  · rw [hheuristic]
    apply hapart.mem_heuristicCandidates
    rw [View.mem_replicas, Nat.mod_eq_of_lt hids]
    simpa [View.contains] using hview
  · rw [hfound]
    exact hapart.mem_independentCandidates hproper hview _

/-- In every graph that a run leaves behind in the view, with any settings and
however much there is time for, the replicas of the view that are in no mutually
suspecting pair are candidates, exactly if 32-bit ids can name all replicas of
the view. -/
theorem replicas_apart_are_candidates_iff (view : View) (inTime : Option Nat) :
    (∀ (start : View) (calls : List GraphCall) (settings : GraphSettings) (id : ReplicaId),
        (after start calls).view = view → view.contains id = true →
        (after start calls).IsApart id →
        ∃ ids, ((after start calls).candidateSet? settings inTime).value = some ids ∧
          id ∈ ids) ↔
      view.n < UInt32.size := by
  constructor
  · intro hall
    by_contra hids
    have hwrap : view.n % UInt32.size < UInt32.size := Nat.mod_lt _ (by decide)
    let id : ReplicaId := UInt32.ofNat (view.n % UInt32.size)
    have hid : id.toNat = view.n % UInt32.size := UInt32.toNat_ofNat_of_lt' hwrap
    -- The least id that is not listed, in a graph without edges.
    obtain ⟨ids, hvalue, hmem⟩ := hall view [] .standard id rfl
      (by simp only [View.contains, hid, decide_eq_true_eq]; omega)
      (by intro other; simp [suspectEachOther, after, suspects_empty])
    rw [← ids_candidates_of_value_candidateSet? hvalue] at hmem
    have hlisted : id ∈ view.replicas := (mem_heuristicCandidates.mp hmem).1
    rw [View.mem_replicas, hid] at hlisted
    exact absurd hlisted (lt_irrefl _)
  · intro hids start calls settings id hview hmember hapart
    rw [← hview] at hids hmember
    obtain ⟨ids, hvalue, -⟩ := hasCandidates_of_ids hids settings inTime
    refine ⟨ids, hvalue, ?_⟩
    rw [← ids_candidates_of_value_candidateSet? hvalue]
    exact hapart.mem_candidates (isProper_after start calls) hids hmember settings inTime

/-- Nobody suspects anybody, and still one of the first two replicas is no
candidate. -/
theorem second_of_four_billion_is_no_candidate :
    let graph := after ⟨4294967297, 0, by decide⟩ []
    graph.view.contains 1 = true ∧ graph.IsApart 1 ∧
      (graph.candidateSet? .standard).value = some [0] := by
  intro graph
  refine ⟨by decide, ?_, by decide +kernel⟩
  intro other
  simp [graph, suspectEachOther, after, suspects_empty]

end SuspicionGraph

end SuspicionMonitor
