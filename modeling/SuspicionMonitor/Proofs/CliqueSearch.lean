import SuspicionMonitor.IndependentSet
import Mathlib.Combinatorics.SimpleGraph.Clique
import Mathlib.Tactic

/-!
# The branching search for cliques

The search is compared with the list of the cliques it would meet at its
leaves if it cut nothing off.  Branching around a pivot loses no maximal
clique, and a branch that is cut off holds no clique longer than the best one
so far.  So the search ends with the best clique of the whole list, whatever
sound bound it cuts by.
-/

namespace SuspicionMonitor
namespace Adjacency

variable {n : Nat}

/-- Neighbours are neighbours of each other, and nobody is his own. -/
structure IsUndirected (graph : Adjacency n) : Prop where
  symm : ∀ u v, graph.adjacent u v = graph.adjacent v u
  loopless : ∀ v, graph.adjacent v v = false

def simpleGraph (graph : Adjacency n) (hgraph : graph.IsUndirected) : SimpleGraph (Fin n) where
  Adj u v := graph.adjacent u v = true
  symm := ⟨fun u v hadj => by rwa [hgraph.symm v u]⟩
  loopless := ⟨fun v hadj => by simp [hgraph.loopless v] at hadj⟩

/-- A list of vertices each of which is a neighbour of all later ones. -/
def IsCliqueList (graph : Adjacency n) (clique : List (Fin n)) : Prop :=
  clique.Pairwise fun u v => graph.adjacent u v = true

theorem IsCliqueList.nodup {graph : Adjacency n} (hgraph : graph.IsUndirected)
    {clique : List (Fin n)} (hclique : graph.IsCliqueList clique) : clique.Nodup := by
  refine hclique.imp ?_
  rintro u v hadj rfl
  rw [hgraph.loopless u] at hadj
  contradiction

theorem IsCliqueList.isClique {graph : Adjacency n} (hgraph : graph.IsUndirected)
    {clique : List (Fin n)} (hclique : graph.IsCliqueList clique) :
    (graph.simpleGraph hgraph).IsClique (clique.toFinset : Set (Fin n)) := by
  intro u hu v hv hne
  have hu : u ∈ clique := List.mem_toFinset.mp hu
  have hv : v ∈ clique := List.mem_toFinset.mp hv
  have : Std.Symm fun u v => graph.adjacent u v = true :=
    ⟨fun u v hadj => by rwa [hgraph.symm v u]⟩
  exact hclique.forall hu hv hne

theorem mem_neighboursWithin {graph : Adjacency n} {vertices : List (Fin n)} {u v : Fin n} :
    u ∈ graph.neighboursWithin vertices v ↔ u ∈ vertices ∧ graph.adjacent v u = true := by
  simp [neighboursWithin]

/-- The leaves below each branch in turn. -/
def leavesOver (graph : Adjacency n)
    (below : (clique candidates excluded : List (Fin n)) → List (List (Fin n)))
    (clique : List (Fin n)) : (branches candidates excluded : List (Fin n)) →
    List (List (Fin n))
  | [], _, _ => []
  | v :: branches, candidates, excluded =>
      below (v :: clique) (graph.neighboursWithin candidates v)
          (graph.neighboursWithin excluded v) ++
        graph.leavesOver below clique branches (candidates.filter (· != v)) (v :: excluded)

/-- The cliques at the leaves of a search that cuts nothing off. -/
def leaves (graph : Adjacency n) : (depth : Nat) →
    (clique candidates excluded : List (Fin n)) → List (List (Fin n))
  | 0, _, _, _ => []
  | depth + 1, clique, candidates, excluded =>
      if candidates.isEmpty then
        if excluded.isEmpty then [clique] else []
      else
        graph.leavesOver (graph.leaves depth) clique (graph.branches candidates excluded)
          candidates excluded

theorem mem_of_mem_branches {graph : Adjacency n} {candidates excluded : List (Fin n)}
    {v : Fin n} (hv : v ∈ graph.branches candidates excluded) : v ∈ candidates := by
  unfold branches at hv
  split at hv
  · exact hv
  · exact (List.mem_filter.mp hv).1

/-- A leaf extends the clique of its node by a clique of candidates. -/
theorem exists_added_of_mem_leavesOver {graph : Adjacency n} (hgraph : graph.IsUndirected)
    {below : (clique candidates excluded : List (Fin n)) → List (List (Fin n))}
    (hbelow : ∀ clique candidates excluded, ∀ leaf ∈ below clique candidates excluded,
      ∃ added, leaf = added ++ clique ∧ added ⊆ candidates ∧ graph.IsCliqueList added)
    {clique pool branches candidates excluded : List (Fin n)}
    (hbranches : branches ⊆ pool) (hcandidates : candidates ⊆ pool)
    {leaf : List (Fin n)}
    (hleaf : leaf ∈ graph.leavesOver below clique branches candidates excluded) :
    ∃ added, leaf = added ++ clique ∧ added ⊆ pool ∧ graph.IsCliqueList added := by
  induction branches generalizing candidates excluded with
  | nil => contradiction
  | cons v branches ih =>
      rcases List.mem_append.mp hleaf with hfirst | hrest
      · obtain ⟨added, rfl, hsubset, hclique⟩ := hbelow _ _ _ leaf hfirst
        refine ⟨added ++ [v], by simp, ?_, ?_⟩
        · intro u hu
          rcases List.mem_append.mp hu with hu | hu
          · exact hcandidates (mem_neighboursWithin.mp (hsubset hu)).1
          · rw [List.mem_singleton.mp hu]
            exact hbranches List.mem_cons_self
        · refine List.pairwise_append.mpr ⟨hclique, List.pairwise_singleton _ _, ?_⟩
          intro u hu w hw
          have hadj := (mem_neighboursWithin.mp (hsubset hu)).2
          rw [List.mem_singleton.mp hw, hgraph.symm u v]
          exact hadj
      · refine ih (List.subset_of_cons_subset hbranches) ?_ hrest
        intro u hu
        exact hcandidates (List.mem_filter.mp hu).1

theorem exists_added_of_mem_leaves {graph : Adjacency n} (hgraph : graph.IsUndirected)
    {depth : Nat} {clique candidates excluded leaf : List (Fin n)}
    (hleaf : leaf ∈ graph.leaves depth clique candidates excluded) :
    ∃ added, leaf = added ++ clique ∧ added ⊆ candidates ∧ graph.IsCliqueList added := by
  induction depth generalizing clique candidates excluded leaf with
  | zero => contradiction
  | succ depth ih =>
      unfold leaves at hleaf
      split at hleaf
      · split at hleaf
        · refine ⟨[], ?_, List.nil_subset _, List.Pairwise.nil⟩
          exact List.mem_singleton.mp hleaf
        · contradiction
      · exact exists_added_of_mem_leavesOver hgraph (fun _ _ _ _ hleaf => ih hleaf)
          (fun _ hv => mem_of_mem_branches hv) (List.Subset.refl _) hleaf

/-- A clique of candidates which neither a candidate nor an excluded vertex
extends. -/
structure Unextendable (graph : Adjacency n) (candidates excluded : List (Fin n))
    (clique : Finset (Fin n)) : Prop where
  among : ∀ u ∈ clique, u ∈ candidates
  adjacent : ∀ u ∈ clique, ∀ v ∈ clique, u ≠ v → graph.adjacent u v = true
  blocked : ∀ w, w ∈ candidates ∨ w ∈ excluded → ∃ u ∈ clique, graph.adjacent w u = false

theorem Unextendable.below {graph : Adjacency n} (hgraph : graph.IsUndirected)
    {candidates excluded : List (Fin n)} {clique : Finset (Fin n)}
    (hclique : graph.Unextendable candidates excluded clique) {v : Fin n} (hv : v ∈ clique) :
    graph.Unextendable (graph.neighboursWithin candidates v)
      (graph.neighboursWithin excluded v) (clique.erase v) := by
  constructor
  · intro u hu
    obtain ⟨hne, hmem⟩ := Finset.mem_erase.mp hu
    exact mem_neighboursWithin.mpr
      ⟨hclique.among u hmem, hclique.adjacent v hv u hmem (Ne.symm hne)⟩
  · intro u hu w hw hne
    exact hclique.adjacent u (Finset.mem_of_mem_erase hu) w (Finset.mem_of_mem_erase hw) hne
  · intro w hw
    have hadj : graph.adjacent v w = true := by
      rcases hw with hw | hw
      · exact (mem_neighboursWithin.mp hw).2
      · exact (mem_neighboursWithin.mp hw).2
    have hpool : w ∈ candidates ∨ w ∈ excluded :=
      hw.imp (fun hw => (mem_neighboursWithin.mp hw).1)
        (fun hw => (mem_neighboursWithin.mp hw).1)
    obtain ⟨u, hu, hblocked⟩ := hclique.blocked w hpool
    refine ⟨u, Finset.mem_erase.mpr ⟨?_, hu⟩, hblocked⟩
    rintro rfl
    rw [hgraph.symm w u, hadj] at hblocked
    contradiction

theorem Unextendable.skip {graph : Adjacency n}
    {candidates excluded : List (Fin n)} {clique : Finset (Fin n)}
    (hclique : graph.Unextendable candidates excluded clique) {v : Fin n} (hv : v ∉ clique)
    (hpool : v ∈ candidates ∨ v ∈ excluded) :
    graph.Unextendable (candidates.filter (· != v)) (v :: excluded) clique := by
  constructor
  · intro u hu
    refine List.mem_filter.mpr ⟨hclique.among u hu, ?_⟩
    rw [bne_iff_ne]
    rintro rfl
    exact hv hu
  · exact hclique.adjacent
  · intro w hw
    apply hclique.blocked w
    rcases hw with hw | hw
    · exact Or.inl (List.mem_filter.mp hw).1
    · rcases List.mem_cons.mp hw with rfl | hw
      · exact hpool
      · exact Or.inr hw

/-- The pivot lies outside the clique or is not a neighbour of itself, so a
vertex of the clique is branched on. -/
theorem Unextendable.exists_mem_branches {graph : Adjacency n}
    {candidates excluded : List (Fin n)} {clique : Finset (Fin n)}
    (hclique : graph.Unextendable candidates excluded clique)
    (hcandidates : candidates ≠ []) :
    ∃ v ∈ clique, v ∈ graph.branches candidates excluded := by
  unfold branches
  split
  next hpivot =>
    obtain ⟨w, hw⟩ := List.exists_mem_of_ne_nil candidates hcandidates
    obtain ⟨u, hu, _⟩ := hclique.blocked w (Or.inl hw)
    exact ⟨u, hu, hclique.among u hu⟩
  next pivot hpivot =>
    have hmem : pivot ∈ candidates ∨ pivot ∈ excluded := by
      obtain ⟨scored, hscored, rfl⟩ := Option.map_eq_some_iff.mp hpivot
      have hlisted := List.maxOn?_mem hscored
      obtain ⟨u, hu, rfl⟩ := List.mem_map.mp hlisted
      exact List.mem_append.mp hu
    obtain ⟨u, hu, hblocked⟩ := hclique.blocked pivot hmem
    refine ⟨u, hu, List.mem_filter.mpr ⟨hclique.among u hu, ?_⟩⟩
    simp [hblocked]

theorem length_neighboursWithin_lt {graph : Adjacency n} (hgraph : graph.IsUndirected)
    {vertices : List (Fin n)} {v : Fin n} (hv : v ∈ vertices) :
    (graph.neighboursWithin vertices v).length < vertices.length := by
  unfold neighboursWithin
  apply List.length_filter_lt_length_iff_exists.mpr
  exact ⟨v, hv, by simp [hgraph.loopless v]⟩

theorem exists_leaf_over {graph : Adjacency n} (hgraph : graph.IsUndirected) {depth : Nat}
    (hbelow : ∀ {clique candidates excluded : List (Fin n)} {added : Finset (Fin n)},
      candidates.length < depth → graph.Unextendable candidates excluded added →
        ∃ leaf ∈ graph.leaves depth clique candidates excluded,
          leaf.length = clique.length + added.card)
    {clique branches candidates excluded : List (Fin n)} {added : Finset (Fin n)}
    (hdepth : candidates.length ≤ depth)
    (hbranches : ∀ v ∈ branches, v ∈ candidates ∨ v ∈ excluded)
    (hadded : graph.Unextendable candidates excluded added)
    (hmeet : ∃ v ∈ added, v ∈ branches) :
    ∃ leaf ∈ graph.leavesOver (graph.leaves depth) clique branches candidates excluded,
      leaf.length = clique.length + added.card := by
  induction branches generalizing candidates excluded with
  | nil =>
      obtain ⟨v, _, hv⟩ := hmeet
      contradiction
  | cons v branches ih =>
      by_cases hv : v ∈ added
      · have hshrink := length_neighboursWithin_lt hgraph (hadded.among v hv)
        have hmet : ∃ leaf ∈ graph.leaves depth (v :: clique) (graph.neighboursWithin candidates v)
            (graph.neighboursWithin excluded v),
            leaf.length = (v :: clique).length + (added.erase v).card :=
          hbelow (lt_of_lt_of_le hshrink hdepth) (hadded.below hgraph hv)
        obtain ⟨leaf, hleaf, hlength⟩ := hmet
        refine ⟨leaf, List.mem_append.mpr (Or.inl hleaf), ?_⟩
        have hcard := Finset.card_erase_add_one hv
        rw [hlength, List.length_cons]
        omega
      · have hrest : ∀ u ∈ branches, u ∈ candidates.filter (· != v) ∨ u ∈ v :: excluded := by
          intro u hu
          by_cases heq : u = v
          · rw [heq]
            exact Or.inr List.mem_cons_self
          · rcases hbranches u (List.mem_cons_of_mem v hu) with hu | hu
            · exact Or.inl (List.mem_filter.mpr ⟨hu, bne_iff_ne.mpr heq⟩)
            · exact Or.inr (List.mem_cons_of_mem v hu)
        have hmeet : ∃ u ∈ added, u ∈ branches := by
          obtain ⟨u, hu, hmem⟩ := hmeet
          rcases List.mem_cons.mp hmem with rfl | hmem
          · exact absurd hu hv
          · exact ⟨u, hu, hmem⟩
        obtain ⟨leaf, hleaf, hlength⟩ := ih
          ((List.length_filter_le _ _).trans hdepth) hrest
          (hadded.skip hv (hbranches v List.mem_cons_self)) hmeet
        exact ⟨leaf, List.mem_append.mpr (Or.inr hleaf), hlength⟩

/-- Every unextendable clique of candidates is met at a leaf. -/
theorem exists_leaf_of_unextendable {graph : Adjacency n} (hgraph : graph.IsUndirected)
    {depth : Nat} {clique candidates excluded : List (Fin n)} {added : Finset (Fin n)}
    (hdepth : candidates.length < depth)
    (hadded : graph.Unextendable candidates excluded added) :
    ∃ leaf ∈ graph.leaves depth clique candidates excluded,
      leaf.length = clique.length + added.card := by
  induction depth generalizing clique candidates excluded added with
  | zero => omega
  | succ depth ih =>
      unfold leaves
      by_cases hcandidates : candidates = []
      · subst hcandidates
        have hnone : added = ∅ := by
          apply Finset.eq_empty_of_forall_notMem
          intro u hu
          exact absurd (hadded.among u hu) List.not_mem_nil
        have hexcluded : excluded = [] := by
          apply List.eq_nil_iff_forall_not_mem.mpr
          intro w hw
          obtain ⟨u, hu, _⟩ := hadded.blocked w (Or.inr hw)
          rw [hnone] at hu
          exact absurd hu (Finset.notMem_empty u)
        subst hnone hexcluded
        exact ⟨clique, by simp, by simp⟩
      · rw [if_neg (by simpa using hcandidates)]
        exact exists_leaf_over hgraph ih (by omega)
          (fun v hv => Or.inl (mem_of_mem_branches hv)) hadded
          (hadded.exists_mem_branches hcandidates)

/-- The longer of two cliques, the first if they are equally long. -/
def keepLonger (best clique : List (Fin n)) : List (Fin n) :=
  if best.length < clique.length then clique else best

theorem foldl_keepLonger_eq_self {best : List (Fin n)} {cliques : List (List (Fin n))}
    (hshort : ∀ clique ∈ cliques, clique.length ≤ best.length) :
    cliques.foldl keepLonger best = best := by
  induction cliques with
  | nil => rfl
  | cons clique cliques ih =>
      have hle := hshort clique List.mem_cons_self
      rw [List.foldl_cons, keepLonger, if_neg (by omega)]
      exact ih fun later hlater => hshort later (List.mem_cons_of_mem clique hlater)

theorem length_le_foldl_keepLonger (best : List (Fin n)) (cliques : List (List (Fin n))) :
    best.length ≤ (cliques.foldl keepLonger best).length := by
  induction cliques generalizing best with
  | nil => exact le_rfl
  | cons clique cliques ih =>
      have hlater := ih (keepLonger best clique)
      have hstep : best.length ≤ (keepLonger best clique).length := by
        unfold keepLonger
        split <;> omega
      exact hstep.trans hlater

theorem length_le_foldl_keepLonger_of_mem {best clique : List (Fin n)}
    {cliques : List (List (Fin n))} (hclique : clique ∈ cliques) :
    clique.length ≤ (cliques.foldl keepLonger best).length := by
  induction cliques generalizing best with
  | nil => contradiction
  | cons head cliques ih =>
      rcases List.mem_cons.mp hclique with rfl | hlater
      · have hstep : clique.length ≤ (keepLonger best clique).length := by
          unfold keepLonger
          split <;> omega
        exact hstep.trans (length_le_foldl_keepLonger _ cliques)
      · exact ih hlater

theorem foldl_keepLonger_mem (best : List (Fin n)) (cliques : List (List (Fin n))) :
    cliques.foldl keepLonger best = best ∨ cliques.foldl keepLonger best ∈ cliques := by
  induction cliques generalizing best with
  | nil => exact Or.inl rfl
  | cons clique cliques ih =>
      rw [List.foldl_cons]
      rcases ih (keepLonger best clique) with heq | hmem
      · rw [heq]
        unfold keepLonger
        split
        · exact Or.inr List.mem_cons_self
        · exact Or.inl rfl
      · exact Or.inr (List.mem_cons_of_mem clique hmem)

/-! ## Cutting branches off -/

/-- A bound on the length of the cliques among given vertices. -/
def Bounds (graph : Adjacency n) (bound : List (Fin n) → Nat) : Prop :=
  ∀ vertices clique, clique ⊆ vertices → graph.IsCliqueList clique →
    clique.length ≤ bound vertices

def visitOver (graph : Adjacency n)
    (visit : Search n → (clique candidates excluded : List (Fin n)) → Search n)
    (clique : List (Fin n)) : (branches : List (Fin n)) → Search n →
    (candidates excluded : List (Fin n)) → Search n
  | [], search, _, _ => search
  | v :: branches, search, candidates, excluded =>
      graph.visitOver visit clique branches
        (visit search (v :: clique) (graph.neighboursWithin candidates v)
          (graph.neighboursWithin excluded v))
        (candidates.filter (· != v)) (v :: excluded)

/-- The search that cuts a branch off if, by the bound, its cliques are no
longer than the best one. -/
def expandUnder (graph : Adjacency n) (bound : List (Fin n) → Nat) : (depth : Nat) →
    Search n → (clique candidates excluded : List (Fin n)) → Search n
  | 0, search, _, _, _ => search
  | depth + 1, search, clique, candidates, excluded =>
      if search.stopped then
        search
      else if search.allowance = some 0 then
        { search with stopped := true }
      else
        let search := { search with allowance := search.allowance.map (· - 1) }
        if candidates.isEmpty then
          if excluded.isEmpty && search.best.length < clique.length then
            { search with best := clique }
          else
            search
        else if clique.length + bound candidates ≤ search.best.length then
          search
        else
          graph.visitOver (graph.expandUnder bound depth) clique
            (graph.branches candidates excluded) search candidates excluded

theorem foldl_eq_visitOver (graph : Adjacency n)
    (visit : Search n → (clique candidates excluded : List (Fin n)) → Search n)
    (clique branches : List (Fin n)) (search : Search n) (candidates excluded : List (Fin n)) :
    (branches.foldl
      (fun (search, candidates, excluded) v =>
        (visit search (v :: clique) (graph.neighboursWithin candidates v)
          (graph.neighboursWithin excluded v), candidates.filter (· != v), v :: excluded))
      (search, candidates, excluded)).1 =
      graph.visitOver visit clique branches search candidates excluded := by
  induction branches generalizing search candidates excluded with
  | nil => rfl
  | cons v branches ih =>
      rw [List.foldl_cons]
      exact ih _ _ _

theorem expand_eq_expandUnder (graph : Adjacency n) (depth : Nat) (search : Search n)
    (clique candidates excluded : List (Fin n)) :
    graph.expand depth search clique candidates excluded =
      graph.expandUnder (fun vertices => (graph.colourClasses vertices).length) depth search
        clique candidates excluded := by
  induction depth generalizing search clique candidates excluded with
  | zero => rfl
  | succ depth ih =>
      have hvisit : graph.expand depth =
          graph.expandUnder (fun vertices => (graph.colourClasses vertices).length) depth := by
        funext search clique candidates excluded
        exact ih search clique candidates excluded
      unfold expand expandUnder
      simp only [hvisit, foldl_eq_visitOver]

theorem expandUnder_of_stopped {graph : Adjacency n} {bound : List (Fin n) → Nat}
    {search : Search n} (hstopped : search.stopped = true) (depth : Nat)
    (clique candidates excluded : List (Fin n)) :
    graph.expandUnder bound depth search clique candidates excluded = search := by
  cases depth with
  | zero => rfl
  | succ depth =>
      unfold expandUnder
      rw [if_pos hstopped]

theorem visitOver_of_stopped {graph : Adjacency n}
    {visit : Search n → (clique candidates excluded : List (Fin n)) → Search n}
    (hvisit : ∀ search clique candidates excluded, search.stopped = true →
      visit search clique candidates excluded = search)
    {search : Search n} (hstopped : search.stopped = true)
    (clique branches candidates excluded : List (Fin n)) :
    graph.visitOver visit clique branches search candidates excluded = search := by
  induction branches generalizing candidates excluded with
  | nil => rfl
  | cons v branches ih =>
      unfold visitOver
      rw [hvisit search _ _ _ hstopped]
      exact ih _ _

theorem best_visitOver {graph : Adjacency n}
    {visit : Search n → (clique candidates excluded : List (Fin n)) → Search n}
    {below : (clique candidates excluded : List (Fin n)) → List (List (Fin n))}
    (hstay : ∀ search clique candidates excluded, search.stopped = true →
      visit search clique candidates excluded = search)
    (hvisit : ∀ search clique candidates excluded,
      (visit search clique candidates excluded).stopped = false →
        (visit search clique candidates excluded).best =
          (below clique candidates excluded).foldl keepLonger search.best)
    {clique branches : List (Fin n)} {search : Search n} {candidates excluded : List (Fin n)}
    (hrun : (graph.visitOver visit clique branches search candidates excluded).stopped =
      false) :
    (graph.visitOver visit clique branches search candidates excluded).best =
      (graph.leavesOver below clique branches candidates excluded).foldl keepLonger
        search.best := by
  induction branches generalizing search candidates excluded with
  | nil => rfl
  | cons v branches ih =>
      unfold visitOver at hrun
      unfold visitOver leavesOver
      let first := visit search (v :: clique) (graph.neighboursWithin candidates v)
        (graph.neighboursWithin excluded v)
      have hfirst : first.stopped = false := by
        by_contra hstopped
        have hstopped : first.stopped = true := by simpa using hstopped
        rw [visitOver_of_stopped hstay hstopped, hstopped] at hrun
        contradiction
      rw [ih hrun, List.foldl_append, hvisit _ _ _ _ hfirst]

/-- A search that was not stopped ends with the best of all leaves: what the
bound cuts off would not have been kept. -/
theorem best_expandUnder {graph : Adjacency n} (hgraph : graph.IsUndirected)
    {bound : List (Fin n) → Nat} (hbound : graph.Bounds bound) {depth : Nat}
    {search : Search n} {clique candidates excluded : List (Fin n)}
    (hrun : (graph.expandUnder bound depth search clique candidates excluded).stopped =
      false) :
    (graph.expandUnder bound depth search clique candidates excluded).best =
      (graph.leaves depth clique candidates excluded).foldl keepLonger search.best := by
  induction depth generalizing search clique candidates excluded with
  | zero => rfl
  | succ depth ih =>
      have hleaves : ∀ leaf ∈ graph.leaves (depth + 1) clique candidates excluded,
          leaf.length ≤ clique.length + bound candidates := by
        intro leaf hleaf
        obtain ⟨added, rfl, hsubset, hclique⟩ := exists_added_of_mem_leaves hgraph hleaf
        have hadded := hbound candidates added hsubset hclique
        rw [List.length_append]
        omega
      unfold expandUnder at hrun ⊢
      by_cases hstopped : search.stopped = true
      · rw [if_pos hstopped, hstopped] at hrun
        contradiction
      rw [if_neg hstopped] at hrun ⊢
      by_cases hallowance : search.allowance = some 0
      · rw [if_pos hallowance] at hrun
        contradiction
      rw [if_neg hallowance] at hrun ⊢
      by_cases hcandidates : candidates.isEmpty = true
      · simp only [if_pos hcandidates, leaves]
        by_cases hexcluded : excluded.isEmpty = true
        · by_cases hlonger : search.best.length < clique.length <;>
            simp [hexcluded, hlonger, keepLonger]
        · simp [hexcluded]
      simp only [if_neg hcandidates] at hrun ⊢
      by_cases hcut : clique.length + bound candidates ≤ search.best.length
      · simp only [if_pos hcut]
        exact (foldl_keepLonger_eq_self fun leaf hleaf => (hleaves leaf hleaf).trans hcut).symm
      · simp only [if_neg hcut] at hrun ⊢
        rw [leaves, if_neg hcandidates]
        exact best_visitOver
          (fun _ clique candidates excluded hstopped =>
            expandUnder_of_stopped hstopped depth clique candidates excluded)
          (fun _ _ _ _ hrun => ih hrun) hrun

theorem stopped_expandUnder_of_none {graph : Adjacency n} {bound : List (Fin n) → Nat}
    {depth : Nat} {search : Search n} {clique candidates excluded : List (Fin n)}
    (hallowance : search.allowance = none) (hstopped : search.stopped = false) :
    let result := graph.expandUnder bound depth search clique candidates excluded
    result.allowance = none ∧ result.stopped = false := by
  induction depth generalizing search clique candidates excluded with
  | zero => exact ⟨hallowance, hstopped⟩
  | succ depth ih =>
      have hover : ∀ (branches : List (Fin n)) (search : Search n)
          (candidates excluded : List (Fin n)),
          search.allowance = none → search.stopped = false →
          let result := graph.visitOver (graph.expandUnder bound depth) clique branches search
            candidates excluded
          result.allowance = none ∧ result.stopped = false := by
        intro branches
        induction branches with
        | nil => exact fun _ _ _ hnone hgoing => ⟨hnone, hgoing⟩
        | cons v branches ihOver =>
            intro search candidates excluded hnone hgoing
            let first := graph.expandUnder bound depth search (v :: clique)
              (graph.neighboursWithin candidates v) (graph.neighboursWithin excluded v)
            have hfirst : first.allowance = none ∧ first.stopped = false := ih hnone hgoing
            exact ihOver _ _ _ hfirst.1 hfirst.2
      unfold expandUnder
      simp only [hstopped, hallowance, Option.map_none, reduceCtorEq, if_false]
      split
      · split <;> simp_all
      · split
        · exact ⟨rfl, rfl⟩
        · exact hover _ _ _ _ rfl rfl

/-! ## Colour classes -/

def IsColouring (graph : Adjacency n) (classes : List (List (Fin n))) : Prop :=
  ∀ colour ∈ classes, ∀ u ∈ colour, ∀ v ∈ colour, graph.adjacent u v = false

theorem mem_addToClasses {graph : Adjacency n} {classes : List (List (Fin n))} {u v : Fin n} :
    (∃ colour ∈ graph.addToClasses v classes, u ∈ colour) ↔
      u = v ∨ ∃ colour ∈ classes, u ∈ colour := by
  induction classes with
  | nil => simp [addToClasses]
  | cons colour classes ih =>
      unfold addToClasses
      split
      · rw [List.exists_mem_cons_iff, List.exists_mem_cons_iff, ih]
        tauto
      · rw [List.exists_mem_cons_iff, List.exists_mem_cons_iff, List.mem_cons]
        tauto

theorem IsColouring.addToClasses {graph : Adjacency n} (hgraph : graph.IsUndirected)
    {classes : List (List (Fin n))} (hclasses : graph.IsColouring classes) (v : Fin n) :
    graph.IsColouring (graph.addToClasses v classes) := by
  induction classes with
  | nil =>
      intro colour hcolour u hu w hw
      obtain rfl := List.mem_singleton.mp hcolour
      rw [List.mem_singleton.mp hu, List.mem_singleton.mp hw]
      exact hgraph.loopless v
  | cons head classes ih =>
      have htail : graph.IsColouring classes :=
        fun colour hcolour => hclasses colour (List.mem_cons_of_mem head hcolour)
      unfold Adjacency.addToClasses
      split
      · intro colour hcolour
        rcases List.mem_cons.mp hcolour with rfl | hcolour
        · exact hclasses colour List.mem_cons_self
        · exact ih htail colour hcolour
      next hfree =>
        have hfree : ∀ u ∈ head, graph.adjacent v u = false := by simpa using hfree
        intro colour hcolour
        rcases List.mem_cons.mp hcolour with rfl | hcolour
        · intro u hu w hw
          rcases List.mem_cons.mp hu with hnew | hold
          · rcases List.mem_cons.mp hw with hnew' | hold'
            · rw [hnew, hnew']
              exact hgraph.loopless v
            · rw [hnew]
              exact hfree w hold'
          · rcases List.mem_cons.mp hw with hnew' | hold'
            · rw [hnew', hgraph.symm u v]
              exact hfree u hold
            · exact hclasses head List.mem_cons_self u hold w hold'
        · exact htail colour hcolour

theorem isColouring_foldl {graph : Adjacency n} (hgraph : graph.IsUndirected)
    {classes : List (List (Fin n))} (hclasses : graph.IsColouring classes)
    (vertices : List (Fin n)) :
    graph.IsColouring
      (vertices.foldl (fun classes v => graph.addToClasses v classes) classes) := by
  induction vertices generalizing classes with
  | nil => exact hclasses
  | cons v vertices ih => exact ih (hclasses.addToClasses hgraph v)

theorem exists_colour_foldl {graph : Adjacency n} {classes : List (List (Fin n))}
    {vertices : List (Fin n)} {u : Fin n}
    (hu : u ∈ vertices ∨ ∃ colour ∈ classes, u ∈ colour) :
    ∃ colour ∈ vertices.foldl (fun classes v => graph.addToClasses v classes) classes,
      u ∈ colour := by
  induction vertices generalizing classes with
  | nil => exact hu.resolve_left List.not_mem_nil
  | cons v vertices ih =>
      apply ih
      rw [mem_addToClasses, List.mem_cons] at *
      tauto

theorem length_le_of_isColouring {graph : Adjacency n} {classes : List (List (Fin n))}
    (hclasses : graph.IsColouring classes) {clique : List (Fin n)}
    (hclique : graph.IsCliqueList clique)
    (hcoloured : ∀ u ∈ clique, ∃ colour ∈ classes, u ∈ colour) :
    clique.length ≤ classes.length := by
  induction classes generalizing clique with
  | nil =>
      cases clique with
      | nil => exact le_rfl
      | cons u clique => simpa using hcoloured u List.mem_cons_self
  | cons head classes ih =>
      have hsplit := List.length_eq_length_filter_add (l := clique) fun u => head.contains u
      have hinside : (clique.filter fun u => head.contains u).length ≤ 1 := by
        have hsub : graph.IsCliqueList (clique.filter fun u => head.contains u) :=
          hclique.sublist List.filter_sublist
        rcases hfilter : clique.filter fun u => head.contains u with _ | ⟨u, _ | ⟨v, rest⟩⟩
        · simp
        · simp
        · rw [hfilter] at hsub
          have hadj : graph.adjacent u v = true :=
            (List.pairwise_cons.mp hsub).1 v List.mem_cons_self
          have hmem : ∀ w, w ∈ u :: v :: rest → w ∈ head := by
            intro w hw
            rw [← hfilter] at hw
            simpa using (List.mem_filter.mp hw).2
          rw [hclasses head List.mem_cons_self u (hmem u (by simp)) v (hmem v (by simp))] at hadj
          contradiction
      have houtside : (clique.filter fun u => !head.contains u).length ≤ classes.length := by
        apply ih (fun colour hcolour => hclasses colour (List.mem_cons_of_mem head hcolour))
        · exact hclique.sublist List.filter_sublist
        · intro u hu
          obtain ⟨hmem, hout⟩ := List.mem_filter.mp hu
          obtain ⟨colour, hcolour, hin⟩ := hcoloured u hmem
          rcases List.mem_cons.mp hcolour with rfl | hcolour
          · simp [hin] at hout
          · exact ⟨colour, hcolour, hin⟩
      rw [List.length_cons]
      omega

theorem bounds_colourClasses {graph : Adjacency n} (hgraph : graph.IsUndirected) :
    graph.Bounds fun vertices => (graph.colourClasses vertices).length := by
  intro vertices clique hsubset hclique
  apply length_le_of_isColouring _ hclique
  · intro u hu
    exact exists_colour_foldl (Or.inl (hsubset hu))
  · exact isColouring_foldl hgraph (by intro colour hcolour; contradiction) vertices

theorem bounds_length {graph : Adjacency n} (hgraph : graph.IsUndirected) :
    graph.Bounds List.length := by
  intro vertices clique hsubset hclique
  exact (List.subperm_of_subset (hclique.nodup hgraph) hsubset).length_le

/-- Cutting by colour classes instead of by the number of candidates changes
nothing about the clique that a search with any number of expansions finds. -/
theorem best_expand_eq_best_expandUnder_length {graph : Adjacency n}
    (hgraph : graph.IsUndirected) {depth : Nat} {search : Search n}
    (hallowance : search.allowance = none) (hstopped : search.stopped = false)
    (clique candidates excluded : List (Fin n)) :
    (graph.expand depth search clique candidates excluded).best =
      (graph.expandUnder List.length depth search clique candidates excluded).best := by
  rw [expand_eq_expandUnder,
    best_expandUnder hgraph (bounds_colourClasses hgraph)
      (stopped_expandUnder_of_none hallowance hstopped).2,
    best_expandUnder hgraph (bounds_length hgraph)
      (stopped_expandUnder_of_none hallowance hstopped).2]

/-! ## The whole search -/

/-- A vertex that every member of a maximum clique is joined to would make it
larger. -/
theorem unextendable_of_isMaximumClique {graph : Adjacency n} (hgraph : graph.IsUndirected)
    {largest : Finset (Fin n)}
    (hlargest : (graph.simpleGraph hgraph).IsMaximumClique largest) :
    graph.Unextendable (List.finRange n) [] largest := by
  constructor
  · exact fun u _ => List.mem_finRange u
  · exact fun u hu v hv hne => hlargest.isClique hu hv hne
  · intro w _
    by_contra hall
    push Not at hall
    have hjoin : ∀ u ∈ largest, graph.adjacent w u = true :=
      fun u hu => by simpa using hall u hu
    have hfresh : w ∉ largest := by
      intro hw
      have hself := hjoin w hw
      rw [hgraph.loopless w] at hself
      contradiction
    have hinsert : (graph.simpleGraph hgraph).IsClique (insert w largest : Finset (Fin n)) := by
      rw [Finset.coe_insert]
      exact hlargest.isClique.insert fun u hu _ => hjoin u hu
    have hcard := hlargest.maximum _ hinsert
    rw [Finset.card_insert_of_notMem hfresh] at hcard
    omega

/-- From all vertices, and starting with a clique, a search that is not stopped
ends with a clique that no clique exceeds. -/
theorem isMaximumClique_expandUnder {graph : Adjacency n} (hgraph : graph.IsUndirected)
    {bound : List (Fin n) → Nat} (hbound : graph.Bounds bound) {search : Search n}
    (hbest : graph.IsCliqueList search.best)
    (hrun : (graph.expandUnder bound (n + 1) search [] (List.finRange n) []).stopped = false) :
    let result := graph.expandUnder bound (n + 1) search [] (List.finRange n) []
    graph.IsCliqueList result.best ∧
      (graph.simpleGraph hgraph).IsMaximumClique result.best.toFinset := by
  have hfold : (graph.expandUnder bound (n + 1) search [] (List.finRange n) []).best =
      (graph.leaves (n + 1) [] (List.finRange n) []).foldl keepLonger search.best :=
    best_expandUnder hgraph hbound hrun
  have hclique : graph.IsCliqueList
      (graph.expandUnder bound (n + 1) search [] (List.finRange n) []).best := by
    rw [hfold]
    rcases foldl_keepLonger_mem search.best
      (graph.leaves (n + 1) [] (List.finRange n) []) with heq | hmem
    · rw [heq]
      exact hbest
    · obtain ⟨added, hadded, -, hpairwise⟩ := exists_added_of_mem_leaves hgraph hmem
      rw [hadded, List.append_nil]
      exact hpairwise
  refine ⟨hclique, hclique.isClique hgraph, ?_⟩
  obtain ⟨largest, hlargest⟩ := (graph.simpleGraph hgraph).maximumClique_exists
  have hmet : ∃ leaf ∈ graph.leaves (n + 1) [] (List.finRange n) [],
      leaf.length = ([] : List (Fin n)).length + largest.card :=
    exists_leaf_of_unextendable hgraph (by simp)
      (unextendable_of_isMaximumClique hgraph hlargest)
  obtain ⟨leaf, hleaf, hlength⟩ := hmet
  intro other hother
  calc
    other.card ≤ largest.card := hlargest.maximum other hother
    _ = leaf.length := by simpa using hlength.symm
    _ ≤ (graph.expandUnder bound (n + 1) search [] (List.finRange n) []).best.length := by
      rw [hfold]
      exact length_le_foldl_keepLonger_of_mem hleaf
    _ = (graph.expandUnder bound (n + 1) search [] (List.finRange n) []).best.toFinset.card :=
      (List.toFinset_card_of_nodup (hclique.nodup hgraph)).symm

end Adjacency
end SuspicionMonitor
