import SuspicionMonitor.Proofs.CandidateFloor
import SuspicionMonitor.Proofs.CliqueSearch

/-!
# Maximum candidate sets

An independent set is a clique of the complement, so the branching search
over the complement finds a maximum independent set unless it is stopped.
For the graph of mutual suspicion this is a largest set of replicas of the
view no two of which suspect each other, and it is the candidate set if it
has the `f + 1` members that are asked for.
-/

namespace SuspicionMonitor

namespace Adjacency

variable {n : Nat}

theorem adjacent_complement {graph : Adjacency n} {u v : Fin n} :
    graph.complement.adjacent u v = true ↔ u ≠ v ∧ graph.adjacent u v = false := by
  simp [complement]

theorem IsUndirected.complement {graph : Adjacency n} (hgraph : graph.IsUndirected) :
    graph.complement.IsUndirected := by
  constructor
  · intro u v
    rw [Bool.eq_iff_iff, adjacent_complement, adjacent_complement, hgraph.symm u v, ne_comm]
  · intro v
    rw [← Bool.not_eq_true, adjacent_complement]
    exact fun hadj => hadj.1 rfl

theorem simpleGraph_complement {graph : Adjacency n} (hgraph : graph.IsUndirected) :
    graph.complement.simpleGraph hgraph.complement = (graph.simpleGraph hgraph)ᶜ := by
  ext u v
  rw [SimpleGraph.compl_adj]
  change graph.complement.adjacent u v = true ↔ u ≠ v ∧ ¬ graph.adjacent u v = true
  rw [adjacent_complement, Bool.not_eq_true]

theorem mem_of_leastConnected?_eq_some {graph : Adjacency n} {remaining : List (Fin n)}
    {v : Fin n} (hv : graph.leastConnected? remaining = some v) : v ∈ remaining := by
  obtain ⟨scored, hscored, rfl⟩ := Option.map_eq_some_iff.mp hv
  obtain ⟨u, hu, rfl⟩ := List.mem_map.mp (List.minOn?_mem hscored)
  exact hu

theorem greedyFrom_subset (graph : Adjacency n) (rounds : Nat) (remaining : List (Fin n)) :
    graph.greedyFrom rounds remaining ⊆ remaining := by
  induction rounds generalizing remaining with
  | zero => exact List.nil_subset remaining
  | succ rounds ih =>
      unfold greedyFrom
      split
      · exact List.nil_subset remaining
      next v hv =>
        intro u hu
        rcases List.mem_cons.mp hu with rfl | hu
        · exact mem_of_leastConnected?_eq_some hv
        · exact (List.mem_filter.mp (ih _ hu)).1

/-- Whoever is taken later has survived the discarding of all neighbours. -/
theorem isCliqueList_greedyFrom (graph : Adjacency n) (rounds : Nat)
    (remaining : List (Fin n)) :
    graph.complement.IsCliqueList (graph.greedyFrom rounds remaining) := by
  induction rounds generalizing remaining with
  | zero => exact List.Pairwise.nil
  | succ rounds ih =>
      unfold greedyFrom
      split
      · exact List.Pairwise.nil
      next v hv =>
        refine List.pairwise_cons.mpr ⟨?_, ih _⟩
        intro u hu
        have hkept := (List.mem_filter.mp (graph.greedyFrom_subset _ _ hu)).2
        simp only [Bool.and_eq_true, bne_iff_ne, Bool.not_eq_true'] at hkept
        exact adjacent_complement.mpr ⟨Ne.symm hkept.1, hkept.2⟩

/-- The search for an independent set that cuts branches off by any bound. -/
def searchUnder (graph : Adjacency n) (bound : List (Fin n) → Nat) (allowance : Option Nat) :
    Search n :=
  graph.complement.expandUnder bound (n + 1)
    { best := graph.greedyIndependentSet, allowance, stopped := false } [] (List.finRange n) []

theorem maximumIndependentSet_eq_searchUnder (graph : Adjacency n) (allowance : Option Nat) :
    graph.maximumIndependentSet allowance =
      graph.searchUnder (fun vertices => (graph.complement.colourClasses vertices).length)
        allowance :=
  graph.complement.expand_eq_expandUnder _ _ _ _ _

/-- A maximum independent set has been found, unless the search was stopped. -/
def FindsMaximum (graph : Adjacency n) (hgraph : graph.IsUndirected) (search : Search n) : Prop :=
  search.stopped = false →
    search.best.Nodup ∧ (graph.simpleGraph hgraph).IsMaximumIndepSet search.best.toFinset

theorem findsMaximum_searchUnder {graph : Adjacency n} (hgraph : graph.IsUndirected)
    {bound : List (Fin n) → Nat} (hbound : graph.complement.Bounds bound)
    (allowance : Option Nat) : graph.FindsMaximum hgraph (graph.searchUnder bound allowance) := by
  intro hrun
  obtain ⟨hclique, hmaximum⟩ := isMaximumClique_expandUnder hgraph.complement hbound
    (graph.isCliqueList_greedyFrom n (List.finRange n)) hrun
  rw [simpleGraph_complement hgraph, SimpleGraph.isMaximumClique_compl] at hmaximum
  exact ⟨hclique.nodup hgraph.complement, hmaximum⟩

theorem findsMaximum_maximumIndependentSet {graph : Adjacency n} (hgraph : graph.IsUndirected)
    (allowance : Option Nat) :
    graph.FindsMaximum hgraph (graph.maximumIndependentSet allowance) := by
  rw [maximumIndependentSet_eq_searchUnder]
  exact findsMaximum_searchUnder hgraph (bounds_colourClasses hgraph.complement) allowance

theorem stopped_searchUnder_none (graph : Adjacency n) (bound : List (Fin n) → Nat) :
    (graph.searchUnder bound none).stopped = false :=
  (stopped_expandUnder_of_none rfl rfl).2

theorem stopped_maximumIndependentSet_none (graph : Adjacency n) :
    (graph.maximumIndependentSet none).stopped = false := by
  rw [maximumIndependentSet_eq_searchUnder]
  exact graph.stopped_searchUnder_none _

end Adjacency

namespace SuspicionGraph

/-- Replicas of the view no two of which suspect each other. -/
structure IsIndependent (graph : SuspicionGraph) (ids : Finset ReplicaId) : Prop where
  inView : ∀ id ∈ ids, graph.view.contains id = true
  apart : ∀ u ∈ ids, ∀ v ∈ ids, graph.suspectEachOther u v = false

/-- An independent set which no other exceeds in size. -/
structure IsMaximumIndependent (graph : SuspicionGraph) (ids : Finset ReplicaId) : Prop
    extends graph.IsIndependent ids where
  maximum : ∀ other, graph.IsIndependent other → other.card ≤ ids.card

theorem isUndirected_mutualAdjacency {graph : SuspicionGraph} (hproper : graph.IsProper) :
    graph.mutualAdjacency.IsUndirected := by
  constructor
  · intro u v
    simp only [mutualAdjacency, Adjacency.adjacent_ofRel]
    exact graph.suspectEachOther_comm _ _
  · intro v
    simp only [mutualAdjacency, Adjacency.adjacent_ofRel]
    rw [← Bool.not_eq_true, suspectEachOther_iff]
    exact fun hself => hproper.ne hself.1 rfl

def vertexId {n : Nat} (v : Fin n) : ReplicaId := UInt32.ofNat v

theorem vertexId_injective {n : Nat} (hids : n ≤ UInt32.size) :
    Function.Injective (vertexId (n := n)) :=
  fun _ _ heq => ofNat_inj hids heq

theorem exists_image_vertexId {view : View} {ids : Finset ReplicaId}
    (hview : ∀ id ∈ ids, view.contains id = true) :
    ∃ vertices : Finset (Fin view.n), vertices.image vertexId = ids := by
  refine ⟨Finset.univ.filter fun v => vertexId v ∈ ids, ?_⟩
  ext id
  simp only [Finset.mem_image, Finset.mem_filter, Finset.mem_univ, true_and]
  constructor
  · rintro ⟨v, hv, rfl⟩
    exact hv
  · intro hid
    have hlt : id.toNat < view.n := by simpa [View.contains] using hview id hid
    have heq : vertexId (⟨id.toNat, hlt⟩ : Fin view.n) = id := UInt32.ofNat_toNat
    exact ⟨⟨id.toNat, hlt⟩, by rwa [heq], heq⟩

/-- Independence of replicas is independence of their vertices. -/
theorem isIndependent_image_vertexId {graph : SuspicionGraph} (hproper : graph.IsProper)
    (hids : graph.view.n ≤ UInt32.size) (vertices : Finset (Fin graph.view.n)) :
    graph.IsIndependent (vertices.image vertexId) ↔
      (graph.mutualAdjacency.simpleGraph
        (isUndirected_mutualAdjacency hproper)).IsIndepSet vertices := by
  have hadj : ∀ u v, graph.mutualAdjacency.adjacent u v =
      graph.suspectEachOther (vertexId u) (vertexId v) :=
    fun u v => Adjacency.adjacent_ofRel _ u v
  constructor
  · intro hindependent u hu v hv hne
    have hapart := hindependent.apart _ (Finset.mem_image_of_mem vertexId hu)
      _ (Finset.mem_image_of_mem vertexId hv)
    change ¬ graph.mutualAdjacency.adjacent u v = true
    rw [hadj, hapart]
    exact Bool.false_ne_true
  · intro hindependent
    constructor
    · intro id hid
      obtain ⟨v, _, rfl⟩ := Finset.mem_image.mp hid
      exact contains_ofNat hids v
    · intro first hfirst second hsecond
      obtain ⟨u, hu, rfl⟩ := Finset.mem_image.mp hfirst
      obtain ⟨v, hv, rfl⟩ := Finset.mem_image.mp hsecond
      rw [← hadj]
      by_cases heq : u = v
      · rw [heq]
        exact (isUndirected_mutualAdjacency hproper).loopless v
      · exact Bool.eq_false_iff.mpr (hindependent hu hv heq)

/-! ## The searched candidates -/

theorem toFinset_independentCandidates (graph : SuspicionGraph) (allowance : Option Nat) :
    (graph.independentCandidates allowance).ids.toFinset =
      (graph.mutualAdjacency.maximumIndependentSet allowance).best.toFinset.image vertexId := by
  ext id
  simp only [List.mem_toFinset, Finset.mem_image, mem_independentCandidates, vertexId]

theorem isMaximumIndependent_independentCandidates {graph : SuspicionGraph}
    (hproper : graph.IsProper) (hids : graph.view.n ≤ UInt32.size) {allowance : Option Nat}
    (hrun : (graph.independentCandidates allowance).timedOut = false) :
    graph.IsMaximumIndependent (graph.independentCandidates allowance).ids.toFinset := by
  let best := (graph.mutualAdjacency.maximumIndependentSet allowance).best.toFinset
  obtain ⟨-, hmaximum⟩ := Adjacency.findsMaximum_maximumIndependentSet
    (isUndirected_mutualAdjacency hproper) allowance hrun
  rw [toFinset_independentCandidates]
  refine ⟨(isIndependent_image_vertexId hproper hids best).mpr hmaximum.isIndepSet, ?_⟩
  intro other hother
  obtain ⟨vertices, rfl⟩ := exists_image_vertexId hother.inView
  have hcard := hmaximum.maximum vertices
    ((isIndependent_image_vertexId hproper hids vertices).mp hother)
  rw [Finset.card_image_of_injective _ (vertexId_injective hids),
    Finset.card_image_of_injective _ (vertexId_injective hids)]
  exact hcard

/-- With time for any number of expansions no search is stopped. -/
theorem timedOut_candidates_of_budget {settings : GraphSettings}
    (hbudget : settings.exhaustiveBudget ≠ 0) (graph : SuspicionGraph) :
    (graph.candidates settings).timedOut = false := by
  have hallowance : settings.searchAllowance none = none := if_neg hbudget
  have hfound : (graph.independentCandidates (settings.searchAllowance none)).timedOut = false := by
    rw [hallowance]
    exact graph.mutualAdjacency.stopped_maximumIndependentSet_none
  unfold candidates
  split
  · dsimp only
    split <;> exact hfound
  · rfl

/-- The answer of a search that is not stopped: the maximum independent set
it has found, or the heuristic one if that is too small. -/
structure AnswersMaximum (graph : SuspicionGraph) (ids : List ReplicaId) : Prop where
  nodup : ids.Nodup
  maximum : (∃ set, graph.IsIndependent set ∧ graph.view.candidateFloor ≤ set.card) →
    graph.IsMaximumIndependent ids.toFinset
  heuristic : (∀ set, graph.IsIndependent set → set.card < graph.view.candidateFloor) →
    ids = graph.heuristicCandidates

theorem answersMaximum_candidates {graph : SuspicionGraph} (hproper : graph.IsProper)
    (hids : graph.view.n ≤ UInt32.size) {settings : GraphSettings}
    (hsearch : settings.searches graph.view.n = true) {inTime : Option Nat}
    (hrun : (graph.candidates settings inTime).timedOut = false) :
    graph.AnswersMaximum (graph.candidates settings inTime).ids := by
  let found := graph.independentCandidates (settings.searchAllowance inTime)
  have hcandidates : graph.candidates settings inTime =
      if graph.view.candidateFloor ≤ found.ids.length then found
      else { found with ids := graph.heuristicCandidates } := if_pos hsearch
  have hfound : found.timedOut = false := by
    rw [hcandidates] at hrun
    split at hrun <;> exact hrun
  have hmaximum : graph.IsMaximumIndependent found.ids.toFinset :=
    isMaximumIndependent_independentCandidates hproper hids hfound
  have hnodup : found.ids.Nodup := graph.nodup_independentCandidates _ hids
  have hcard : found.ids.toFinset.card = found.ids.length := List.toFinset_card_of_nodup hnodup
  rw [hcandidates]
  by_cases hfloor : graph.view.candidateFloor ≤ found.ids.length
  · rw [if_pos hfloor]
    refine ⟨hnodup, fun _ => hmaximum, ?_⟩
    intro hsmall
    have hlt := hsmall _ hmaximum.toIsIndependent
    omega
  · rw [if_neg hfloor]
    refine ⟨graph.nodup_heuristicCandidates, ?_, fun _ => rfl⟩
    rintro ⟨set, hset, hlarge⟩
    have hle := hmaximum.maximum set hset
    omega

/-- The search finds a maximum independent set of every graph unless it is
stopped, which it never is when it may make any number of expansions, and so
does a search that cuts branches off by the number of candidates that are left.
For every graph that a run leaves behind, the candidate set is that set if any
independent set reaches the floor, and the heuristic one if none does. -/
theorem search_finds_maximum_candidates :
    (∀ (n : Nat) (adjacency : Adjacency n) (hundirected : adjacency.IsUndirected),
      (∀ allowance,
        adjacency.FindsMaximum hundirected (adjacency.maximumIndependentSet allowance) ∧
          adjacency.FindsMaximum hundirected (adjacency.searchUnder List.length allowance)) ∧
        (adjacency.maximumIndependentSet none).stopped = false ∧
        (adjacency.searchUnder List.length none).stopped = false ∧
        (adjacency.maximumIndependentSet none).best =
          (adjacency.searchUnder List.length none).best) ∧
      ∀ (start : View) (calls : List GraphCall) (settings : GraphSettings),
        settings.strategy = .exhaustive →
        (after start calls).view.n ≤ settings.exhaustiveLimit →
        (∀ inTime, ((after start calls).candidates settings inTime).timedOut = false →
          ∃ ids, ((after start calls).candidateSet? settings inTime).value = some ids ∧
            (after start calls).AnswersMaximum ids) ∧
        (settings.exhaustiveBudget ≠ 0 →
          ((after start calls).candidates settings).timedOut = false) := by
  constructor
  · intro n adjacency hundirected
    have hcomplement := hundirected.complement
    refine ⟨fun allowance => ⟨?_, ?_⟩, adjacency.stopped_maximumIndependentSet_none,
      adjacency.stopped_searchUnder_none _, ?_⟩
    · exact Adjacency.findsMaximum_maximumIndependentSet hundirected allowance
    · exact Adjacency.findsMaximum_searchUnder hundirected (Adjacency.bounds_length hcomplement)
        allowance
    · exact Adjacency.best_expand_eq_best_expandUnder_length hcomplement rfl rfl _ _ _
  · intro start calls settings hstrategy hlimit
    refine ⟨fun inTime hrun => ?_, fun hbudget => timedOut_candidates_of_budget hbudget _⟩
    have hproper := isProper_after start calls
    have hsearch : settings.searches (after start calls).view.n = true := by
      simp [GraphSettings.searches, hstrategy, hlimit]
    have hids : (after start calls).view.n < UInt32.size :=
      lt_of_le_of_lt (searches_le hsearch) (by decide)
    refine ⟨((after start calls).candidates settings inTime).ids, ?_,
      answersMaximum_candidates hproper hids.le hsearch hrun⟩
    obtain ⟨ids, hvalue, -⟩ := hasCandidates_of_ids hids settings inTime
    rw [value_candidateSet?] at hvalue ⊢
    rw [if_pos (Option.ite_none_right_eq_some.mp hvalue).1]

/-- Three vertices in a row keep the outer two, and of two replicas that
suspect each other one is left out. -/
theorem maximum_candidates_of_row_and_pair :
    let row : Adjacency 3 := .ofRel fun u v => u.val + 1 == v.val || v.val + 1 == u.val
    let pair := after ⟨4, 1, by decide⟩ [.add 0 1, .add 1 0]
    let settings : GraphSettings := { GraphSettings.standard with strategy := .exhaustive }
    (∃ hrow : row.IsUndirected, (row.simpleGraph hrow).IsMaximumIndepSet {0, 2}) ∧
      (pair.candidateSet? settings).value = some [0, 2, 3] ∧ pair.AnswersMaximum [0, 2, 3] := by
  intro row pair settings
  have hrow : row.IsUndirected := ⟨by decide, by decide⟩
  have hbest : (row.maximumIndependentSet none).best = [0, 2] := by decide
  obtain ⟨hfinds, hrun, -⟩ := search_finds_maximum_candidates.1 3 row hrow
  have hset := ((hfinds none).1 hrun).2
  rw [hbest] at hset
  have hvalue : (pair.candidateSet? settings).value = some [0, 2, 3] := by decide
  obtain ⟨hanswers, hrun⟩ := search_finds_maximum_candidates.2 ⟨4, 1, by decide⟩
    [.add 0 1, .add 1 0] settings rfl (by decide)
  obtain ⟨ids, hids, hanswers⟩ := hanswers none (hrun (by decide))
  rw [Option.some.inj (hids.symm.trans hvalue)] at hanswers
  exact ⟨⟨hrow, hset⟩, hvalue, hanswers⟩

end SuspicionGraph

end SuspicionMonitor
