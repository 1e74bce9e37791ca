import SuspicionMonitor.Proofs.IndependentCandidates

/-!
# Mutual suspicion decides

Two graphs of one view in which the same replicas suspect each other have the
same matching, the same triangles and the same adjacency to search, whatever
one-sided accusations and weights they hold.  The only other thing that is
looked at is how many replicas suspect an excluded one, and that only when
replicas have to be released.
-/

namespace SuspicionMonitor
namespace SuspicionGraph

/-- Graphs of one view in which the same replicas suspect each other. -/
structure SameMutual (first second : SuspicionGraph) : Prop where
  view : first.view = second.view
  pairs : ∀ u v, first.suspectEachOther u v = second.suspectEachOther u v

/-- Edges are listed in ascending order, so the list of the pairs is a function
of the set. -/
theorem SameMutual.mutualPairs_eq {first second : SuspicionGraph}
    (hsame : SameMutual first second) : first.mutualPairs = second.mutualPairs := by
  have hmem : ∀ graph : SuspicionGraph, ∀ edge : Edge,
      edge ∈ (graph.weights.keys.filter fun edge =>
        edge.reporter < edge.suspect && graph.suspects edge.suspect edge.reporter) ↔
      edge.reporter < edge.suspect ∧
        graph.suspectEachOther edge.reporter edge.suspect = true := by
    intro graph edge
    simp [suspectEachOther, suspects, List.mem_filter, and_left_comm]
  unfold mutualPairs
  congr 1
  refine OrderedSet.eq_of_mem_iff (first.weights.ordered_keys.filter _)
    (second.weights.ordered_keys.filter _) ?_
  intro edge
  rw [hmem, hmem, hsame.pairs]

/-- No replica suspects itself, so the ascending pairs tell all. -/
theorem sameMutual_iff_mutualPairs_eq {first second : SuspicionGraph}
    (hfirst : first.IsProper) (hsecond : second.IsProper) (hview : first.view = second.view) :
    SameMutual first second ↔ first.mutualPairs = second.mutualPairs := by
  refine ⟨fun hsame => hsame.mutualPairs_eq, fun hpairs => ⟨hview, ?_⟩⟩
  have hlt : ∀ u v, u < v → first.suspectEachOther u v = second.suspectEachOther u v := by
    intro u v hlt
    have hiff : (u, v) ∈ first.mutualPairs ↔ (u, v) ∈ second.mutualPairs := by rw [hpairs]
    rw [mem_mutualPairs, mem_mutualPairs, and_iff_right hlt, and_iff_right hlt] at hiff
    exact Bool.eq_iff_iff.mpr hiff
  have hself : ∀ {graph : SuspicionGraph}, graph.IsProper → ∀ u,
      graph.suspectEachOther u u = false := by
    intro graph hproper u
    rw [Bool.eq_false_iff, Ne, suspectEachOther_iff]
    exact fun hedge => hproper.ne hedge.1 rfl
  intro u v
  by_cases heq : u = v
  · rw [heq, hself hfirst, hself hsecond]
  rcases UInt32.lt_or_lt_of_ne heq with hless | hgreater
  · exact hlt u v hless
  · rw [suspectEachOther_comm, second.suspectEachOther_comm]
    exact hlt v u hgreater

theorem SameMutual.triangles_eq {first second : SuspicionGraph}
    (hsame : SameMutual first second) : first.triangles = second.triangles := by
  simp only [triangles, hsame.mutualPairs_eq, hsame.pairs]

theorem SameMutual.exclusions_eq {first second : SuspicionGraph}
    (hsame : SameMutual first second) : first.exclusions = second.exclusions := by
  unfold exclusions matching
  rw [hsame.mutualPairs_eq, hsame.triangles_eq]

theorem released_congr {first second : SuspicionGraph} (hview : first.view = second.view)
    {excluded : Std.ExtTreeSet ReplicaId}
    (hdegree : ∀ id ∈ excluded, first.inDegree id = second.inDegree id) :
    first.released excluded = second.released excluded := by
  have hranked : excluded.toList.map (fun id => (first.inDegree id, id)) =
      excluded.toList.map fun id => (second.inDegree id, id) := by
    apply List.map_congr_left
    intro id hid
    rw [hdegree id (Std.ExtTreeSet.mem_toList.mp hid)]
  rw [released, released, releaseOrder, releaseOrder, hranked, hview]

theorem SameMutual.heuristicCandidates_eq_of_kept {first second : SuspicionGraph}
    (hsame : SameMutual first second)
    (hsize : first.exclusions.size ≤ first.view.maxExclusions) :
    first.heuristicCandidates = second.heuristicCandidates := by
  have hsize' : second.exclusions.size ≤ second.view.maxExclusions := by
    rwa [← hsame.exclusions_eq, ← hsame.view]
  unfold heuristicCandidates
  rw [clampExclusions_eq_self hsize, clampExclusions_eq_self hsize', hsame.exclusions_eq,
    hsame.view]

theorem SameMutual.heuristicCandidates_eq_of_inDegree {first second : SuspicionGraph}
    (hsame : SameMutual first second)
    (hdegree : ∀ id ∈ first.exclusions, first.inDegree id = second.inDegree id) :
    first.heuristicCandidates = second.heuristicCandidates := by
  unfold heuristicCandidates clampExclusions
  rw [released_congr hsame.view hdegree, hsame.exclusions_eq, hsame.view]

theorem SameMutual.independentCandidates_eq {first second : SuspicionGraph}
    (hsame : SameMutual first second) (allowance : Option Nat) :
    first.independentCandidates allowance = second.independentCandidates allowance := by
  obtain ⟨hview, hpairs⟩ := hsame
  cases first with
  | mk view weights =>
      cases second with
      | mk view' weights' =>
          obtain rfl : view = view' := hview
          have hadjacency : mutualAdjacency ⟨view, weights⟩ = mutualAdjacency ⟨view, weights'⟩ := by
            simp only [mutualAdjacency, hpairs]
          unfold independentCandidates
          rw [hadjacency]

theorem SameMutual.searchAnswers {first second : SuspicionGraph}
    (hsame : SameMutual first second) {settings : GraphSettings} {inTime : Option Nat}
    (hanswers : first.SearchAnswers settings inTime) : second.SearchAnswers settings inTime := by
  obtain ⟨hsearches, henough⟩ := hanswers
  rw [hsame.view] at hsearches henough
  rw [hsame.independentCandidates_eq] at henough
  exact ⟨hsearches, henough⟩

theorem SameMutual.candidates_eq {first second : SuspicionGraph}
    (hsame : SameMutual first second) {settings : GraphSettings} {inTime : Option Nat}
    (hcase : first.SearchAnswers settings inTime ∨
      first.heuristicCandidates = second.heuristicCandidates) :
    first.candidates settings inTime = second.candidates settings inTime := by
  rcases hcase with hanswers | hheuristic
  · rw [hanswers.candidates_eq, (hsame.searchAnswers hanswers).candidates_eq,
      hsame.independentCandidates_eq]
  · unfold candidates
    simp only [hsame.view, hsame.independentCandidates_eq, hheuristic]

/-- Two graphs of one view in which the same replicas suspect each other have
the same candidates if the search answers or nobody has to be released.  Who
is released depends, beyond that, on how many replicas suspect each excluded
one, and on nothing else. -/
theorem same_candidates_of_same_mutual_suspicion (first second : SuspicionGraph)
    (settings : GraphSettings) (inTime : Option Nat) (hsame : SameMutual first second)
    (hcase : first.SearchAnswers settings inTime ∨
      first.exclusions.size ≤ first.view.maxExclusions ∨
      ∀ id ∈ first.exclusions, first.inDegree id = second.inDegree id) :
    (first.candidateSet? settings inTime).value =
      (second.candidateSet? settings inTime).value := by
  have hcandidates : first.candidates settings inTime = second.candidates settings inTime := by
    apply hsame.candidates_eq
    rcases hcase with hanswers | hkept | hdegree
    · exact Or.inl hanswers
    · exact Or.inr (hsame.heuristicCandidates_eq_of_kept hkept)
    · exact Or.inr (hsame.heuristicCandidates_eq_of_inDegree hdegree)
  rw [value_candidateSet?, value_candidateSet?, hcandidates, hsame.view]

/-- More accusations, of which none is answered, and heavier edges beside the
same pair of replicas that suspect each other. -/
theorem pair_beside_one_sided_accusations :
    let view : View := ⟨4, 1, by decide⟩
    let first := after view [.add 0 1, .add 1 0]
    let second := after view [.add 2 0, .add 1 0, .add 1 0, .add 3 1, .add 0 1, .add 2 3]
    let stopped : GraphSettings :=
      { GraphSettings.standard with strategy := .exhaustive, exhaustiveBudget := 0 }
    SameMutual first second ∧ first.edgeCount = 2 ∧ second.edgeCount = 5 ∧
      (first.candidateSet? .standard).value = some [2, 3] ∧
      (first.candidateSet? .standard).value = (second.candidateSet? .standard).value ∧
      (first.candidateSet? stopped).value = (second.candidateSet? stopped).value := by
  intro view first second stopped
  have hfirst : first.IsProper := isProper_after view _
  have hsecond : second.IsProper := isProper_after view _
  have hview : first.view = second.view := by decide +kernel
  have hsame : SameMutual first second :=
    (sameMutual_iff_mutualPairs_eq hfirst hsecond hview).mpr (by decide +kernel)
  have hkept : first.exclusions.size ≤ first.view.maxExclusions := by decide +kernel
  have hanswers : first.SearchAnswers stopped := ⟨by decide +kernel, by decide +kernel⟩
  exact ⟨hsame, by decide +kernel, by decide +kernel, by decide +kernel,
    same_candidates_of_same_mutual_suspicion first second _ _ hsame (Or.inr (Or.inl hkept)),
    same_candidates_of_same_mutual_suspicion first second _ _ hsame (Or.inl hanswers)⟩

end SuspicionGraph
end SuspicionMonitor
