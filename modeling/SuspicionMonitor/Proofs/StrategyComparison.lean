import SuspicionMonitor.Proofs.IndependentCandidates

/-!
# The two strategies compared

A search that is not stopped leaves at least as many candidates as the
heuristic does.  If the heuristic has released nobody, its candidates are an
independent set, and none is larger than the one that was searched.  If it has
released replicas, it keeps no more than the floor asks for, and the searched
set is the answer only if it has as many.
-/

namespace SuspicionMonitor
namespace SuspicionGraph

theorem candidates_heuristic (graph : SuspicionGraph) (settings : GraphSettings)
    (inTime : Option Nat) :
    graph.candidates { settings with strategy := .heuristic } inTime =
      ⟨graph.heuristicCandidates, false⟩ := by
  simp [candidates, GraphSettings.searches]

theorem length_heuristicCandidates_le_independent {graph : SuspicionGraph}
    (hproper : graph.IsProper) (hids : graph.view.n ≤ UInt32.size) {allowance : Option Nat}
    (hrun : (graph.independentCandidates allowance).timedOut = false)
    (henough : graph.view.candidateFloor ≤ (graph.independentCandidates allowance).ids.length) :
    graph.heuristicCandidates.length ≤ (graph.independentCandidates allowance).ids.length := by
  rcases Nat.lt_or_ge graph.view.maxExclusions graph.exclusions.size with hreleased | hkept
  · exact (length_heuristicCandidates_le hproper hreleased).trans henough
  · have hmaximum := isMaximumIndependent_independentCandidates hproper hids hrun
    have hcard := hmaximum.maximum _ (isIndependent_heuristicCandidates hproper hkept)
    rwa [List.toFinset_card_of_nodup graph.nodup_heuristicCandidates,
      List.toFinset_card_of_nodup (graph.nodup_independentCandidates allowance hids)] at hcard

theorem length_heuristicCandidates_le_candidates {graph : SuspicionGraph}
    (hproper : graph.IsProper) {settings : GraphSettings} {inTime : Option Nat}
    (hrun : (graph.candidates settings inTime).timedOut = false) :
    graph.heuristicCandidates.length ≤ (graph.candidates settings inTime).ids.length := by
  rcases graph.ids_candidates settings inTime with hheuristic | ⟨hsearch, hfound, henough⟩
  · rw [hheuristic]
  · have hids : graph.view.n ≤ UInt32.size := (searches_le hsearch).trans (by decide)
    rw [hfound] at hrun henough ⊢
    exact length_heuristicCandidates_le_independent hproper hids hrun henough

theorem nodup_candidates (graph : SuspicionGraph) (settings : GraphSettings)
    (inTime : Option Nat) : (graph.candidates settings inTime).ids.Nodup := by
  rcases graph.ids_candidates settings inTime with hheuristic | ⟨hsearch, hfound, -⟩
  · rw [hheuristic]
    exact graph.nodup_heuristicCandidates
  · rw [hfound]
    exact graph.nodup_independentCandidates _ ((searches_le hsearch).trans (by decide))

/-- The heuristic has an answer wherever the search has one. -/
theorem candidateFloor_le_candidates_iff (graph : SuspicionGraph) (settings : GraphSettings)
    (inTime : Option Nat) :
    graph.view.candidateFloor ≤ (graph.candidates settings inTime).ids.length ↔
      graph.view.candidateFloor ≤ graph.heuristicCandidates.length := by
  rcases graph.ids_candidates settings inTime with hheuristic | ⟨hsearch, -, henough⟩
  · rw [hheuristic]
  · have hids : graph.view.n < UInt32.size := lt_of_le_of_lt (searches_le hsearch) (by decide)
    simp [henough, candidateFloor_le_heuristicCandidates hids]

/-- With all other settings equal, an exhaustive search that is not stopped
answers with at least as many candidates as the heuristic, or neither has an
answer, which cannot be if 32-bit ids can name all replicas of the view.  Given
a budget, and time for any number of expansions, no search is stopped. -/
theorem search_leaves_no_fewer_candidates (start : View) (calls : List GraphCall)
    (settings : GraphSettings) :
    let graph := after start calls
    let exhaustive := { settings with strategy := .exhaustive }
    let answer := fun strategy inTime =>
      (graph.candidateSet? { settings with strategy } inTime).value
    (∀ inTime, (graph.candidates exhaustive inTime).timedOut = false →
      Option.Rel (fun few many => few.Nodup ∧ many.Nodup ∧ few.length ≤ many.length)
          (answer .heuristic inTime) (answer .exhaustive inTime) ∧
        (graph.view.n < UInt32.size → (answer .heuristic inTime).isSome)) ∧
      (settings.exhaustiveBudget ≠ 0 → (graph.candidates exhaustive).timedOut = false) := by
  intro graph exhaustive answer
  constructor
  · intro inTime hrun
    have hheuristic : answer .heuristic inTime =
        if graph.view.candidateFloor ≤ graph.heuristicCandidates.length then
          some graph.heuristicCandidates
        else
          none := by
      simp only [answer, value_candidateSet?, candidates_heuristic]
    have hexhaustive : answer .exhaustive inTime =
        if graph.view.candidateFloor ≤ graph.heuristicCandidates.length then
          some (graph.candidates exhaustive inTime).ids
        else
          none := by
      simp only [answer, value_candidateSet?, candidateFloor_le_candidates_iff]
      rfl
    by_cases hfloor : graph.view.candidateFloor ≤ graph.heuristicCandidates.length
    · rw [hheuristic, hexhaustive, if_pos hfloor, if_pos hfloor]
      refine ⟨.some ⟨graph.nodup_heuristicCandidates, graph.nodup_candidates _ _, ?_⟩,
        fun _ => rfl⟩
      exact length_heuristicCandidates_le_candidates (isProper_after start calls) hrun
    · rw [hheuristic, hexhaustive, if_neg hfloor, if_neg hfloor]
      refine ⟨.none, fun hids => ?_⟩
      exact absurd (candidateFloor_le_heuristicCandidates hids) hfloor
  · intro hbudget
    have hgiven : exhaustive.exhaustiveBudget ≠ 0 := hbudget
    exact timedOut_candidates_of_budget hgiven graph

/-- One replica and three others suspect each other.  The heuristic excludes
it with one of the three, the search only it. -/
theorem star_leaves_one_more_to_search :
    let graph := after ⟨7, 2, by decide⟩ [.add 0 1, .add 1 0, .add 0 2, .add 2 0, .add 0 3, .add 3 0]
    let answer := fun strategy =>
      (graph.candidateSet? { GraphSettings.standard with strategy }).value
    answer .heuristic = some [2, 3, 4, 5, 6] ∧ answer .exhaustive = some [1, 2, 3, 4, 5, 6] ∧
      Option.Rel (fun few many => few.Nodup ∧ many.Nodup ∧ few.length ≤ many.length)
        (answer .heuristic) (answer .exhaustive) := by
  intro graph answer
  obtain ⟨hleaves, hrun⟩ := search_leaves_no_fewer_candidates ⟨7, 2, by decide⟩ _ .standard
  exact ⟨by decide +kernel, by decide +kernel, (hleaves none (hrun (by decide))).1⟩

end SuspicionGraph
end SuspicionMonitor
