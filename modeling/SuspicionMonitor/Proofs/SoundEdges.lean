import SuspicionMonitor.Proofs.DoublePrecision
import SuspicionMonitor.Proofs.GraphRuns

/-!
# Sound edges

An edge appears with the weight of a suspicion and gains it again with each
further one.  A decay lowers the weight by whatever it is told to and drops the
edge if nothing positive is left.  So the weight of every edge is positive, also
after a decay by infinity or by something that is not a number.

The edge count that a graph reports is the one it has from then on.  Calls that
report none leave all edges as they are.
-/

namespace SuspicionMonitor

/-- An edge is missing or has a weight above zero. -/
def IsPositive (weight : Option Float) : Prop :=
  ∀ value, weight = some value → value > 0.0

theorem isPositive_none : IsPositive none := nofun

namespace IsPositive

variable {weight : Option Float}

theorem strengthened (hpositive : IsPositive weight) : IsPositive (strengthenedWeight weight) := by
  rintro _ ⟨⟩
  cases weight with
  | none => exact Binary64.zero_add_one_pos
  | some value => exact Binary64.add_one_pos (hpositive value rfl)

/-- What is left after a decay is compared with zero. -/
theorem weakened (hpositive : IsPositive weight) (strength : Float) :
    IsPositive (weakenedWeight strength weight) := by
  unfold weakenedWeight
  split
  · intro left hleft
    obtain ⟨value, -, hkept⟩ := Option.bind_eq_some_iff.mp hleft
    split at hkept
    next hlowered =>
      rw [← Option.some.inj hkept]
      exact hlowered
    next => contradiction
  · exact hpositive

theorem reweigh (hpositive : IsPositive weight) (reporter suspect : ReplicaId)
    (call : GraphCall) : IsPositive (call.reweigh reporter suspect weight) := by
  cases call with
  | add u v =>
      rw [GraphCall.reweigh]
      split
      · exact hpositive.strengthened
      · exact hpositive
  | populate suspicions =>
      exact Function.Iterate.rec IsPositive hpositive (fun _ => strengthened) _
  | remove strength => exact hpositive.weakened strength
  | clear => exact isPositive_none
  | resize view => exact isPositive_none
  | candidates settings inTime => exact hpositive

end IsPositive

/-- Whether the call accuses `suspect` in the name of `reporter`. -/
def GraphCall.Accuses (call : GraphCall) (reporter suspect : ReplicaId) : Prop :=
  call = .add reporter suspect ∨
    ∃ suspicion ∈ call.suspicions, suspicion.reporter = reporter ∧ suspicion.suspect = suspect

namespace SuspicionGraph

variable {graph : SuspicionGraph}

theorem suspects_of_weight? {u v : ReplicaId} {weight : Float}
    (hweight : graph.weight? u v = some weight) : graph.suspects u v = true :=
  Std.ExtTreeMap.contains_iff_mem.mpr
    (Std.ExtTreeMap.mem_iff_isSome_getElem?.mpr (Option.isSome_of_eq_some hweight))

/-- Nothing but an accusation makes an edge. -/
theorem suspects_or_accuses_of_suspects_perform {call : GraphCall} {u v : ReplicaId}
    (hedge : (graph.perform call).value.suspects u v = true) :
    graph.suspects u v = true ∨ call.Accuses u v := by
  cases call with
  | add reporter suspect =>
      rcases (graph.suspects_strengthen reporter suspect u v).mp hedge with hold | ⟨-, rfl, rfl⟩
      · exact Or.inl hold
      · exact Or.inr (Or.inl rfl)
  | populate suspicions =>
      rcases (graph.suspects_strengthenAll suspicions u v).mp hedge with hold | ⟨-, hnew⟩
      · exact Or.inl hold
      · exact Or.inr (Or.inr hnew)
  | remove strength =>
      rw [value_perform_remove] at hedge
      exact Or.inl (suspects_of_suspects_weaken hedge)
  | clear => exact absurd hedge (Bool.eq_false_iff.mp (suspects_empty graph.view u v))
  | resize view => exact absurd hedge (Bool.eq_false_iff.mp (suspects_empty view u v))
  | candidates settings inTime => exact Or.inl hedge

/-- Every edge is one of a suspicion that the graph accepts, and it has a
positive weight. -/
structure IsSound (graph : SuspicionGraph) : Prop where
  proper : graph.IsProper
  positive : ∀ u v, IsPositive (graph.weight? u v)

theorem isSound_empty (view : View) : (empty view).IsSound := by
  refine ⟨isProper_empty view, fun u v => ?_⟩
  rw [weight?_empty]
  exact isPositive_none

theorem IsSound.perform (hsound : graph.IsSound) (call : GraphCall) :
    (graph.perform call).value.IsSound := by
  have hproper := hsound.proper.perform call
  refine ⟨hproper, fun u v weight hweight => ?_⟩
  by_cases hresized : ∃ view, call = .resize view
  · obtain ⟨view, rfl⟩ := hresized
    exact (isSound_empty view).positive u v weight hweight
  · -- The view is kept, so the edge was acceptable before the call as well.
    have haccepts := hproper u v (suspects_of_weight? hweight)
    rw [accepts, view_perform (not_exists.mp hresized), ← accepts] at haccepts
    rw [weight?_perform haccepts] at hweight
    exact (hsound.positive u v).reweigh u v call weight hweight

theorem IsSound.run (hsound : graph.IsSound) (calls : List GraphCall) :
    (graph.run calls).value.IsSound := by
  induction calls generalizing graph with
  | nil => exact hsound
  | cons call calls ih => exact ih (hsound.perform call)

theorem weight?_eq_some_of_mem_edges {edge : Edge} {weight : Float}
    (hedge : (edge, weight) ∈ graph.edges) :
    graph.weight? edge.reporter edge.suspect = some weight :=
  Std.ExtTreeMap.mem_toList_iff_getElem?_eq_some.mp hedge

theorem edgeCount_metrics_candidateSet? (graph : SuspicionGraph) (settings : GraphSettings)
    (inTime : Option Nat) : (graph.candidateSet? settings inTime).metrics.edgeCount = none := by
  simp only [candidateSet?, Logged.metrics_bind]
  by_cases hfloor : graph.view.candidateFloor ≤ (graph.candidates settings inTime).ids.length
  · rw [if_pos hfloor]
    rfl
  · rw [if_neg hfloor]
    rfl

/-- What a call reports is the edge count that the graph has afterwards. -/
theorem edgeCount_metrics_perform (graph : SuspicionGraph) (call : GraphCall) :
    (graph.perform call).metrics.edgeCount.getD graph.edgeCount =
      (graph.perform call).value.edgeCount := by
  cases call with
  | add reporter suspect => rfl
  | populate suspicions => rfl
  | remove strength =>
      rw [value_perform_remove]
      simp only [perform, removeSuspicions, weaken]
      split <;> rfl
  | clear => rfl
  | resize view => rfl
  | candidates settings inTime =>
      simp only [perform, Logged.metrics_bind, Logged.metrics_pure, Metrics.andThen_zero,
        edgeCount_metrics_candidateSet?]
      rfl

theorem edgeCount_metrics_run (graph : SuspicionGraph) (calls : List GraphCall) :
    (graph.run calls).metrics.edgeCount.getD graph.edgeCount =
      (graph.run calls).value.edgeCount := by
  induction calls generalizing graph with
  | nil => rfl
  | cons call calls ih =>
      have hfirst := graph.edgeCount_metrics_perform call
      have hrest := ih (graph.perform call).value
      rw [value_run_cons, ← hrest, ← hfirst]
      change (((graph.perform call).value.run calls).metrics.edgeCount.or
        (graph.perform call).metrics.edgeCount).getD _ = _
      cases ((graph.perform call).value.run calls).metrics.edgeCount <;> rfl

/-- In every run of a graph, with decays of any strength, each edge joins two
different replicas of the current view and has a weight above zero.  Neither a
decay nor a search for candidates makes an edge, and the edge count reported
last, zero if there is none, is the current one. -/
theorem edges_stay_sound_and_counted (view : View) (calls : List GraphCall) :
    let run := (empty view).run calls
    (∀ edge weight, (edge, weight) ∈ run.value.edges →
      edge.reporter ≠ edge.suspect ∧ run.value.view.contains edge.reporter = true ∧
        run.value.view.contains edge.suspect = true ∧ weight > 0.0) ∧
      (∀ call, (∃ strength, call = .remove strength) ∨
          (∃ settings inTime, call = .candidates settings inTime) →
        ∀ u v, (run.value.perform call).value.suspects u v = true →
          run.value.suspects u v = true) ∧
      run.metrics.edgeCount.getD 0 = run.value.edgeCount := by
  intro run
  have hsound : run.value.IsSound := (isSound_empty view).run calls
  refine ⟨?_, ?_, (empty view).edgeCount_metrics_run calls⟩
  · intro edge weight hedge
    have hweight := weight?_eq_some_of_mem_edges hedge
    have hsuspects := suspects_of_weight? hweight
    exact ⟨hsound.proper.ne hsuspects, hsound.proper.reporter_mem hsuspects,
      hsound.proper.suspect_mem hsuspects, hsound.positive _ _ weight hweight⟩
  · intro call hcall u v hedge
    have hunaccused : ¬ call.Accuses u v := by
      rcases hcall with ⟨strength, rfl⟩ | ⟨settings, inTime, rfl⟩ <;>
        rintro (hadd | ⟨suspicion, hmem, -⟩) <;> contradiction
    exact (suspects_or_accuses_of_suspects_perform hedge).resolve_right hunaccused

example :
    let graph := after ⟨4, 1, by decide⟩
      [.add 0 1, .add 0 1, .add 2 2, .remove (0.0 / 0.0), .remove (-1.0), .add 2 1, .remove 1.0]
    graph.edges.map Prod.fst = [⟨0, 1⟩] ∧ graph.weight? 0 1 = some 1.0 := by
  decide +kernel

end SuspicionGraph

end SuspicionMonitor
