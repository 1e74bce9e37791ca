import SuspicionMonitor.Graph.Candidates
import Mathlib.Tactic

/-!
# Runs of a suspicion graph

A graph is used through six calls.  Whatever they are and in whatever order
they come, every edge stays within the current view and joins two different
replicas.  The invariant is that each edge stands for a suspicion which the
graph would accept again.
-/

namespace SuspicionMonitor

inductive GraphCall where
  | add (reporter suspect : ReplicaId)
  | populate (suspicions : List Suspicion)
  | remove (strength : Float)
  | clear
  | resize (view : View)
  | candidates (settings : GraphSettings) (inTime : Option Nat := none)

namespace SuspicionGraph

def perform (graph : SuspicionGraph) : GraphCall → Logged SuspicionGraph
  | .add reporter suspect => do
      let (next, _) ← graph.addSuspicion reporter suspect
      return next
  | .populate suspicions => do
      let (next, _) ← graph.populate suspicions
      return next
  | .remove strength => graph.removeSuspicions strength
  | .clear => graph.clearSuspicions
  | .resize view => graph.resize view
  | .candidates settings inTime => do
      let _ ← graph.candidateSet? settings inTime
      return graph

def run (graph : SuspicionGraph) (calls : List GraphCall) : Logged SuspicionGraph :=
  calls.foldlM perform graph

/-- The graph that a run leaves behind when it starts without edges. -/
def after (view : View) (calls : List GraphCall) : SuspicionGraph :=
  ((empty view).run calls).value

@[simp] theorem value_run_nil (graph : SuspicionGraph) : (graph.run []).value = graph := rfl

@[simp] theorem value_run_cons (graph : SuspicionGraph) (call : GraphCall)
    (calls : List GraphCall) :
    (graph.run (call :: calls)).value = ((graph.perform call).value.run calls).value := rfl

theorem value_run_append (graph : SuspicionGraph) (before later : List GraphCall) :
    (graph.run (before ++ later)).value = ((graph.run before).value.run later).value := by
  induction before generalizing graph with
  | nil => rfl
  | cons call before ih =>
      rw [List.cons_append, value_run_cons, value_run_cons]
      exact ih (graph.perform call).value

def strengthenAll (graph : SuspicionGraph) (suspicions : List Suspicion) : SuspicionGraph :=
  suspicions.foldl (fun graph s => graph.strengthen s.reporter s.suspect) graph

@[simp] theorem view_strengthen (graph : SuspicionGraph) (reporter suspect : ReplicaId) :
    (graph.strengthen reporter suspect).view = graph.view := by
  unfold strengthen
  split <;> rfl

@[simp] theorem accepts_strengthen (graph : SuspicionGraph)
    (reporter suspect u v : ReplicaId) :
    (graph.strengthen reporter suspect).accepts u v = graph.accepts u v := by
  simp [accepts]

@[simp] theorem view_strengthenAll (graph : SuspicionGraph) (suspicions : List Suspicion) :
    (graph.strengthenAll suspicions).view = graph.view := by
  induction suspicions generalizing graph with
  | nil => rfl
  | cons suspicion rest ih =>
      exact (ih _).trans (graph.view_strengthen _ _)

@[simp] theorem accepts_strengthenAll (graph : SuspicionGraph) (suspicions : List Suspicion)
    (u v : ReplicaId) :
    (graph.strengthenAll suspicions).accepts u v = graph.accepts u v := by
  simp [accepts]

theorem suspects_strengthen (graph : SuspicionGraph) (reporter suspect u v : ReplicaId) :
    (graph.strengthen reporter suspect).suspects u v = true ↔
      graph.suspects u v = true ∨
        graph.accepts u v = true ∧ reporter = u ∧ suspect = v := by
  unfold strengthen suspects
  by_cases haccepts : graph.accepts reporter suspect = true
  · simp only [haccepts, if_true, Std.ExtTreeMap.contains_insert, Bool.or_eq_true,
      Std.LawfulEqOrd.compare_beq_iff_eq]
    constructor
    · rintro (heq | hold)
      · obtain ⟨rfl, rfl⟩ := Edge.mk.inj heq
        exact Or.inr ⟨haccepts, rfl, rfl⟩
      · exact Or.inl hold
    · rintro (hold | ⟨_, rfl, rfl⟩)
      · exact Or.inr hold
      · exact Or.inl rfl
  · rw [if_neg haccepts]
    constructor
    · exact Or.inl
    · rintro (hold | ⟨hnew, rfl, rfl⟩)
      · exact hold
      · exact absurd hnew haccepts

/-- An edge that suspicions leave behind was there before or is one of
theirs. -/
theorem suspects_strengthenAll (graph : SuspicionGraph) (suspicions : List Suspicion)
    (u v : ReplicaId) :
    (graph.strengthenAll suspicions).suspects u v = true ↔
      graph.suspects u v = true ∨
        graph.accepts u v = true ∧ ∃ s ∈ suspicions, s.reporter = u ∧ s.suspect = v := by
  induction suspicions generalizing graph with
  | nil => simp [strengthenAll]
  | cons suspicion rest ih =>
      have hrest := ih (graph.strengthen suspicion.reporter suspicion.suspect)
      rw [accepts_strengthen, suspects_strengthen] at hrest
      simp only [List.exists_mem_cons_iff]
      rw [show graph.strengthenAll (suspicion :: rest) =
        (graph.strengthen suspicion.reporter suspicion.suspect).strengthenAll rest from rfl, hrest]
      tauto

/-- Every edge is one of a suspicion that the graph accepts. -/
def IsProper (graph : SuspicionGraph) : Prop :=
  ∀ u v, graph.suspects u v = true → graph.accepts u v = true

theorem IsProper.ne {graph : SuspicionGraph} (hproper : graph.IsProper) {u v : ReplicaId}
    (hedge : graph.suspects u v = true) : u ≠ v := by
  have haccepts := hproper u v hedge
  simp only [accepts, Bool.and_eq_true, bne_iff_ne] at haccepts
  exact haccepts.1.1

theorem IsProper.reporter_mem {graph : SuspicionGraph} (hproper : graph.IsProper)
    {u v : ReplicaId} (hedge : graph.suspects u v = true) : graph.view.contains u = true := by
  have haccepts := hproper u v hedge
  simp only [accepts, Bool.and_eq_true] at haccepts
  exact haccepts.1.2

theorem IsProper.suspect_mem {graph : SuspicionGraph} (hproper : graph.IsProper)
    {u v : ReplicaId} (hedge : graph.suspects u v = true) : graph.view.contains v = true := by
  have haccepts := hproper u v hedge
  simp only [accepts, Bool.and_eq_true] at haccepts
  exact haccepts.2

theorem suspects_empty (view : View) (u v : ReplicaId) :
    (empty view).suspects u v = false := by
  simp [suspects, empty]

theorem isProper_empty (view : View) : (empty view).IsProper := by
  intro u v hedge
  rw [suspects_empty] at hedge
  contradiction

theorem IsProper.strengthen {graph : SuspicionGraph} (hproper : graph.IsProper)
    (reporter suspect : ReplicaId) : (graph.strengthen reporter suspect).IsProper := by
  intro u v hedge
  rw [accepts_strengthen]
  rcases (graph.suspects_strengthen reporter suspect u v).mp hedge with hold | hnew
  · exact hproper u v hold
  · exact hnew.1

theorem IsProper.strengthenAll {graph : SuspicionGraph} (hproper : graph.IsProper)
    (suspicions : List Suspicion) : (graph.strengthenAll suspicions).IsProper := by
  intro u v hedge
  rw [accepts_strengthenAll]
  rcases (graph.suspects_strengthenAll suspicions u v).mp hedge with hold | hnew
  · exact hproper u v hold
  · exact hnew.1

@[simp] theorem view_weaken (graph : SuspicionGraph) (strength : Float) :
    (graph.weaken strength).view = graph.view := by
  unfold weaken
  split <;> rfl

theorem suspects_of_suspects_weaken {graph : SuspicionGraph} {strength : Float}
    {u v : ReplicaId} (hedge : (graph.weaken strength).suspects u v = true) :
    graph.suspects u v = true := by
  unfold weaken at hedge
  split at hedge
  · exact Std.ExtTreeMap.contains_of_contains_filterMap hedge
  · exact hedge

theorem IsProper.weaken {graph : SuspicionGraph} (hproper : graph.IsProper)
    (strength : Float) : (graph.weaken strength).IsProper := by
  intro u v hedge
  have haccepts := hproper u v (suspects_of_suspects_weaken hedge)
  simpa [accepts] using haccepts

/-! ## Runs -/

theorem value_perform_remove (graph : SuspicionGraph) (strength : Float) :
    (graph.perform (.remove strength)).value = graph.weaken strength := by
  simp only [perform, removeSuspicions]
  split <;> rfl

theorem IsProper.perform {graph : SuspicionGraph} (hproper : graph.IsProper)
    (call : GraphCall) : (graph.perform call).value.IsProper := by
  cases call with
  | add reporter suspect => exact hproper.strengthen reporter suspect
  | populate suspicions => exact hproper.strengthenAll suspicions
  | remove strength =>
      rw [value_perform_remove]
      exact hproper.weaken strength
  | clear => exact isProper_empty graph.view
  | resize view => exact isProper_empty view
  | candidates settings inTime => exact hproper

theorem IsProper.run {graph : SuspicionGraph} (hproper : graph.IsProper)
    (calls : List GraphCall) : (graph.run calls).value.IsProper := by
  induction calls generalizing graph with
  | nil => exact hproper
  | cons call calls ih => exact ih (hproper.perform call)

theorem isProper_after (view : View) (calls : List GraphCall) : (after view calls).IsProper :=
  (isProper_empty view).run calls

end SuspicionGraph

def strengthenedWeight (weight : Option Float) : Option Float :=
  some (weight.getD 0.0 + SuspicionGraph.suspicionWeight)

def weakenedWeight (strength : Float) (weight : Option Float) : Option Float :=
  if strength > 0.0 then
    weight.bind fun weight =>
      if weight - strength > 0.0 then some (weight - strength) else none
  else
    weight

namespace Suspicion

def accuses (suspicion : Suspicion) (reporter suspect : ReplicaId) : Bool :=
  suspicion.reporter == reporter && suspicion.suspect == suspect

end Suspicion

namespace GraphCall

/-- The suspicions that are passed on in bulk. -/
def suspicions : GraphCall → List Suspicion
  | .populate suspicions => suspicions
  | _ => []

/-- How many of them strengthen the edge from `reporter` to `suspect`, if the
graph accepts it. -/
def accusations (reporter suspect : ReplicaId) (call : GraphCall) : Nat :=
  call.suspicions.countP (·.accuses reporter suspect)

/-- What the call makes of the weight of an accepted edge. -/
def reweigh (reporter suspect : ReplicaId) (weight : Option Float) : GraphCall → Option Float
  | .add u v => if u = reporter ∧ v = suspect then strengthenedWeight weight else weight
  | .populate suspicions =>
      strengthenedWeight^[(populate suspicions).accusations reporter suspect] weight
  | .remove strength => weakenedWeight strength weight
  | .clear => none
  | .resize _ => none
  | .candidates _ _ => weight

end GraphCall

namespace SuspicionGraph

theorem weight?_empty (view : View) (u v : ReplicaId) : (empty view).weight? u v = none := by
  simp [weight?, empty]

theorem weight?_strengthen {graph : SuspicionGraph} {u v : ReplicaId}
    (haccepts : graph.accepts u v = true) (reporter suspect : ReplicaId) :
    (graph.strengthen reporter suspect).weight? u v =
      if reporter = u ∧ suspect = v then strengthenedWeight (graph.weight? u v)
      else graph.weight? u v := by
  unfold strengthen
  by_cases hedge : reporter = u ∧ suspect = v
  · obtain ⟨rfl, rfl⟩ := hedge
    simp [haccepts, weight?, strengthenedWeight]
  · rw [if_neg hedge]
    have hne : (⟨reporter, suspect⟩ : Edge) ≠ ⟨u, v⟩ := by
      intro heq
      exact hedge (Edge.mk.inj heq)
    split
    · simp [weight?, Std.ExtTreeMap.getElem?_insert, hne]
    · rfl

/-- Each accusation strengthens the edge once more. -/
theorem weight?_strengthenAll {graph : SuspicionGraph} {u v : ReplicaId}
    (haccepts : graph.accepts u v = true) (suspicions : List Suspicion) :
    (graph.strengthenAll suspicions).weight? u v =
      strengthenedWeight^[suspicions.countP (·.accuses u v)] (graph.weight? u v) := by
  induction suspicions generalizing graph with
  | nil => rfl
  | cons suspicion rest ih =>
      have hnext :
          (graph.strengthen suspicion.reporter suspicion.suspect).accepts u v = true := by
        rwa [accepts_strengthen]
      have hrest := ih hnext
      rw [weight?_strengthen haccepts] at hrest
      rw [show graph.strengthenAll (suspicion :: rest) =
        (graph.strengthen suspicion.reporter suspicion.suspect).strengthenAll rest from rfl, hrest,
        List.countP_cons]
      by_cases hedge : suspicion.reporter = u ∧ suspicion.suspect = v
      · rw [if_pos hedge, if_pos (by simpa [Suspicion.accuses] using hedge)]
        rfl
      · rw [if_neg hedge, if_neg (by simpa [Suspicion.accuses] using hedge)]
        rfl

theorem weight?_weaken (graph : SuspicionGraph) (strength : Float) (u v : ReplicaId) :
    (graph.weaken strength).weight? u v = weakenedWeight strength (graph.weight? u v) := by
  unfold weaken weakenedWeight
  split
  · simp only [weight?, Std.ExtTreeMap.getElem?_filterMap']
  · rfl

theorem weight?_perform {graph : SuspicionGraph} {u v : ReplicaId}
    (haccepts : graph.accepts u v = true) (call : GraphCall) :
    (graph.perform call).value.weight? u v = call.reweigh u v (graph.weight? u v) := by
  cases call with
  | add reporter suspect => exact weight?_strengthen haccepts reporter suspect
  | populate suspicions => exact weight?_strengthenAll haccepts suspicions
  | remove strength =>
      rw [value_perform_remove]
      exact graph.weight?_weaken strength u v
  | clear => exact weight?_empty graph.view u v
  | resize view => exact weight?_empty view u v
  | candidates settings inTime => rfl

theorem view_perform {graph : SuspicionGraph} {call : GraphCall}
    (hkept : ∀ view, call ≠ .resize view) : (graph.perform call).value.view = graph.view := by
  cases call with
  | add reporter suspect => exact graph.view_strengthen reporter suspect
  | populate suspicions => exact graph.view_strengthenAll suspicions
  | remove strength =>
      rw [value_perform_remove]
      exact graph.view_weaken strength
  | clear => rfl
  | resize view => exact absurd rfl (hkept view)
  | candidates settings inTime => rfl

/-- While the view is kept, the calls act on the weight of an edge one after
the other. -/
theorem weight?_run {graph : SuspicionGraph} {u v : ReplicaId}
    (haccepts : graph.accepts u v = true) {calls : List GraphCall}
    (hkept : ∀ call ∈ calls, ∀ view, call ≠ .resize view) :
    (graph.run calls).value.weight? u v =
      calls.foldl (GraphCall.reweigh u v) (graph.weight? u v) := by
  induction calls generalizing graph with
  | nil => rfl
  | cons call calls ih =>
      have hview : (graph.perform call).value.view = graph.view :=
        view_perform (hkept call List.mem_cons_self)
      have hnext : (graph.perform call).value.accepts u v = true := by
        rwa [accepts, hview]
      rw [value_run_cons, ih hnext fun later hlater => hkept later (List.mem_cons_of_mem _ hlater),
        weight?_perform haccepts, List.foldl_cons]

end SuspicionGraph

end SuspicionMonitor
