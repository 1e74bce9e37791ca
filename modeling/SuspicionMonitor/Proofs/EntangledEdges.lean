import SuspicionMonitor.Proofs.DrawableSamples
import SuspicionMonitor.Proofs.ExclusionList
import SuspicionMonitor.Proofs.GraphRuns
import SuspicionMonitor.Proofs.OrderedSets
import SuspicionMonitor.Simulation.Scale

/-!
# Edges of entangled graphs

Whatever is drawn, the edges come in ascending order and in both directions,
each of them at one of the liars, and there are at most `2 f` of them for each
liar.  A graph takes in all of them as long as ids can tell the replicas of the
view apart.  Beyond that, a liar and its victim may be one replica, and their
edge is refused.
-/

namespace SuspicionMonitor

-- The powers of the core library, as where draws are defined.
attribute [local instance (2000)] instPowNat instNatPowNat

def Edge.reversed (edge : Edge) : Edge := ⟨edge.suspect, edge.reporter⟩

/-- Edges in ascending order and in both directions, which few replicas of the
view have in common. -/
structure IsEntanglement (view : View) (edges : List Edge) : Prop where
  ascending : edges.Pairwise fun first second => compare first second = .lt
  inView : ∀ edge ∈ edges,
    view.contains edge.reporter = true ∧ view.contains edge.suspect = true
  reversed_mem : ∀ edge ∈ edges, edge.reversed ∈ edges
  length_le : edges.length ≤ 2 * view.f * view.f
  covered : ∃ liars : Finset ReplicaId, liars.card ≤ view.f ∧
    ∀ edge ∈ edges, edge.reporter ∈ liars ∨ edge.suspect ∈ liars

/-- A graph that is given these edges one by one has them all, and no other. -/
structure FillsGraph (view : View) (edges : List Edge) : Prop where
  loopFree : ∀ edge ∈ edges, edge.reporter ≠ edge.suspect
  stored : (ScaleReport.graphOf view edges).value.edges.map Prod.fst = edges
  isMutual : ∀ edge ∈ edges, (ScaleReport.graphOf view edges).value.suspectEachOther
    edge.reporter edge.suspect = true

theorem toNat_replicaNumbered (number : Nat) :
    (replicaNumbered number).toNat = min number (UInt32.size - 1) := by
  unfold replicaNumbered UInt32.ofNatClamp
  split
  next hsmall =>
    rw [UInt32.toNat_ofNatLT]
    omega
  next hlarge =>
    rw [UInt32.toNat_ofNatLT]
    omega

theorem View.contains_replicaNumbered {view : View} {number : Nat} (hnumber : number < view.n) :
    view.contains (replicaNumbered number) = true := by
  rw [View.contains, decide_eq_true_eq, toNat_replicaNumbered]
  omega

theorem replicaNumbered_ne {first second : Nat} (hfirst : first < UInt32.size)
    (hsecond : second < UInt32.size) (hne : first ≠ second) :
    replicaNumbered first ≠ replicaNumbered second := by
  intro hsame
  have hvalues := congrArg UInt32.toNat hsame
  rw [toNat_replicaNumbered, toNat_replicaNumbered] at hvalues
  omega

theorem replicaNumbered_of_le {number : Nat} (hlarge : UInt32.size - 1 ≤ number) :
    replicaNumbered number = 4294967295 := by
  rw [← UInt32.toNat_inj, toNat_replicaNumbered, Nat.min_eq_right hlarge]
  rfl

/-- What a liar may add: edges between it and other replicas of the view. -/
structure AreMutual (view : View) (liar : Nat) (edges : List Edge) : Prop where
  joins : ∀ edge ∈ edges, ∃ victim < view.n, victim ≠ liar ∧
    (edge = ⟨replicaNumbered liar, replicaNumbered victim⟩ ∨
      edge = ⟨replicaNumbered victim, replicaNumbered liar⟩)
  reversed_mem : ∀ edge ∈ edges, edge.reversed ∈ edges
  length_le : edges.length ≤ 2 * view.f

theorem mem_mutualEdges {liar : Nat} {victims : List Nat} {edge : Edge} :
    edge ∈ mutualEdges liar victims ↔ ∃ victim ∈ victims,
      edge = ⟨replicaNumbered liar, replicaNumbered victim⟩ ∨
        edge = ⟨replicaNumbered victim, replicaNumbered liar⟩ := by
  simp [mutualEdges]

theorem length_mutualEdges (liar : Nat) (victims : List Nat) :
    (mutualEdges liar victims).length = 2 * victims.length := by
  simp [mutualEdges, List.length_flatMap, Nat.mul_comm]

theorem areMutual_mutualEdges {view : View} {liar : Nat} {victims : List Nat}
    (hvictims : ∀ victim ∈ victims, victim < view.n ∧ victim ≠ liar)
    (hlength : victims.length ≤ view.f) : AreMutual view liar (mutualEdges liar victims) where
  joins := by
    intro edge hedge
    obtain ⟨victim, hvictim, hends⟩ := mem_mutualEdges.mp hedge
    obtain ⟨hbelow, hother⟩ := hvictims victim hvictim
    exact ⟨victim, hbelow, hother, hends⟩
  reversed_mem := by
    intro edge hedge
    obtain ⟨victim, hvictim, hends⟩ := mem_mutualEdges.mp hedge
    refine mem_mutualEdges.mpr ⟨victim, hvictim, ?_⟩
    rcases hends with rfl | rfl
    · exact Or.inr rfl
    · exact Or.inl rfl
  length_le := by
    rw [length_mutualEdges]
    exact Nat.mul_le_mul_left 2 hlength

section

variable {σ : Type} [WordSource σ]

theorem draws_mutualEdges (view : View) (liar : Nat) :
    Random.Draws (do
      let victims ← drawVictims view liar
      return mutualEdges liar victims : StateM σ (List Edge)) (AreMutual view liar) := by
  have hvictims : Random.Draws (drawVictims view liar : StateM σ (List Nat)) fun victims =>
      (∀ victim ∈ victims, victim < view.n ∧ victim ≠ liar) ∧ victims.length ≤ view.f := by
    refine (Random.draws_below64 (Nat.succ_pos view.f)).bind fun count hcount => ?_
    refine (Random.draws_sample (Nat.min_le_right count view.n)).bind fun drawn hdrawn => ?_
    refine Random.draws_pure ⟨?_, ?_⟩
    · intro victim hvictim
      obtain ⟨hmem, hother⟩ := List.mem_filter.mp hvictim
      exact ⟨hdrawn.below victim hmem, bne_iff_ne.mp hother⟩
    · calc (drawn.filter (· != liar)).length
        _ ≤ drawn.length := List.length_filter_le _ _
        _ = min count view.n := hdrawn.size
        _ ≤ view.f := (Nat.min_le_left count view.n).trans (Nat.lt_succ_iff.mp hcount)
  exact hvictims.bind fun victims hvictims =>
    Random.draws_pure (areMutual_mutualEdges hvictims.1 hvictims.2)

end

/-- The edges that so many liars add, each of them its own. -/
structure IsDrawn (view : View) (liars : List Nat) (added : List (List Edge)) : Prop where
  sample : Random.IsSample view.n view.f liars
  areMutual : List.Forall₂ (AreMutual view) liars added

def inOrder (added : List (List Edge)) : List Edge :=
  (Std.ExtTreeSet.ofList added.flatten).toList

theorem mem_inOrder {added : List (List Edge)} {edge : Edge} :
    edge ∈ inOrder added ↔ ∃ edges ∈ added, edge ∈ edges := by
  rw [inOrder, Std.ExtTreeSet.mem_toList, Std.ExtTreeSet.mem_ofList, List.contains_iff_mem,
    List.mem_flatten]

theorem length_inOrder_le (added : List (List Edge)) :
    (inOrder added).length ≤ added.flatten.length := by
  rw [inOrder, Std.ExtTreeSet.length_toList]
  exact Std.ExtTreeSet.size_ofList_le

theorem draws_entangle {σ : Type} [WordSource σ] (view : View) :
    Random.Draws (entangle view : StateM σ (List Edge)) fun edges =>
      ∃ liars added, IsDrawn view liars added ∧ edges = inOrder added := by
  have hliars : view.f ≤ view.n := by
    have := view.bound
    omega
  refine (Random.draws_sample hliars).bind fun liars hsample => ?_
  refine (Random.draws_mapM liars fun liar _ => draws_mutualEdges view liar).bind ?_
  exact fun added hadded => Random.draws_pure ⟨liars, added, ⟨hsample, hadded⟩, rfl⟩

namespace IsDrawn

variable {view : View} {liars : List Nat} {added : List (List Edge)}

theorem joins (hdrawn : IsDrawn view liars added) {edge : Edge} (hedge : edge ∈ inOrder added) :
    ∃ liar ∈ liars, liar < view.n ∧ ∃ victim < view.n, victim ≠ liar ∧
      (edge = ⟨replicaNumbered liar, replicaNumbered victim⟩ ∨
        edge = ⟨replicaNumbered victim, replicaNumbered liar⟩) := by
  obtain ⟨edges, hedges, hmem⟩ := mem_inOrder.mp hedge
  obtain ⟨liar, hliar, hmutual⟩ := Random.exists_of_mem_results hdrawn.areMutual hedges
  exact ⟨liar, hliar, hdrawn.sample.below liar hliar, hmutual.joins edge hmem⟩

theorem length_le (hdrawn : IsDrawn view liars added) :
    (inOrder added).length ≤ 2 * view.f * view.f := by
  have heach : ∀ length ∈ added.map List.length, length ≤ 2 * view.f := by
    intro length hlength
    obtain ⟨edges, hedges, rfl⟩ := List.mem_map.mp hlength
    obtain ⟨liar, -, hmutual⟩ := Random.exists_of_mem_results hdrawn.areMutual hedges
    exact hmutual.length_le
  have hcount : (added.map List.length).length = view.f := by
    rw [List.length_map, ← hdrawn.areMutual.length_eq, hdrawn.sample.size]
  calc (inOrder added).length
    _ ≤ added.flatten.length := length_inOrder_le added
    _ = (added.map List.length).sum := List.length_flatten
    _ ≤ (added.map List.length).length * (2 * view.f) := List.sum_le_card_nsmul _ _ heach
    _ = 2 * view.f * view.f := by rw [hcount, Nat.mul_comm]

theorem isEntanglement (hdrawn : IsDrawn view liars added) :
    IsEntanglement view (inOrder added) where
  ascending := Std.ExtTreeSet.ordered_toList
  inView := by
    intro edge hedge
    obtain ⟨liar, -, hliar, victim, hvictim, -, rfl | rfl⟩ := hdrawn.joins hedge
    · exact ⟨View.contains_replicaNumbered hliar, View.contains_replicaNumbered hvictim⟩
    · exact ⟨View.contains_replicaNumbered hvictim, View.contains_replicaNumbered hliar⟩
  reversed_mem := by
    intro edge hedge
    obtain ⟨edges, hedges, hmem⟩ := mem_inOrder.mp hedge
    obtain ⟨liar, -, hmutual⟩ := Random.exists_of_mem_results hdrawn.areMutual hedges
    exact mem_inOrder.mpr ⟨edges, hedges, hmutual.reversed_mem edge hmem⟩
  length_le := hdrawn.length_le
  covered := by
    refine ⟨(liars.map replicaNumbered).toFinset, ?_, ?_⟩
    · exact (List.toFinset_card_le _).trans_eq (by rw [List.length_map, hdrawn.sample.size])
    · intro edge hedge
      obtain ⟨liar, hliar, -, victim, -, -, rfl | rfl⟩ := hdrawn.joins hedge
      · exact Or.inl (List.mem_toFinset.mpr (List.mem_map_of_mem hliar))
      · exact Or.inr (List.mem_toFinset.mpr (List.mem_map_of_mem hliar))

/-- Ids of 32 bits tell the replicas of the view apart. -/
theorem loopFree (hdrawn : IsDrawn view liars added) (hids : view.n ≤ UInt32.size) :
    ∀ edge ∈ inOrder added, edge.reporter ≠ edge.suspect := by
  intro edge hedge
  obtain ⟨liar, -, hliar, victim, hvictim, hother, rfl | rfl⟩ := hdrawn.joins hedge
  · exact replicaNumbered_ne (by omega) (by omega) hother.symm
  · exact replicaNumbered_ne (by omega) (by omega) hother

end IsDrawn

/-! ## Filling a graph -/

namespace ScaleReport

theorem graphOf_eq_run (view : View) (edges : List Edge) :
    graphOf view edges =
      (SuspicionGraph.empty view).run (edges.map fun edge => .add edge.reporter edge.suspect) := by
  rw [SuspicionGraph.run, List.foldlM_map]
  rfl

end ScaleReport

theorem SuspicionGraph.suspects_run_add (graph : SuspicionGraph) (edges : List Edge)
    (u v : ReplicaId) :
    (graph.run (edges.map fun edge => .add edge.reporter edge.suspect)).value.suspects u v = true ↔
      graph.suspects u v = true ∨ graph.accepts u v = true ∧ ⟨u, v⟩ ∈ edges := by
  induction edges generalizing graph with
  | nil => simp
  | cons edge edges ih =>
      rw [List.map_cons, value_run_cons, ih]
      have hfirst : (graph.perform (.add edge.reporter edge.suspect)).value =
          graph.strengthen edge.reporter edge.suspect := rfl
      have hedge : (⟨u, v⟩ : Edge) = edge ↔ edge.reporter = u ∧ edge.suspect = v := by
        cases edge
        simp [eq_comm]
      rw [hfirst, suspects_strengthen, accepts_strengthen, List.mem_cons, hedge]
      tauto

namespace IsEntanglement

variable {view : View} {edges : List Edge}

theorem suspects_graphOf (hedges : IsEntanglement view edges)
    (hloopFree : ∀ edge ∈ edges, edge.reporter ≠ edge.suspect) (u v : ReplicaId) :
    (ScaleReport.graphOf view edges).value.suspects u v = true ↔ ⟨u, v⟩ ∈ edges := by
  have haccepts : ⟨u, v⟩ ∈ edges → (SuspicionGraph.empty view).accepts u v = true := by
    intro hmem
    obtain ⟨hu, hv⟩ := hedges.inView _ hmem
    have hne := hloopFree _ hmem
    simp [SuspicionGraph.accepts, SuspicionGraph.empty, hu, hv, hne]
  rw [ScaleReport.graphOf_eq_run, SuspicionGraph.suspects_run_add, SuspicionGraph.suspects_empty]
  simpa using haccepts

/-- Nothing but a self-accusation is refused. -/
theorem fillsGraph (hedges : IsEntanglement view edges)
    (hloopFree : ∀ edge ∈ edges, edge.reporter ≠ edge.suspect) : FillsGraph view edges where
  loopFree := hloopFree
  stored := by
    rw [SuspicionGraph.edges, Std.ExtTreeMap.map_fst_toList_eq_keys]
    refine OrderedSet.eq_of_mem_iff Std.ExtTreeMap.ordered_keys hedges.ascending ?_
    intro edge
    rw [Std.ExtTreeMap.mem_keys, ← Std.ExtTreeMap.contains_iff_mem]
    exact hedges.suspects_graphOf hloopFree edge.reporter edge.suspect
  isMutual := by
    intro edge hedge
    rw [SuspicionGraph.suspectEachOther_iff, hedges.suspects_graphOf hloopFree,
      hedges.suspects_graphOf hloopFree]
    exact ⟨hedge, hedges.reversed_mem edge hedge⟩

end IsEntanglement

section

variable {view : View}

theorem canYield_drawVictims (hlarge : UInt32.size ≤ view.n) (hwords : view.n < UInt64.size)
    (hfaults : 0 < view.f) (liar : Nat) {victim : Nat} (hvictim : victim < view.n) :
    Random.CanYield (drawVictims view liar) ([victim].filter (· != liar)) := by
  have hbound := view.bound
  have hcount : Random.CanYield (Random.below64 (view.f + 1)) 1 :=
    Random.canYield_below64 (by omega) (by omega)
  have hsample : Random.IsSample view.n (min 1 view.n) [victim] := by
    rw [Nat.min_eq_left (by omega)]
    exact (Random.isSample_nil view.n).cons hvictim List.not_mem_nil
  exact hcount.bind ((Random.canYield_sample hlarge (by omega) hsample).bind
    (Random.canYield_pure _))

theorem canYield_entangle (hlarge : UInt32.size ≤ view.n) (hwords : view.n < UInt64.size)
    (hfaults : 0 < view.f) {liars : List Nat} (hliars : Random.IsSample view.n view.f liars)
    {victim : Nat} (hvictim : victim < view.n) :
    Random.CanYield (entangle view)
      (inOrder (liars.map fun liar => mutualEdges liar ([victim].filter (· != liar)))) := by
  refine (Random.canYield_sample hlarge (by omega) hliars).bind ?_
  refine Random.CanYield.bind (Random.canYield_mapM liars fun liar _ => ?_)
    (Random.canYield_pure _)
  exact (canYield_drawVictims hlarge hwords hfaults liar hvictim).bind (Random.canYield_pure _)

/-- Ids of 32 bits take the last two replicas for one, and the last `f` may all
be liars with the last but one as their victim. -/
theorem exists_self_accusation (hlarge : UInt32.size < view.n) (hwords : view.n < UInt64.size)
    (hfaults : 0 < view.f) :
    ∃ source : ListedWords, ⟨4294967295, 4294967295⟩ ∈ (entangle view source).1 := by
  have hbound := view.bound
  have hliars : Random.IsSample view.n view.f (List.range' (view.n - view.f) view.f) :=
    { nodup := List.nodup_range'
      below := fun liar hliar => by
        have := List.mem_range'_1.mp hliar
        omega
      size := List.length_range' }
  have hvictim : view.n - 2 < view.n := by omega
  obtain ⟨source, hsource⟩ :=
    (canYield_entangle hlarge.le hwords hfaults hliars hvictim).exists_source
  have hlast : view.n - 1 ∈ List.range' (view.n - view.f) view.f :=
    List.mem_range'_1.mpr ⟨by omega, by omega⟩
  -- The positions of the two differ, so the victim is not skipped.
  have hother : view.n - 2 ∈ [view.n - 2].filter (· != view.n - 1) :=
    List.mem_filter.mpr ⟨List.mem_singleton_self _, bne_iff_ne.mpr (by omega)⟩
  refine ⟨source, ?_⟩
  rw [hsource]
  refine mem_inOrder.mpr ⟨_, List.mem_map_of_mem hlast, mem_mutualEdges.mpr ⟨_, hother, Or.inl ?_⟩⟩
  rw [replicaNumbered_of_le (by omega), replicaNumbered_of_le (by omega)]

end

section

variable {σ : Type} [WordSource σ] {view : View}

theorem isEntanglement_entangle (view : View) (source : σ) :
    IsEntanglement view (entangle view source).1 := by
  obtain ⟨liars, added, hdrawn, hedges⟩ := draws_entangle view source
  rw [hedges]
  exact hdrawn.isEntanglement

theorem fillsGraph_entangle (hsmall : view.n ≤ UInt32.size ∨ view.f = 0) (source : σ) :
    FillsGraph view (entangle view source).1 := by
  refine (isEntanglement_entangle view source).fillsGraph ?_
  rcases hsmall with hids | hfaults
  · obtain ⟨liars, added, hdrawn, hedges⟩ := draws_entangle view source
    rw [hedges]
    exact hdrawn.loopFree hids
  · have hlength := (isEntanglement_entangle view source).length_le
    rw [hfaults, Nat.mul_zero, Nat.le_zero, List.length_eq_zero_iff] at hlength
    rw [hlength]
    exact fun edge hedge => absurd hedge List.not_mem_nil

end

/-- At every scale at which all replicas have ids of their own, the edges of the
report fill its graph. -/
theorem ScaleReport.fillsGraph_edgesAt {scale : Nat} (hscale : scale ≤ 143165576) (seed : UInt64) :
    FillsGraph (viewAt scale) (edgesAt scale seed) := by
  apply fillsGraph_entangle
  have hids : (viewAt scale).n = 3 * (10 * scale) + 1 := rfl
  rw [hids, UInt32.size]
  omega

/-- Of any view, entangled edges are in order, in both directions and few.
They fill a graph, whatever is drawn, exactly if ids of 32 bits tell the
replicas of the view apart or nobody lies. -/
theorem entangled_edges_fill_graph_iff (view : View) (hwords : view.n < UInt64.size) :
    (∀ (σ : Type) [WordSource σ] (source : σ), IsEntanglement view (entangle view source).1) ∧
      ((∀ (σ : Type) [WordSource σ] (source : σ), FillsGraph view (entangle view source).1) ↔
        view.n ≤ UInt32.size ∨ view.f = 0) := by
  refine ⟨fun σ _ source => isEntanglement_entangle view source, ?_, ?_⟩
  · intro hfills
    by_contra hlarge
    rw [not_or, Nat.not_le] at hlarge
    obtain ⟨source, hloop⟩ :=
      exists_self_accusation hlarge.1 hwords (Nat.pos_of_ne_zero hlarge.2)
    exact (hfills ListedWords source).loopFree _ hloop rfl
  · exact fun hsmall σ _ source => fillsGraph_entangle hsmall source

theorem entangled_edges_of_seven :
    let view : View := ⟨7, 2, by decide⟩
    let edges := (entangle view (ChaCha.Generator.ofSeed 0)).1
    edges = [⟨0, 4⟩, ⟨3, 5⟩, ⟨4, 0⟩, ⟨5, 3⟩, ⟨5, 6⟩, ⟨6, 5⟩] ∧ FillsGraph view edges := by
  intro view edges
  refine ⟨by decide +kernel, ?_⟩
  have hfills := (entangled_edges_fill_graph_iff view (by decide)).2.mpr (by decide)
  exact hfills ChaCha.Generator (ChaCha.Generator.ofSeed 0)

/-- Five liars among more replicas than there are ids, who are all taken for
the last one. -/
theorem last_replica_entangled_with_itself :
    let view : View := ⟨281474976710656, 5, by decide⟩
    let edges := (entangle view (ChaCha.Generator.ofSeed 7)).1
    edges = [⟨4294967295, 4294967295⟩] ∧ (ScaleReport.graphOf view edges).value.edgeCount = 0 := by
  decide +kernel

end SuspicionMonitor
