import SuspicionMonitor.Proofs.CandidateFloor

/-!
# What lies cost the honest

Suppose that of any two replicas that suspect each other at least one is a
liar.  Matched pairs have no end in common, so the matching excludes at most
one honest replica for each liar.  Triangles may exclude more: every replica
that suspects both ends of a matched pair of liars is a corner of one.  Nobody
else is excluded, and releasing replicas from the list does no harm.
-/

namespace SuspicionMonitor
namespace SuspicionGraph

def IsMatching (pairs : List ReplicaPair) : Prop :=
  ∀ first ∈ pairs, ∀ second ∈ pairs, ∀ id,
    first.1 = id ∨ first.2 = id → second.1 = id ∨ second.2 = id → first = second

theorem isMatching_nil : IsMatching [] := by
  intro first hfirst
  contradiction

theorem IsMatching.takePair {matching : List ReplicaPair} (hmatching : IsMatching matching)
    (pair : ReplicaPair) : IsMatching (takePair matching pair) := by
  unfold SuspicionGraph.takePair
  split
  · exact hmatching
  next hfree =>
    -- A pair taken before would cover the end it shares with the new one.
    have hnew : ∀ taken ∈ matching, ∀ id, taken.1 = id ∨ taken.2 = id →
        ¬ (pair.1 = id ∨ pair.2 = id) := by
      intro taken htaken id hend hshared
      have hcovers : covers matching id = true := covers_iff.mpr ⟨taken, htaken, hend⟩
      rcases hshared with rfl | rfl <;> simp [hcovers] at hfree
    intro first hfirst second hsecond id hend hother
    rcases List.mem_cons.mp hfirst with rfl | htaken
    · rcases List.mem_cons.mp hsecond with rfl | htaken
      · rfl
      · exact absurd hend (hnew second htaken id hother)
    · rcases List.mem_cons.mp hsecond with rfl | hlater
      · exact absurd hother (hnew first htaken id hend)
      · exact hmatching first htaken second hlater id hend hother

theorem IsMatching.foldl_takePair {matching : List ReplicaPair}
    (hmatching : IsMatching matching) (pairs : List ReplicaPair) :
    IsMatching (pairs.foldl SuspicionGraph.takePair matching) := by
  induction pairs generalizing matching with
  | nil => exact hmatching
  | cons pair pairs ih => exact ih (hmatching.takePair pair)

theorem isMatching_matching (graph : SuspicionGraph) : IsMatching graph.matching :=
  isMatching_nil.foldl_takePair graph.mutualPairs

/-- The replicas of the view that are no candidates. -/
def excluded (graph : SuspicionGraph) : Finset ReplicaId :=
  graph.view.replicas.toFinset \ graph.heuristicCandidates.toFinset

theorem mem_exclusions_of_mem_excluded {graph : SuspicionGraph} {id : ReplicaId}
    (hid : id ∈ graph.excluded) : id ∈ graph.exclusions := by
  obtain ⟨hlisted, hrefused⟩ := Finset.mem_sdiff.mp hid
  have hlisted : id ∈ graph.view.replicas := List.mem_toFinset.mp hlisted
  have hrefused : id ∉ graph.heuristicCandidates := fun hmem =>
    hrefused (List.mem_toFinset.mpr hmem)
  by_contra hkept
  apply hrefused
  refine mem_heuristicCandidates.mpr ⟨hlisted, fun hclamped => hkept ?_⟩
  exact (mem_clampExclusions.mp hclamped).1

theorem suspectEachOther_of_mem_matching {graph : SuspicionGraph} {u v : ReplicaId}
    (hpair : (u, v) ∈ graph.matching) : u ≠ v ∧ graph.suspectEachOther u v = true := by
  obtain ⟨hlt, hmutual⟩ := mem_mutualPairs.mp (mutualPairs_of_mem_matching hpair)
  exact ⟨(UInt32.ne_of_lt hlt), hmutual⟩

theorem matched_or_corner_of_mem_exclusions {graph : SuspicionGraph} {id : ReplicaId}
    (hid : id ∈ graph.exclusions) :
    covers graph.matching id = true ∨
      ∃ u v, (u, v) ∈ graph.matching ∧ id ≠ u ∧ id ≠ v ∧
        graph.suspectEachOther id u = true ∧ graph.suspectEachOther id v = true := by
  by_cases hcovers : covers graph.matching id = true
  · exact Or.inl hcovers
  have hfree : ∀ u v, (u, v) ∈ graph.matching → id ≠ u ∧ id ≠ v := by
    intro u v hpair
    refine ⟨?_, ?_⟩
    · rintro rfl
      exact hcovers (covers_iff.mpr ⟨_, hpair, Or.inl rfl⟩)
    · rintro rfl
      exact hcovers (covers_iff.mpr ⟨_, hpair, Or.inr rfl⟩)
  obtain ⟨u, v, w, htriangle, hmatched, hcorner⟩ := (mem_exclusions.mp hid).resolve_left hcovers
  obtain ⟨huv, huw, hvw⟩ := mem_triangles.mp htriangle
  have huv := (mem_mutualPairs.mp huv).2
  have huw := (mem_mutualPairs.mp huw).2
  have hvw := (mem_mutualPairs.mp hvw).2
  have hvu : graph.suspectEachOther v u = true := by rwa [suspectEachOther_comm]
  have hwu : graph.suspectEachOther w u = true := by rwa [suspectEachOther_comm]
  have hwv : graph.suspectEachOther w v = true := by rwa [suspectEachOther_comm]
  right
  -- The corner itself is free, so it is the one opposite to the matched pair.
  rcases hmatched with hpair | hpair | hpair
  · obtain ⟨hnu, hnv⟩ := hfree u v hpair
    obtain rfl : id = w := by tauto
    exact ⟨u, v, hpair, hnu, hnv, hwu, hwv⟩
  · obtain ⟨hnu, hnw⟩ := hfree u w hpair
    obtain rfl : id = v := by tauto
    exact ⟨u, w, hpair, hnu, hnw, hvu, hvw⟩
  · obtain ⟨hnv, hnw⟩ := hfree v w hpair
    obtain rfl : id = u := by tauto
    exact ⟨v, w, hpair, hnv, hnw, huv, huw⟩

/-! ## Liars and honest replicas -/

/-- Of two replicas that suspect each other at least one is a liar. -/
def IsBlamedOn (graph : SuspicionGraph) (liars : Finset ReplicaId) : Prop :=
  ∀ u v, u ≠ v → graph.suspectEachOther u v = true → u ∈ liars ∨ v ∈ liars

/-- Whether the replica and a matched pair of liars all suspect each other. -/
def facesTwo (graph : SuspicionGraph) (liars : Finset ReplicaId) (id : ReplicaId) : Bool :=
  graph.matching.any fun (u, v) =>
    u ∈ liars && v ∈ liars && graph.suspectEachOther id u && graph.suspectEachOther id v

theorem facesTwo_iff {graph : SuspicionGraph} {liars : Finset ReplicaId} {id : ReplicaId} :
    graph.facesTwo liars id = true ↔
      ∃ u v, (u, v) ∈ graph.matching ∧ u ∈ liars ∧ v ∈ liars ∧
        graph.suspectEachOther id u = true ∧ graph.suspectEachOther id v = true := by
  simp [facesTwo, List.any_eq_true, and_assoc]

variable {graph : SuspicionGraph} {liars : Finset ReplicaId}

theorem IsBlamedOn.exists_partner (hblame : graph.IsBlamedOn liars) {id : ReplicaId}
    (hexcluded : id ∈ graph.excluded) (hhonest : id ∉ liars)
    (hfaces : graph.facesTwo liars id = false) :
    ∃ partner ∈ liars, (id, partner) ∈ graph.matching ∨ (partner, id) ∈ graph.matching := by
  rcases matched_or_corner_of_mem_exclusions (mem_exclusions_of_mem_excluded hexcluded) with
    hcovers | ⟨u, v, hpair, hnu, hnv, hu, hv⟩
  · obtain ⟨⟨u, v⟩, hpair, hend⟩ := covers_iff.mp hcovers
    obtain ⟨hne, hmutual⟩ := suspectEachOther_of_mem_matching hpair
    rcases hend with rfl | rfl
    · exact ⟨v, (hblame _ v hne hmutual).resolve_left hhonest, Or.inl hpair⟩
    · exact ⟨u, (hblame u _ hne hmutual).resolve_right hhonest, Or.inr hpair⟩
  · have huLiar : u ∈ liars := (hblame id u hnu hu).resolve_left hhonest
    have hvLiar : v ∈ liars := (hblame id v hnv hv).resolve_left hhonest
    have hyes := facesTwo_iff.mpr ⟨u, v, hpair, huLiar, hvLiar, hu, hv⟩
    rw [hfaces] at hyes
    contradiction

theorem eq_of_same_partner {first second partner : ReplicaId}
    (hfirst : (first, partner) ∈ graph.matching ∨ (partner, first) ∈ graph.matching)
    (hsecond : (second, partner) ∈ graph.matching ∨ (partner, second) ∈ graph.matching) :
    first = second := by
  have hmatching := graph.isMatching_matching
  rcases hfirst with hfirst | hfirst
  · rcases hsecond with hsecond | hsecond
    · exact (Prod.mk.inj (hmatching _ hfirst _ hsecond partner (Or.inr rfl) (Or.inr rfl))).1
    · obtain ⟨rfl, rfl⟩ := Prod.mk.inj
        (hmatching _ hfirst _ hsecond partner (Or.inr rfl) (Or.inl rfl))
      rfl
  · rcases hsecond with hsecond | hsecond
    · obtain ⟨rfl, rfl⟩ := Prod.mk.inj
        (hmatching _ hfirst _ hsecond partner (Or.inl rfl) (Or.inr rfl))
      rfl
    · exact (Prod.mk.inj (hmatching _ hfirst _ hsecond partner (Or.inl rfl) (Or.inl rfl))).2

theorem IsBlamedOn.card_le (hblame : graph.IsBlamedOn liars) :
    ((graph.excluded \ liars).filter fun id => graph.facesTwo liars id = false).card ≤
      liars.card := by
  have hpartner : ∀ id ∈ (graph.excluded \ liars).filter
      fun id => graph.facesTwo liars id = false,
      ∃ partner ∈ liars, (id, partner) ∈ graph.matching ∨ (partner, id) ∈ graph.matching := by
    intro id hid
    obtain ⟨hmem, hfaces⟩ := Finset.mem_filter.mp hid
    obtain ⟨hexcluded, hhonest⟩ := Finset.mem_sdiff.mp hmem
    exact hblame.exists_partner hexcluded hhonest hfaces
  choose! partner hliar hmatched using hpartner
  refine Finset.card_le_card_of_injOn partner (fun id hid => hliar id hid) ?_
  intro first hfirst second hsecond heq
  have hshared := hmatched second hsecond
  rw [← heq] at hshared
  exact eq_of_same_partner (hmatched first hfirst) hshared

theorem facesTwo_eq_false (hapart : ∀ u ∈ liars, ∀ v ∈ liars, u ≠ v →
    graph.suspectEachOther u v = false) (id : ReplicaId) : graph.facesTwo liars id = false := by
  by_contra hfaces
  obtain ⟨u, v, hpair, hu, hv, -⟩ := facesTwo_iff.mp (Bool.eq_true_of_not_eq_false hfaces)
  obtain ⟨hne, hmutual⟩ := suspectEachOther_of_mem_matching hpair
  rw [hapart u hu v hv hne] at hmutual
  contradiction

/-- Each liar excludes at most one honest replica by being matched with it.
All other honest replicas that are excluded suspect both ends of a matched
pair of liars and are suspected by them, so there are none if no two liars
suspect each other. -/
theorem card_excluded_sdiff_le (hblame : graph.IsBlamedOn liars) :
    ((graph.excluded \ liars).filter fun id => graph.facesTwo liars id = false).card ≤
        liars.card ∧
      ((∀ u ∈ liars, ∀ v ∈ liars, u ≠ v → graph.suspectEachOther u v = false) →
        (graph.excluded \ liars).card ≤ liars.card) := by
  refine ⟨hblame.card_le, ?_⟩
  intro hapart
  have hall : ((graph.excluded \ liars).filter fun id => graph.facesTwo liars id = false) =
      graph.excluded \ liars :=
    Finset.filter_true_of_mem fun id _ => facesTwo_eq_false hapart id
  rw [← hall]
  exact hblame.card_le

def accusationsWithin (pairs : List ReplicaPair) : List Suspicion :=
  pairs.flatMap fun (u, v) =>
    [{ round := 1, phase := .propose, kind := .slow, suspect := v, reporter := u },
      { round := 1, phase := .propose, kind := .falseAccusation, suspect := u, reporter := v }]

theorem isBlamedOn_after {view : View} {suspicions : List Suspicion}
    (hblame : ∀ s ∈ suspicions, s.reporter ∈ liars ∨ s.suspect ∈ liars) :
    (after view [.populate suspicions]).IsBlamedOn liars := by
  intro u v _ hmutual
  have hgraph : after view [.populate suspicions] = (empty view).strengthenAll suspicions := rfl
  have hedge := (suspectEachOther_iff.mp hmutual).1
  rw [hgraph, suspects_strengthenAll, suspects_empty] at hedge
  obtain ⟨-, s, hs, rfl, rfl⟩ := hedge.resolve_left Bool.false_ne_true
  exact hblame s hs

/-- Two liars that do not suspect each other exclude one honest replica each,
although a third one is accused. -/
theorem two_liars_exclude_two :
    let liars : Finset ReplicaId := {0, 1}
    let graph := after ⟨7, 2, by decide⟩
      [.populate (accusationsWithin [(0, 2), (1, 3), (1, 4)])]
    graph.IsBlamedOn liars ∧ graph.excluded \ liars = {2, 3} ∧
      (graph.excluded \ liars).card ≤ liars.card := by
  intro liars graph
  have hblame : graph.IsBlamedOn liars := isBlamedOn_after (by decide)
  have hapart : ∀ u ∈ liars, ∀ v ∈ liars, u ≠ v → graph.suspectEachOther u v = false := by
    intro u hu v hv hne
    have hcases : ∀ id ∈ liars, id = 0 ∨ id = 1 := by simp [liars]
    rcases hcases u hu with rfl | rfl
    · obtain rfl : v = 1 := (hcases v hv).resolve_left hne.symm
      decide +kernel
    · obtain rfl : v = 0 := (hcases v hv).resolve_right hne.symm
      decide +kernel
  exact ⟨hblame, by decide +kernel, (card_excluded_sdiff_le hblame).2 hapart⟩

/-- Two liars that are matched with each other exclude three honest replicas,
each of which suspects them both. -/
theorem two_liars_exclude_three :
    let liars : Finset ReplicaId := {0, 1}
    let graph := after ⟨8, 2, by decide⟩
      [.populate (accusationsWithin [(0, 1), (0, 2), (1, 2), (0, 3), (1, 3), (0, 4), (1, 4)])]
    liars.card ≤ graph.view.f ∧ graph.IsBlamedOn liars ∧
      liars.card < (graph.excluded \ liars).card := by
  intro liars graph
  refine ⟨by decide +kernel, isBlamedOn_after (by decide), by decide +kernel⟩

end SuspicionGraph
end SuspicionMonitor
