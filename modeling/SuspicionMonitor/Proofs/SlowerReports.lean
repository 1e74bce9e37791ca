import SuspicionMonitor.Proofs.LyingReports

/-!
# Slower reports

Whoever reports a slower link, nobody is expected any earlier.  A link is as
slow as the slower of its two reports, a path as slow as its links allow, and
neither the quorum of a vote nor that of a round is complete any earlier.  This
holds for all 64-bit reports: a sum stops at the ends of the range, and a path
over a missing link is missing, which is the slowest that any path can be.
-/

namespace SuspicionMonitor

/-- Nothing is expected any later. -/
structure Expectation.IsNoLaterThan (first second : Expectation) : Prop where
  round : first.round ≤ second.round
  propose : first.propose ≤ second.propose
  writeArrival : List.Forall₂ (· ≤ ·) first.writeArrival second.writeArrival
  acceptArrival : List.Forall₂ (· ≤ ·) first.acceptArrival second.acceptArrival

theorem LatencyMatrix.entry_symmetrise_le {first second : LatencyMatrix} {n : Nat}
    (hfirst : first.size = n) (hsecond : second.size = n)
    (hle : ∀ i < n, ∀ j < n, first.entry i j ≤ second.entry i j) (i j : Nat) :
    first.symmetrise.entry i j ≤ second.symmetrise.entry i j := by
  rw [entry_symmetrise, entry_symmetrise, hfirst, hsecond]
  split
  next hinside => exact Nanos.max_le_max (hle i hinside.1 j hinside.2) (hle j hinside.2 i hinside.1)
  next => exact Int64.le_refl _

namespace LatencyBoard

/-- Both boards are in use in the same view, and no replica has reported a
slower link on the first one. -/
structure IsNoSlowerThan (first second : LatencyBoard) : Prop where
  view : first.view = second.view
  fits_first : first.fits = true
  fits_second : second.fits = true
  write : ∀ i < first.view.n, ∀ j < first.view.n, first.write.entry i j ≤ second.write.entry i j
  propose : ∀ i < first.view.n, ∀ j < first.view.n,
    first.propose.entry i j ≤ second.propose.entry i j

variable {first second : LatencyBoard}

theorem IsNoSlowerThan.size_second (hle : first.IsNoSlowerThan second) :
    second.write.size = first.view.n ∧ second.propose.size = first.view.n := by
  rw [hle.view]
  exact fits_iff.mp hle.fits_second

theorem IsNoSlowerThan.writeLink_le (hle : first.IsNoSlowerThan second) (i j : Nat) :
    first.writeLink i j ≤ second.writeLink i j :=
  LatencyMatrix.entry_symmetrise_le (fits_iff.mp hle.fits_first).1 hle.size_second.1 hle.write i j

theorem IsNoSlowerThan.proposeLink_le (hle : first.IsNoSlowerThan second) (i j : Nat) :
    first.proposeLink i j ≤ second.proposeLink i j :=
  LatencyMatrix.entry_symmetrise_le (fits_iff.mp hle.fits_first).2 hle.size_second.2 hle.propose
    i j

theorem IsNoSlowerThan.writeTime_le (hle : first.IsNoSlowerThan second) (leader : ReplicaId)
    (i j : Nat) : first.writeTime leader i j ≤ second.writeTime leader i j :=
  Nanos.link_le_link (hle.proposeLink_le _ _) (hle.writeLink_le _ _)

theorem forall₂_map_of_le {replicas : List Nat} {delay delay' : Nat → Nanos}
    (hle : ∀ i, delay i ≤ delay' i) :
    List.Forall₂ (· ≤ ·) (replicas.map delay) (replicas.map delay') := by
  rw [List.forall₂_map_left_iff, List.forall₂_map_right_iff]
  exact List.forall₂_same.mpr fun i _ => hle i

theorem IsNoSlowerThan.acceptTime_le (hle : first.IsNoSlowerThan second)
    (leader self : ReplicaId) (j : Nat) :
    first.acceptTime leader self j ≤ second.acceptTime leader self j := by
  rw [acceptTime, acceptTime, hle.view]
  refine Nanos.link_le_link (Nanos.kthSmallest_le_kthSmallest ?_ _) (hle.writeLink_le _ _)
  exact forall₂_map_of_le fun i => hle.writeTime_le leader i j

theorem predict_isNoLaterThan (hle : first.IsNoSlowerThan second) (leader self : ReplicaId) :
    (first.predict leader self).value.2.IsNoLaterThan (second.predict leader self).value.2 := by
  by_cases houtside : first.view.n ≤ leader.toNat ∨ first.view.n ≤ self.toNat
  · have houtside' := houtside
    rw [hle.view] at houtside'
    rw [predict_of_outside hle.fits_first houtside, predict_of_outside hle.fits_second houtside',
      hle.view]
    have hsame : ∀ latencies : List Nanos, List.Forall₂ (· ≤ ·) latencies latencies :=
      fun latencies => List.forall₂_same.mpr fun latency _ => Int64.le_refl latency
    exact ⟨Int64.le_refl _, Int64.le_refl _, hsame _, hsame _⟩
  · have houtside' := houtside
    rw [hle.view] at houtside'
    rw [predict_of_inside hle.fits_first houtside, predict_of_inside hle.fits_second houtside',
      hle.view]
    have haccept : List.Forall₂ (· ≤ ·)
        ((List.range second.view.n).map (first.acceptTime leader self))
        ((List.range second.view.n).map (second.acceptTime leader self)) :=
      forall₂_map_of_le (hle.acceptTime_le leader self)
    exact {
      round := Nanos.kthSmallest_le_kthSmallest haccept _
      propose := hle.proposeLink_le _ _
      writeArrival := forall₂_map_of_le fun i => hle.writeTime_le leader i self.toNat
      acceptArrival := haccept }

theorem length_arrivals_predict (hfits : first.fits = true) (leader self : ReplicaId) :
    (first.predict leader self).value.2.writeArrival.length = first.view.n ∧
      (first.predict leader self).value.2.acceptArrival.length = first.view.n := by
  by_cases houtside : first.view.n ≤ leader.toNat ∨ first.view.n ≤ self.toNat
  · rw [predict_of_outside hfits houtside]
    exact ⟨List.length_replicate, List.length_replicate⟩
  · rw [predict_of_inside hfits houtside]
    simp

/-- Slower reports make no expected delay smaller, whichever replica leads and
whichever asks, in the view or not: neither that of a proposal or of the next
round nor that of any replica's vote. -/
theorem slower_reports_delay_expectations (hle : first.IsNoSlowerThan second)
    (leader self : ReplicaId) :
    let earlier := (first.predict leader self).value.2
    let later := (second.predict leader self).value.2
    earlier.IsNoLaterThan later ∧
      earlier.writeArrival.length = first.view.n ∧ earlier.acceptArrival.length = first.view.n :=
  ⟨predict_isNoLaterThan hle leader self, length_arrivals_predict hle.fits_first leader self⟩

/-- Some links are reported to take so much less than no time that sums stop at
the lower end of the range.  Then replica 2 reports how long proposals really
take, and replica 3 that no vote reaches it. -/
theorem slower_reports_among_four :
    let write : LatencyMatrix :=
      #[#[0, -5, 20, 30], #[-7, 0, -20, 25], #[20, -30, 0, Int64.minValue],
        #[30, 25, Int64.minValue, 0]]
    let propose : LatencyMatrix :=
      #[#[0, 40, Int64.minValue, 60], #[40, 0, 10, 10], #[Int64.minValue, 10, 0, 10],
        #[50, 10, 10, 0]]
    let first : LatencyBoard := ⟨⟨4, 1, by decide⟩, write, propose⟩
    let second := { first with
      write := write.setIfInBounds 3 (Array.replicate 4 Int64.maxValue)
      propose := propose.setIfInBounds 2 #[-10, 90, 0, Nanos.missing] }
    let earlier : Expectation :=
      { round := 40, propose := 40
        writeArrival := [-5, 40, Int64.minValue, 85], acceptArrival := [30, 40, 0, 85] }
    let later : Expectation :=
      { round := 40, propose := 40
        writeArrival := [-5, 40, -30, Nanos.missing], acceptArrival := [30, 40, 0, Nanos.missing] }
    first.IsNoSlowerThan second ∧ (first.predict 0 1).value.2 = earlier ∧
      (second.predict 0 1).value.2 = later ∧ earlier.IsNoLaterThan later := by
  intro write propose first second earlier later
  have hle : first.IsNoSlowerThan second :=
    ⟨rfl, by decide, by decide, by decide +kernel, by decide +kernel⟩
  have hearlier : (first.predict 0 1).value.2 = earlier := by cbv
  have hlater : (second.predict 0 1).value.2 = later := by cbv
  have horder := (slower_reports_delay_expectations hle 0 1).1
  rw [hearlier, hlater] at horder
  exact ⟨hle, hearlier, hlater, horder⟩

end LatencyBoard
end SuspicionMonitor
