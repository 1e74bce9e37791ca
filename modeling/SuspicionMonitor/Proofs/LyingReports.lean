import SuspicionMonitor.Proofs.DelayOrder
import SuspicionMonitor.Proofs.LatencyBoards

/-!
# Lying reports

At most `f` replicas may report latencies as they like.  A link between two
others is known from their own reports alone.  Where the expected delays are
the `n - f`-th smallest of something, the others fill a quorum by themselves,
so a liar can only make these delays smaller than the slowest of the others.
-/

namespace SuspicionMonitor

namespace View

/-- The replicas of the view that are not among the liars. -/
def others (view : View) (liars : Finset Nat) : List Nat :=
  (List.range view.n).filter (· ∉ liars)

theorem mem_others {view : View} {liars : Finset Nat} {i : Nat} :
    i ∈ view.others liars ↔ i < view.n ∧ i ∉ liars := by
  simp [others]

theorem quorum_le_length_others {view : View} {liars : Finset Nat}
    (hliars : liars.card ≤ view.f) : view.quorum ≤ (view.others liars).length := by
  have hothers : (view.others liars).toFinset = Finset.range view.n \ liars := by
    ext i
    simp [mem_others]
  have hnodup : (view.others liars).Nodup := List.nodup_range.filter _
  have hcard := Finset.le_card_sdiff liars (Finset.range view.n)
  rw [← hothers, List.toFinset_card_of_nodup hnodup, Finset.card_range] at hcard
  simp only [quorum]
  omega

theorem quorum_pos (view : View) : 0 < view.quorum := by
  have := view.bound
  simp only [quorum]
  omega

theorem exists_mem_others {view : View} {liars : Finset Nat} (hliars : liars.card ≤ view.f) :
    ∃ i, i ∈ view.others liars := by
  apply List.exists_mem_of_length_pos
  exact view.quorum_pos.trans_le (quorum_le_length_others hliars)

end View

namespace Nanos

/-- The slowest of some delays. -/
def slowest (latencies : List Nanos) : Nanos := latencies.max?.getD missing

theorem le_slowest {latencies : List Nanos} {latency : Nanos} (hmem : latency ∈ latencies) :
    latency ≤ slowest latencies := by
  unfold slowest
  cases hmax : latencies.max? with
  | none =>
      rw [List.max?_eq_none_iff.mp hmax] at hmem
      contradiction
  | some greatest => exact (List.max?_eq_some_iff.mp hmax).2 latency hmem

theorem slowest_map_le_slowest_map {replicas : List Nat} {first second : Nat → Nanos}
    (hle : ∀ i ∈ replicas, first i ≤ second i) :
    slowest (replicas.map first) ≤ slowest (replicas.map second) := by
  unfold slowest
  cases hmax : (replicas.map first).max? with
  | none =>
      rw [List.map_eq_nil_iff.mp (List.max?_eq_none_iff.mp hmax)]
      exact Int64.le_refl _
  | some greatest =>
      obtain ⟨hmem, -⟩ := List.max?_eq_some_iff.mp hmax
      obtain ⟨i, hi, rfl⟩ := List.mem_map.mp hmem
      exact Int64.le_trans (hle i hi) (le_slowest (List.mem_map_of_mem hi))

/-- The others are a quorum, so a quorum is no slower than the slowest of
them. -/
theorem kthSmallest_quorum_le {view : View} {liars : Finset Nat} (hliars : liars.card ≤ view.f)
    (delay : Nat → Nanos) :
    kthSmallest ((List.range view.n).map delay) view.quorum ≤
      slowest ((view.others liars).map delay) := by
  apply kthSmallest_le view.quorum_pos
  rw [List.countP_map]
  calc
    view.quorum ≤ (view.others liars).length := View.quorum_le_length_others hliars
    _ = (view.others liars).countP
          ((fun latency => decide (latency ≤ slowest ((view.others liars).map delay))) ∘ delay) := by
        symm
        rw [List.countP_eq_length]
        intro i hi
        exact decide_eq_true (le_slowest (List.mem_map_of_mem hi))
    _ ≤ _ := List.filter_sublist.countP_le

end Nanos

namespace LatencyMatrix

theorem entry_symmetrise (matrix : LatencyMatrix) (i j : Nat) :
    matrix.symmetrise.entry i j =
      if i < matrix.size ∧ j < matrix.size then max (matrix.entry i j) (matrix.entry j i)
      else Nanos.missing := by
  rw [entry, symmetrise]
  by_cases hi : i < matrix.size
  · by_cases hj : j < matrix.size
    · simp [hi, hj]
    · simp [hi, hj]
  · simp [hi]

/-- What two replicas reported decides about the link between them. -/
theorem entry_symmetrise_congr {first second : LatencyMatrix} (hsize : first.size = second.size)
    {i j : Nat} (hi : first[i]? = second[i]?) (hj : first[j]? = second[j]?) :
    first.symmetrise.entry i j = second.symmetrise.entry i j := by
  rw [entry_symmetrise, entry_symmetrise, hsize]
  simp only [entry, hi, hj]

end LatencyMatrix

namespace LatencyBoard

/-- The time a proposal is believed to take from one replica to another. -/
def proposeLink (board : LatencyBoard) (i j : Nat) : Nanos := board.propose.symmetrise.entry i j

/-- The time a vote is believed to take from one replica to another. -/
def writeLink (board : LatencyBoard) (i j : Nat) : Nanos := board.write.symmetrise.entry i j

/-- When the write vote of `i` is expected at `j`, counted from the sending of
the proposal. -/
def writeTime (board : LatencyBoard) (leader : ReplicaId) (i j : Nat) : Nanos :=
  (board.proposeLink leader.toNat i).link (board.writeLink i j)

/-- When the accept vote of `j` is expected at `self`: a quorum of write votes
has to reach `j` first. -/
def acceptTime (board : LatencyBoard) (leader self : ReplicaId) (j : Nat) : Nanos :=
  (Nanos.kthSmallest ((List.range board.view.n).map (board.writeTime leader · j))
    board.view.quorum).link (board.writeLink j self.toNat)

/-- When it would be expected if the write votes of all but the liars had to
reach `j` first. -/
def acceptBound (board : LatencyBoard) (liars : Finset Nat) (leader self : ReplicaId) (j : Nat) :
    Nanos :=
  (Nanos.slowest ((board.view.others liars).map (board.writeTime leader · j))).link
    (board.writeLink j self.toNat)

/-- Everybody but the liars has reported the same on both boards. -/
structure AgreesUpTo (first : LatencyBoard) (liars : Finset Nat) (second : LatencyBoard) :
    Prop where
  view : first.view = second.view
  write : ∀ i, i ∉ liars → first.write[i]? = second.write[i]?
  propose : ∀ i, i ∉ liars → first.propose[i]? = second.propose[i]?

theorem agreesUpTo_setIfInBounds (board : LatencyBoard) {liars : Finset Nat} {liar : Nat}
    (hliar : liar ∈ liars) (write propose : Array Nanos) :
    AgreesUpTo
      { board with
        write := board.write.setIfInBounds liar write
        propose := board.propose.setIfInBounds liar propose } liars board := by
  refine ⟨rfl, fun i hi => ?_, fun i hi => ?_⟩ <;>
    exact Array.getElem?_setIfInBounds_ne (ne_of_mem_of_not_mem hliar hi)

section

variable {told truth : LatencyBoard} {liars : Finset Nat} {leader self : ReplicaId} {i j : Nat}

theorem AgreesUpTo.proposeLink_eq (hagree : told.AgreesUpTo liars truth)
    (htold : told.fits = true) (htruth : truth.fits = true) (hi : i ∉ liars) (hj : j ∉ liars) :
    told.proposeLink i j = truth.proposeLink i j := by
  have hsize : told.propose.size = truth.propose.size := by
    rw [(fits_iff.mp htold).2, (fits_iff.mp htruth).2, hagree.view]
  exact LatencyMatrix.entry_symmetrise_congr hsize (hagree.propose i hi) (hagree.propose j hj)

theorem AgreesUpTo.writeLink_eq (hagree : told.AgreesUpTo liars truth)
    (htold : told.fits = true) (htruth : truth.fits = true) (hi : i ∉ liars) (hj : j ∉ liars) :
    told.writeLink i j = truth.writeLink i j := by
  have hsize : told.write.size = truth.write.size := by
    rw [(fits_iff.mp htold).1, (fits_iff.mp htruth).1, hagree.view]
  exact LatencyMatrix.entry_symmetrise_congr hsize (hagree.write i hi) (hagree.write j hj)

theorem AgreesUpTo.writeTime_eq (hagree : told.AgreesUpTo liars truth)
    (htold : told.fits = true) (htruth : truth.fits = true) (hleader : leader.toNat ∉ liars)
    (hi : i ∉ liars) (hj : j ∉ liars) :
    told.writeTime leader i j = truth.writeTime leader i j := by
  rw [writeTime, writeTime, hagree.proposeLink_eq htold htruth hleader hi,
    hagree.writeLink_eq htold htruth hi hj]

theorem AgreesUpTo.acceptBound_eq (hagree : told.AgreesUpTo liars truth)
    (htold : told.fits = true) (htruth : truth.fits = true) (hleader : leader.toNat ∉ liars)
    (hself : self.toNat ∉ liars) (hj : j ∉ liars) :
    told.acceptBound liars leader self j = truth.acceptBound liars leader self j := by
  have htimes : (told.view.others liars).map (told.writeTime leader · j) =
      (truth.view.others liars).map (truth.writeTime leader · j) := by
    rw [hagree.view]
    apply List.map_congr_left
    intro i hi
    exact hagree.writeTime_eq htold htruth hleader (View.mem_others.mp hi).2 hj
  rw [acceptBound, acceptBound, htimes, hagree.writeLink_eq htold htruth hj hself]

end

/-! ## Expected delays -/

section

variable {board : LatencyBoard} {liars : Finset Nat} {leader self : ReplicaId} {i j : Nat}

theorem proposeLink_of_outside (hfits : board.fits = true) (hi : board.view.n ≤ i) :
    board.proposeLink i j = Nanos.missing := by
  rw [proposeLink, LatencyMatrix.entry_symmetrise, (fits_iff.mp hfits).2, if_neg (by omega)]

theorem writeLink_of_outside (hfits : board.fits = true) (hj : board.view.n ≤ j) :
    board.writeLink i j = Nanos.missing := by
  rw [writeLink, LatencyMatrix.entry_symmetrise, (fits_iff.mp hfits).1, if_neg (by omega)]

theorem predict_of_outside (hfits : board.fits = true)
    (houtside : board.view.n ≤ leader.toNat ∨ board.view.n ≤ self.toNat) :
    (board.predict leader self).value.2 = Expectation.missing board.view.n := by
  simp only [predict, Logged.value_bind, Logged.value_pure, value_fitted, hfits, if_true]
  rw [Expectation.predict, if_pos (by simpa using houtside)]

theorem predict_of_inside (hfits : board.fits = true)
    (hinside : ¬ (board.view.n ≤ leader.toNat ∨ board.view.n ≤ self.toNat)) :
    let peers := List.range board.view.n
    (board.predict leader self).value.2 =
      { round := Nanos.kthSmallest (peers.map (board.acceptTime leader self)) board.view.quorum
        propose := board.proposeLink leader.toNat self.toNat
        writeArrival := peers.map (board.writeTime leader · self.toNat)
        acceptArrival := peers.map (board.acceptTime leader self) } := by
  simp only [predict, Logged.value_bind, Logged.value_pure, value_fitted, hfits, if_true]
  rw [Expectation.predict, if_neg (by simpa using hinside)]
  rfl

theorem writeArrival_predict (hfits : board.fits = true) (hj : j < board.view.n) :
    (board.predict leader self).value.2.writeArrival[j]? =
      some (board.writeTime leader j self.toNat) := by
  by_cases houtside : board.view.n ≤ leader.toNat ∨ board.view.n ≤ self.toNat
  · have htime : board.writeTime leader j self.toNat = Nanos.missing := by
      apply Nanos.link_eq_missing
      refine houtside.imp (fun hleader => ?_) (fun hself => ?_)
      · rw [proposeLink_of_outside hfits hleader]
        exact Int64.le_refl _
      · rw [writeLink_of_outside hfits hself]
        exact Int64.le_refl _
    rw [predict_of_outside hfits houtside, htime]
    simp [Expectation.missing, hj]
  · rw [predict_of_inside hfits houtside]
    simp [hj]

/-- The others alone are a quorum of write votes for the accept vote of
`j`. -/
theorem acceptArrival_predict_le (hfits : board.fits = true) (hliars : liars.card ≤ board.view.f)
    (hj : j < board.view.n) :
    ∃ arrival, (board.predict leader self).value.2.acceptArrival[j]? = some arrival ∧
      arrival ≤ board.acceptBound liars leader self j := by
  by_cases houtside : board.view.n ≤ leader.toNat ∨ board.view.n ≤ self.toNat
  · refine ⟨Nanos.missing, ?_, ?_⟩
    · rw [predict_of_outside hfits houtside]
      simp [Expectation.missing, hj]
    · obtain ⟨i, hi⟩ := View.exists_mem_others hliars
      have hbound : board.acceptBound liars leader self j = Nanos.missing := by
        apply Nanos.link_eq_missing
        refine houtside.imp (fun hleader => ?_) (fun hself => ?_)
        · have htime : board.writeTime leader i j = Nanos.missing := by
            rw [writeTime, proposeLink_of_outside hfits hleader]
            exact Nanos.link_eq_missing (Or.inl (Int64.le_refl _))
          rw [← htime]
          exact Nanos.le_slowest (List.mem_map_of_mem hi)
        · rw [writeLink_of_outside hfits hself]
          exact Int64.le_refl _
      rw [hbound]
      exact Int64.le_refl _
  · rw [predict_of_inside hfits houtside]
    refine ⟨board.acceptTime leader self j, by simp [hj], ?_⟩
    exact Nanos.link_le_link (Nanos.kthSmallest_quorum_le hliars _) (Int64.le_refl _)

theorem round_predict_le (hfits : board.fits = true) (hliars : liars.card ≤ board.view.f) :
    (board.predict leader self).value.2.round ≤
      Nanos.slowest ((board.view.others liars).map fun j =>
        (board.predict leader self).value.2.acceptArrival[j]?.getD Nanos.missing) := by
  by_cases houtside : board.view.n ≤ leader.toNat ∨ board.view.n ≤ self.toNat
  · obtain ⟨i, hi⟩ := View.exists_mem_others hliars
    rw [predict_of_outside hfits houtside]
    apply Nanos.le_slowest
    refine List.mem_map.mpr ⟨i, hi, ?_⟩
    simp [Expectation.missing, (View.mem_others.mp hi).1]
  · rw [predict_of_inside hfits houtside]
    refine Int64.le_trans (Nanos.kthSmallest_quorum_le hliars _) ?_
    apply Nanos.slowest_map_le_slowest_map
    intro i hi
    simp [(View.mem_others.mp hi).1]

end

/-- The leader, the replica itself and the peers in question tell the truth.
Whatever up to `f` liars have reported instead, the write votes are expected
when they were, the accept votes no later than the slowest path through
truthful replicas allows, and the next proposal no later than the slowest of
the truthful accept votes. -/
theorem liars_cannot_raise_expectations {truth told : LatencyBoard} (htruth : truth.fits = true)
    (htold : told.fits = true) {liars : Finset Nat} (hliars : liars.card ≤ truth.view.f)
    (hagree : told.AgreesUpTo liars truth) {leader self : ReplicaId}
    (hleader : leader.toNat ∉ liars) (hself : self.toNat ∉ liars) :
    let others := truth.view.others liars
    let honest := (truth.predict leader self).value.2
    let expected := (told.predict leader self).value.2
    (∀ j ∈ others,
      (∃ arrival, expected.writeArrival[j]? = some arrival ∧
        honest.writeArrival[j]? = some arrival) ∧
      ∃ arrival, expected.acceptArrival[j]? = some arrival ∧
        arrival ≤ truth.acceptBound liars leader self j) ∧
    expected.round ≤ Nanos.slowest (others.map fun j =>
      expected.acceptArrival[j]?.getD Nanos.missing) ∧
    expected.round ≤ Nanos.slowest (others.map (truth.acceptBound liars leader self)) := by
  intro others honest expected
  have hview := hagree.view
  have hfaults : liars.card ≤ told.view.f := by rwa [hview]
  have hothers : told.view.others liars = others := by rw [hview]
  have haccept : ∀ j ∈ others, ∃ arrival, expected.acceptArrival[j]? = some arrival ∧
      arrival ≤ truth.acceptBound liars leader self j := by
    intro j hj
    obtain ⟨hplace, htruthful⟩ := View.mem_others.mp hj
    rw [← hagree.acceptBound_eq htold htruth hleader hself htruthful]
    exact acceptArrival_predict_le htold hfaults (by rwa [hview])
  have hround : expected.round ≤ Nanos.slowest (others.map fun j =>
      expected.acceptArrival[j]?.getD Nanos.missing) := by
    rw [← hothers]
    exact round_predict_le htold hfaults
  refine ⟨fun j hj => ⟨?_, haccept j hj⟩, hround, ?_⟩
  · obtain ⟨hplace, htruthful⟩ := View.mem_others.mp hj
    refine ⟨_, writeArrival_predict htold (by rwa [hview]), ?_⟩
    rw [hagree.writeTime_eq htold htruth hleader htruthful hself]
    exact writeArrival_predict htruth hplace
  · refine Int64.le_trans hround ?_
    apply Nanos.slowest_map_le_slowest_map
    intro j hj
    obtain ⟨arrival, harrival, hbound⟩ := haccept j hj
    rw [harrival]
    exact hbound

/-- A proposal takes 20 and a vote 10 between any two of four replicas.  The
last one claims to be out of reach for votes and to receive proposals before
they are sent. -/
theorem liar_out_of_reach_among_four :
    let truth : LatencyBoard :=
      ⟨⟨4, 1, by decide⟩, Array.replicate 4 (Array.replicate 4 10),
        Array.replicate 4 (Array.replicate 4 20)⟩
    let told := { truth with
      write := truth.write.setIfInBounds 3 (Array.replicate 4 Int64.maxValue)
      propose := truth.propose.setIfInBounds 3 (Array.replicate 4 (-500)) }
    truth.fits = true ∧ told.fits = true ∧ told.AgreesUpTo {3} truth ∧
      told.writeTime 0 3 1 = Nanos.missing ∧
      (∃ arrival, (told.predict 0 1).value.2.writeArrival[2]? = some arrival ∧
        (truth.predict 0 1).value.2.writeArrival[2]? = some arrival) ∧
      (∃ arrival, (told.predict 0 1).value.2.acceptArrival[2]? = some arrival ∧ arrival ≤ 40) ∧
      (told.predict 0 1).value.2.round ≤ 40 := by
  intro truth told
  have htruth : truth.fits = true := by decide
  have htold : told.fits = true := by decide
  have hagree : told.AgreesUpTo {3} truth :=
    truth.agreesUpTo_setIfInBounds (Finset.mem_singleton_self 3) _ _
  obtain ⟨hothers, -, hround⟩ := liars_cannot_raise_expectations htruth htold (by decide) hagree
    (by decide : (0 : ReplicaId).toNat ∉ ({3} : Finset Nat))
    (by decide : (1 : ReplicaId).toNat ∉ ({3} : Finset Nat))
  obtain ⟨hwrite, haccept⟩ := hothers 2 (by decide)
  have hpeer : truth.acceptBound {3} 0 1 2 = 40 := by decide +kernel
  have hslowest : Nanos.slowest ((truth.view.others {3}).map (truth.acceptBound {3} 0 1)) = 40 := by
    decide +kernel
  rw [hpeer] at haccept
  rw [hslowest] at hround
  exact ⟨htruth, htold, hagree, by decide +kernel, hwrite, haccept, hround⟩

end LatencyBoard
end SuspicionMonitor
