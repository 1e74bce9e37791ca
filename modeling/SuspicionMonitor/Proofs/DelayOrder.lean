import SuspicionMonitor.Latency.Matrix
import Mathlib.Tactic

/-!
# Delays in order

A path of two links takes no less time if one of its links does, also where
the sum stops at the ends of the range or a link is missing.  The `k`-th
smallest of some delays is at most a bound as soon as `k` of them are.
-/

namespace SuspicionMonitor
namespace Nanos

theorem max_eq (first second : Nanos) :
    max first second = if first ≤ second then second else first := rfl

theorem min_eq (first second : Nanos) :
    min first second = if first ≤ second then first else second := rfl

instance : Std.LawfulOrderMax Nanos where
  max_eq_or := by
    intro first second
    rw [max_eq]
    split
    · exact Or.inr rfl
    · exact Or.inl rfl
  max_le_iff := by
    intro first second bound
    rw [max_eq]
    simp only [Int64.le_iff_toInt_le]
    split <;> omega

theorem max_comm (first second : Nanos) : max first second = max second first := by
  rw [max_eq, max_eq]
  split
  next hle =>
    split
    · exact Int64.le_antisymm ‹_› hle
    · rfl
  next hlt => rw [if_pos ((Int64.le_total first second).resolve_left hlt)]

theorem isMissing_iff {latency : Nanos} : latency.isMissing = true ↔ missing ≤ latency := by
  simp [isMissing]

theorem min_le_min_of_le {first first' second : Nanos} (hle : first ≤ first') :
    min first second ≤ min first' second := by
  rw [min_eq, min_eq]
  simp only [Int64.le_iff_toInt_le] at *
  split <;> split <;> omega

theorem max_le_max {first first' second second' : Nanos} (hfirst : first ≤ first')
    (hsecond : second ≤ second') : max first second ≤ max first' second' := by
  rw [max_eq, max_eq]
  simp only [Int64.le_iff_toInt_le] at *
  split <;> split <;> omega

theorem min_le_missing (latency : Nanos) : min latency missing ≤ missing := by
  rw [min_eq]
  simp only [Int64.le_iff_toInt_le]
  split <;> omega

theorem ofIntClamp_le_ofIntClamp {first second : Int} (hle : first ≤ second) :
    Int64.ofIntClamp first ≤ Int64.ofIntClamp second := by
  have hmin := Int64.toInt_minValue
  have hmax := Int64.toInt_maxValue
  rw [Int64.le_iff_toInt_le]
  unfold Int64.ofIntClamp
  split_ifs <;> simp <;> omega

theorem plus_le_plus {first first' second second' : Nanos} (hfirst : first ≤ first')
    (hsecond : second ≤ second') : first.plus second ≤ first'.plus second' := by
  rw [Int64.le_iff_toInt_le] at hfirst hsecond
  exact ofIntClamp_le_ofIntClamp (Int.add_le_add hfirst hsecond)

theorem link_le_missing (first second : Nanos) : first.link second ≤ missing := by
  unfold link
  split
  · exact Int64.le_refl _
  · exact min_le_missing _

theorem link_eq_missing {first second : Nanos} (hmissing : missing ≤ first ∨ missing ≤ second) :
    first.link second = missing := by
  rw [link, if_pos]
  rw [Bool.or_eq_true, isMissing_iff, isMissing_iff]
  exact hmissing

/-- A missing link stays missing when it becomes slower. -/
theorem link_le_link {first first' second second' : Nanos} (hfirst : first ≤ first')
    (hsecond : second ≤ second') : first.link second ≤ first'.link second' := by
  by_cases hknown : (first'.isMissing || second'.isMissing) = true
  · have hbound : first'.link second' = missing := by
      rw [link, if_pos hknown]
    rw [hbound]
    exact link_le_missing first second
  · have hbefore : ¬ (first.isMissing || second.isMissing) = true := by
      simp only [Bool.or_eq_true, isMissing_iff, not_or] at hknown ⊢
      exact ⟨fun hmissing => hknown.1 (Int64.le_trans hmissing hfirst),
        fun hmissing => hknown.2 (Int64.le_trans hmissing hsecond)⟩
    rw [link, if_neg hbefore, link, if_neg hknown]
    exact min_le_min_of_le (plus_le_plus hfirst hsecond)

theorem pairwise_mergeSort (latencies : List Nanos) :
    (latencies.mergeSort fun first second => first ≤ second).Pairwise (· ≤ ·) := by
  have hsorted : (latencies.mergeSort fun first second => first ≤ second).Pairwise
      fun first second => decide (first ≤ second) = true :=
    List.pairwise_mergeSort (by simpa using fun _ _ _ => Int64.le_trans)
      (by simpa using Int64.le_total) latencies
  exact hsorted.imp of_decide_eq_true

theorem le_of_mem_drop {sorted : List Nanos} (hordered : sorted.Pairwise (· ≤ ·)) {place : Nat}
    (hplace : place < sorted.length) {latency : Nanos} (hlater : latency ∈ sorted.drop place) :
    sorted[place] ≤ latency := by
  have hrest : (sorted.drop place).Pairwise (· ≤ ·) := hordered.drop
  rw [List.drop_eq_getElem_cons hplace] at hlater hrest
  rcases List.mem_cons.mp hlater with rfl | hafter
  · exact Int64.le_refl _
  · exact List.rel_of_pairwise_cons hrest hafter

theorem kthSmallest_of_length_lt {latencies : List Nanos} {k : Nat}
    (hshort : latencies.length < k) : kthSmallest latencies k = missing := by
  rw [kthSmallest, if_neg (by omega), List.getElem?_eq_none, Option.getD_none]
  rw [List.length_mergeSort]
  omega

/-- The place of the `k`-th smallest in a sorted list, and what lies before and
behind it. -/
theorem exists_sorted {latencies : List Nanos} {k : Nat} (hpos : 0 < k)
    (hk : k ≤ latencies.length) :
    ∃ sorted : List Nanos, sorted.Perm latencies ∧ sorted.Pairwise (· ≤ ·) ∧
      ∃ hplace : k - 1 < sorted.length, kthSmallest latencies k = sorted[k - 1] := by
  refine ⟨latencies.mergeSort fun first second => first ≤ second, List.mergeSort_perm _ _,
    pairwise_mergeSort latencies, ?_⟩
  have hplace : k - 1 < (latencies.mergeSort fun first second => first ≤ second).length := by
    rw [List.length_mergeSort]
    omega
  exact ⟨hplace, by
    rw [kthSmallest, if_neg hpos.ne', List.getElem?_eq_getElem hplace, Option.getD_some]⟩

/-- If the `k`-th smallest were above the bound, all later ones would be too,
and fewer than `k` at most the bound. -/
theorem kthSmallest_le {latencies : List Nanos} {k : Nat} {bound : Nanos} (hpos : 0 < k)
    (hcount : k ≤ latencies.countP (· ≤ bound)) : kthSmallest latencies k ≤ bound := by
  obtain ⟨sorted, hperm, hordered, hplace, hkth⟩ :=
    exists_sorted hpos (hcount.trans List.countP_le_length)
  have hcounted : sorted.countP (· ≤ bound) = latencies.countP (· ≤ bound) := hperm.countP_eq _
  rw [hkth]
  by_contra habove
  have hlater : (sorted.drop (k - 1)).countP (· ≤ bound) = 0 := by
    rw [List.countP_eq_zero]
    intro latency hlatency hbelow
    have hbetween := le_of_mem_drop hordered hplace hlatency
    exact habove (Int64.le_trans hbetween (of_decide_eq_true hbelow))
  have hearlier : (sorted.take (k - 1)).countP (· ≤ bound) ≤ k - 1 :=
    List.countP_le_length.trans (List.length_take_le _ _)
  have hsplit : sorted.countP (· ≤ bound) =
      (sorted.take (k - 1)).countP (· ≤ bound) + (sorted.drop (k - 1)).countP (· ≤ bound) := by
    rw [← List.countP_append, List.take_append_drop]
  omega

/-- The `k` smallest are all at most the `k`-th. -/
theorem le_countP_kthSmallest {latencies : List Nanos} {k : Nat} (hpos : 0 < k)
    (hk : k ≤ latencies.length) : k ≤ latencies.countP (· ≤ kthSmallest latencies k) := by
  obtain ⟨sorted, hperm, hordered, hplace, hkth⟩ := exists_sorted hpos hk
  have hsmallest : (sorted.take k).countP (· ≤ sorted[k - 1]) = (sorted.take k).length := by
    rw [List.countP_eq_length]
    intro latency hlatency
    obtain ⟨place, hbelow, rfl⟩ := List.mem_take_iff_getElem.mp hlatency
    apply decide_eq_true
    rcases (show place ≤ k - 1 by omega).eq_or_lt with rfl | hless
    · exact Int64.le_refl _
    · exact List.pairwise_iff_getElem.mp hordered place (k - 1) (by omega) hplace hless
  calc
    k = (sorted.take k).length := by
        rw [List.length_take]
        omega
    _ = (sorted.take k).countP (· ≤ sorted[k - 1]) := hsmallest.symm
    _ ≤ sorted.countP (· ≤ sorted[k - 1]) := (List.take_sublist k sorted).countP_le
    _ = latencies.countP (· ≤ kthSmallest latencies k) := by
        rw [hkth]
        exact hperm.countP_eq _

theorem countP_le_countP_of_forall₂ {first second : List Nanos}
    (hle : List.Forall₂ (· ≤ ·) first second) (bound : Nanos) :
    second.countP (· ≤ bound) ≤ first.countP (· ≤ bound) := by
  induction hle with
  | nil => exact Nat.le_refl _
  | @cons faster slower _ _ hhead _ ih =>
      rw [List.countP_cons, List.countP_cons]
      by_cases hslower : slower ≤ bound
      · have hfaster : faster ≤ bound := Int64.le_trans hhead hslower
        simpa [hslower, hfaster] using ih
      · rw [if_neg (by simpa using hslower)]
        exact ih.trans (Nat.le_add_right _ _)

/-- The `k`-th smallest does not fall when no delay falls. -/
theorem kthSmallest_le_kthSmallest {first second : List Nanos}
    (hle : List.Forall₂ (· ≤ ·) first second) (k : Nat) :
    kthSmallest first k ≤ kthSmallest second k := by
  have hlength : first.length = second.length := hle.length_eq
  rcases Nat.eq_zero_or_pos k with rfl | hpos
  · exact Int64.le_refl _
  · rcases Nat.lt_or_ge second.length k with hshort | hk
    · rw [kthSmallest_of_length_lt hshort]
      rw [← hlength] at hshort
      rw [kthSmallest_of_length_lt hshort]
      exact Int64.le_refl _
    · exact kthSmallest_le hpos
        ((le_countP_kthSmallest hpos hk).trans (countP_le_countP_of_forall₂ hle _))

end Nanos
end SuspicionMonitor
