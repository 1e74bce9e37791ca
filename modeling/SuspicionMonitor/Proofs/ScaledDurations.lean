import SuspicionMonitor.Duration
import SuspicionMonitor.Proofs.DoublePrecision

/-!
# Scaled durations

An observation is compared with a multiple of what is expected, in floating
point.  A duration of less than 53 bits is a double itself, and a multiple of it
by more than one is never rounded below it.  So nothing exceeds such an
expectation without being longer.
-/

namespace SuspicionMonitor

open Float.Model Float.Model.UnpackedFloat

namespace Nanos

open Binary64

variable {observed expected duration : Nanos} {factor : Float}

theorem unpack_toFloat (hpos : 0 < duration.toInt.toNat) (hexact : duration.toInt.toNat < 2 ^ 53) :
    (toFloat duration).toModel.unpack = .finite .positive (scaled duration.toInt.toNat)
      (duration.toInt.toNat.log2 - 52) (fills_scaled hpos hexact).pos := by
  have hnonneg : 0 ≤ duration := by
    rw [Int64.le_iff_toInt_le]
    exact (Int.lt_toNat.mp hpos).le
  have hword : duration.toUInt64.toNat = duration.toInt.toNat := Int64.toNat_toUInt64_of_le hnonneg
  rw [toFloat, if_neg (Int64.not_lt.mpr hnonneg)]
  change (pack (UnpackedFloat.ofNat .binary64 duration.toUInt64.toNat)).unpack = _
  have hlog : duration.toInt.toNat.log2 < 53 := (Nat.log2_lt hpos.ne').mpr hexact
  rw [hword, ofNat_eq hpos hexact, (fills_scaled hpos hexact).unpack_pack (by omega),
    if_pos (by omega)]

theorem hasSign_toFloat (hnegative : duration < 0) :
    HasSign .negative (toFloat duration).toModel.unpack := by
  rw [toFloat, if_pos hnegative]
  exact (hasSign_ofNat _).unpack_pack.neg.unpack_pack

theorem exceeds_iff : observed.exceeds expected factor = true ↔
    UnpackedFloat.compare (toFloat expected * factor).toModel.unpack
      (toFloat observed).toModel.unpack = some .lt := by
  rw [exceeds, decide_eq_true_eq]
  change Float.lt (toFloat expected * factor) (toFloat observed) = true ↔ _
  rw [Float.lt, decide_eq_true_eq]
  exact beq_iff_eq

/-- What is no longer than expected is not longer than more than that either. -/
theorem not_exceeds_of_le (hle : observed ≤ expected) (hpos : 0 < expected)
    (hexact : expected.toInt < 2 ^ 53) (hfactor : 1.0 < factor) :
    observed.exceeds expected factor = false := by
  rw [Int64.le_iff_toInt_le] at hle
  have hzero : Int64.toInt 0 = 0 := rfl
  rw [Int64.lt_iff_toInt_lt, hzero] at hpos
  have hexpectedPos : 0 < expected.toInt.toNat := by omega
  have hexpectedExact : expected.toInt.toNat < 2 ^ 53 := by omega
  have hexpected := unpack_toFloat hexpectedPos hexpectedExact
  have hproduct : AtLeast (toFloat expected * factor).toModel.unpack
      (scaled expected.toInt.toNat) (expected.toInt.toNat.log2 - 52) := by
    change AtLeast (pack (UnpackedFloat.mul .binary64 (toFloat expected).toModel.unpack
      factor.toModel.unpack)).unpack _ _
    rw [hexpected]
    exact atLeast_mul (fills_scaled hexpectedPos hexpectedExact) (by omega) (atLeast_of_lt hfactor)
  rw [Bool.eq_false_iff, Ne, exceeds_iff]
  rcases lt_trichotomy observed.toInt 0 with hnegative | hnothing | hobserved
  · have hless : observed < 0 := Int64.lt_iff_toInt_lt.mpr hnegative
    exact hproduct.not_lt_negative (hasSign_toFloat hless)
  · obtain rfl : observed = 0 := Int64.toInt_inj.mp hnothing
    exact hproduct.not_lt_zero .positive
  · have hobservedPos : 0 < observed.toInt.toNat := by omega
    have hobservedExact : observed.toInt.toNat < 2 ^ 53 := by omega
    have hshorter : observed.toInt.toNat ≤ expected.toInt.toNat := by omega
    have hlog : observed.toInt.toNat.log2 ≤ expected.toInt.toNat.log2 :=
      (Nat.le_log2 hexpectedPos.ne').mpr ((Nat.log2_self_le hobservedPos.ne').trans hshorter)
    rw [unpack_toFloat hobservedPos hobservedExact]
    refine hproduct.not_lt _ ?_
    rcases hlog.lt_or_eq with hless | hequal
    · left
      omega
    · right
      exact ⟨by omega, scaled_le_scaled hshorter hequal⟩

end Nanos

end SuspicionMonitor
