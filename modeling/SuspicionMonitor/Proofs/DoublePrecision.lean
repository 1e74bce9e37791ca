import Mathlib

/-!
# Floating-point numbers of double precision

The logic knows a double as its bits, and computes with it by unpacking them
into a sign, a mantissa and an exponent, by exact arithmetic, rounding and
packing.  Here is what this does to numbers that use all 53 bits of a mantissa:
rounding an exact product leaves such a number, packing keeps it unless it is
too large, and a product with a number above one is not less than the other
factor.  So rounding never takes a product below a factor, nor a sum of one and
a positive number below one.
-/

namespace SuspicionMonitor

open Float.Model Float.Model.UnpackedFloat

namespace Binary64

theorem le_roundedMantissa (extended : ExtendedMantissa) :
    extended.mantissa ≤ extended.roundedMantissa := by
  unfold ExtendedMantissa.roundedMantissa Accuracy.roundToNearestEven
  split <;> omega

theorem roundedMantissa_le (extended : ExtendedMantissa) :
    extended.roundedMantissa ≤ extended.mantissa + 1 := by
  unfold ExtendedMantissa.roundedMantissa Accuracy.roundToNearestEven
  split <;> omega

theorem mantissa_ofMantissaAndAccuracy (mantissa : ℕ) (accuracy : Accuracy) :
    (ExtendedMantissa.ofMantissaAndAccuracy mantissa accuracy).mantissa = mantissa := by
  unfold ExtendedMantissa.ofMantissaAndAccuracy
  split <;> rfl

theorem mantissa_shiftRight (extended : ExtendedMantissa) (places : ℕ) :
    (extended >>> places).mantissa = extended.mantissa / 2 ^ places := by
  change (places.repeat ExtendedMantissa.shiftRightOne extended).mantissa = _
  induction places with
  | zero => simp [Nat.repeat]
  | succ places ih =>
      rw [Nat.repeat, ExtendedMantissa.shiftRightOne, ih, Nat.div_div_eq_div_mul, ← pow_succ]

/-- Whether the mantissa has all 53 bits once that many places are dropped. -/
def Fills (mantissa places : ℕ) : Prop :=
  2 ^ (52 + places) ≤ mantissa ∧ mantissa < 2 ^ (53 + places)

variable {mantissa places : ℕ} {exponent : ℤ} {sign : Sign}

theorem Fills.pos (hfills : Fills mantissa places) : 0 < mantissa :=
  (Nat.two_pow_pos _).trans_le hfills.1

theorem Fills.log2_eq (hfills : Fills mantissa places) : mantissa.log2 = 52 + places := by
  rw [Nat.log2_eq_iff hfills.pos.ne', Nat.add_right_comm]
  exact hfills

theorem Fills.shiftToTargetExponent_eq (hfills : Fills mantissa places)
    (hnormal : -1074 ≤ exponent + places) (accuracy : Accuracy) :
    shiftToTargetExponent .binary64 mantissa exponent accuracy =
      (ExtendedMantissa.ofMantissaAndAccuracy mantissa accuracy >>> places, exponent + places) := by
  have htarget : Format.binary64.targetExponent (totalExponent mantissa exponent) =
      exponent + places := by
    have hbits : (Format.binary64.mantissaBits : ℤ) = 53 := rfl
    have hmin : Format.binary64.minExponent = -1074 := rfl
    rw [Format.targetExponent, totalExponent, hfills.log2_eq, hbits, hmin]
    omega
  have hshift : (exponent + places - exponent).toNat = places := by omega
  rw [shiftToTargetExponent, htarget, shiftToExponent, hshift]

theorem Fills.div (hfills : Fills mantissa places) : Fills (mantissa / 2 ^ places) 0 := by
  refine ⟨(Nat.le_div_iff_mul_le (Nat.two_pow_pos _)).mpr ?_,
    (Nat.div_lt_iff_lt_mul (Nat.two_pow_pos _)).mpr ?_⟩
  · rw [← pow_add]
    exact hfills.1
  · rw [← pow_add]
    exact hfills.2

theorem roundWithAccuracy_eq (sign : Sign) {first second : ExtendedMantissa} {scale final : ℤ}
    {accuracy : Accuracy}
    (hfirst : shiftToTargetExponent .binary64 mantissa exponent accuracy = (first, scale))
    (hsecond : shiftToTargetExponent .binary64 first.roundedMantissa scale .exact = (second, final))
    (hpos : 0 < second.mantissa) :
    roundWithAccuracy .binary64 sign mantissa exponent accuracy =
      .finite sign second.mantissa final hpos := by
  simp only [roundWithAccuracy, hfirst, hsecond, dif_neg hpos.ne']

/-- A number that fills its mantissa is rounded to one that does so, too. -/
theorem Fills.exists_roundWithAccuracy_eq (hfills : Fills mantissa places)
    (hnormal : -1074 ≤ exponent + places) (sign : Sign) :
    ∃ (rounded : ℕ) (scale : ℤ) (hpos : 0 < rounded),
      roundWithAccuracy .binary64 sign mantissa exponent .exact =
        .finite sign rounded scale hpos ∧ Fills rounded 0 ∧
      ((scale = exponent + places ∧ mantissa / 2 ^ places ≤ rounded) ∨
        scale = exponent + places + 1) := by
  let extended := ExtendedMantissa.ofMantissaAndAccuracy mantissa .exact >>> places
  have hquotient : extended.mantissa = mantissa / 2 ^ places := by
    rw [mantissa_shiftRight, mantissa_ofMantissaAndAccuracy]
  have hlower := le_roundedMantissa extended
  have hupper := roundedMantissa_le extended
  obtain ⟨hfirst, hlast⟩ := hfills.div
  rw [hquotient] at hlower hupper
  -- Rounding up may carry into one more bit, which is dropped again.
  obtain ⟨carry, hcarry, hfull⟩ : ∃ carry, (carry = 0 ∨ carry = 1) ∧
      Fills extended.roundedMantissa carry := by
    by_cases hover : extended.roundedMantissa < 2 ^ 53
    · exact ⟨0, Or.inl rfl, by omega, by omega⟩
    · exact ⟨1, Or.inr rfl, by omega, by omega⟩
  have hmantissa : (ExtendedMantissa.ofMantissaAndAccuracy extended.roundedMantissa .exact
      >>> carry).mantissa = extended.roundedMantissa / 2 ^ carry := by
    rw [mantissa_shiftRight, mantissa_ofMantissaAndAccuracy]
  have hrounded := roundWithAccuracy_eq sign (hfills.shiftToTargetExponent_eq hnormal .exact)
    (hfull.shiftToTargetExponent_eq (by omega) .exact) (by rw [hmantissa]; exact hfull.div.pos)
  refine ⟨_, _, _, hrounded, by rw [hmantissa]; exact hfull.div, ?_⟩
  rcases hcarry with rfl | rfl
  · left
    rw [hmantissa, pow_zero, Nat.div_one]
    exact ⟨Int.add_zero _, hlower⟩
  · exact Or.inr rfl

/-- A number that needs no rounding. -/
theorem Fills.roundWithAccuracy_eq_self (hfills : Fills mantissa 0) (hnormal : -1074 ≤ exponent)
    (sign : Sign) :
    roundWithAccuracy .binary64 sign mantissa exponent .exact =
      .finite sign mantissa exponent hfills.pos := by
  have hshift : shiftToTargetExponent .binary64 mantissa exponent .exact =
      (⟨mantissa, false, false⟩, exponent) := by
    rw [hfills.shiftToTargetExponent_eq (by omega), Int.natCast_zero, Int.add_zero]
    rfl
  exact roundWithAccuracy_eq sign hshift hshift hfills.pos

theorem toNat_append (fraction : BitVec 52) :
    (1#1 ++ fraction).toNat = 2 ^ 52 + fraction.toNat := by
  rw [BitVec.toNat_append, ← Nat.shiftLeft_add_eq_or_of_lt fraction.isLt, Nat.shiftLeft_eq]
  rfl

theorem fills_append (fraction : BitVec 52) : Fills (1#1 ++ fraction).toNat 0 := by
  have hfraction := fraction.isLt
  rw [toNat_append]
  exact ⟨by omega, by omega⟩

theorem Fills.toNat_append (hfills : Fills mantissa 0) :
    (1#1 ++ BitVec.ofNat 52 mantissa).toNat = mantissa := by
  have hlower := hfills.1
  have hupper := hfills.2
  rw [Binary64.toNat_append, BitVec.toNat_ofNat]
  omega

theorem Fills.pack_eq (hfills : Fills mantissa 0) (sign : Sign) :
    UnpackedFloat.pack .binary64 (.finite sign mantissa exponent hfills.pos) =
      if exponent < 972 then
        packComponents .binary64 sign (BitVec.ofNat 11 (exponent + 1075).toNat)
          (BitVec.ofNat 52 mantissa)
      else packedInfinity .binary64 sign := by
  have hbiased : exponent + Format.binary64.exponentBias +
      Format.binary64.mantissaBitsWithoutImplicit = exponent + 1075 := by
    change exponent + 1023 + 52 = exponent + 1075
    omega
  have hbits : mantissa.log2 + 1 = Format.binary64.mantissaBits := by
    rw [hfills.log2_eq]
    rfl
  have hrange : 2 ^ Format.binary64.exponentBits ≤ (exponent + 1075).toNat + 1 ↔
      ¬exponent < 972 := by
    change 2048 ≤ (exponent + 1075).toNat + 1 ↔ ¬exponent < 972
    omega
  rw [UnpackedFloat.pack, hbiased, if_pos hbits]
  simp only [hrange, ite_not]

theorem unpack_packedInfinity (sign : Sign) :
    UnpackedFloat.unpack .binary64 (packedInfinity .binary64 sign) = .infinity sign := by
  simp [UnpackedFloat.unpack, packedInfinity]

/-- Packing keeps a number that is not too large. -/
theorem Fills.unpack_pack (hfills : Fills mantissa 0) (hnormal : -1074 ≤ exponent)
    (sign : Sign) :
    (pack (.finite sign mantissa exponent hfills.pos)).unpack =
      if exponent < 972 then .finite sign mantissa exponent hfills.pos else .infinity sign := by
  have hunpack : (pack (.finite sign mantissa exponent hfills.pos)).unpack =
      UnpackedFloat.unpack .binary64
        (UnpackedFloat.pack .binary64 (.finite sign mantissa exponent hfills.pos)) := rfl
  rw [hunpack, hfills.pack_eq]
  split
  · have hbiased : (BitVec.ofNat 11 (exponent + 1075).toNat).toNat = (exponent + 1075).toNat := by
      rw [BitVec.toNat_ofNat]
      omega
    have hinfinite : BitVec.ofNat 11 (exponent + 1075).toNat ≠ -1#11 := by
      rw [← BitVec.toNat_inj.ne, hbiased]
      change (exponent + 1075).toNat ≠ 2047
      omega
    have hsubnormal : BitVec.ofNat 11 (exponent + 1075).toNat ≠ 0#11 := by
      rw [← BitVec.toNat_inj.ne, hbiased]
      change (exponent + 1075).toNat ≠ 0
      omega
    have hscale : ((exponent + 1075).toNat : ℤ) - (Format.binary64.exponentBias + (52 : ℕ)) =
        exponent := by
      change ((exponent + 1075).toNat : ℤ) - (1023 + 52) = exponent
      omega
    simp only [UnpackedFloat.unpack, unpackExponent_packComponents, unpackMantissa_packComponents,
      unpackSign_packComponents, Sign.ofBitVec_toBitVec, if_neg hinfinite, if_neg hsubnormal,
      hfills.toNat_append, hbiased, hscale]
  · exact unpack_packedInfinity sign

/-- Whether the number has that sign; zeros and infinities have one, too. -/
def HasSign (sign : Sign) : UnpackedFloat → Prop
  | .infinity own => own = sign
  | .notANumber => False
  | .zero own => own = sign
  | .finite own _ _ _ => own = sign

variable {number : UnpackedFloat}

theorem hasSign_unpack_packComponents (sign : Sign) {biased : BitVec 11} (fraction : BitVec 52)
    (hinfinite : biased ≠ -1#11) :
    HasSign sign (UnpackedFloat.unpack .binary64 (packComponents .binary64 sign biased fraction)) := by
  simp only [UnpackedFloat.unpack, unpackExponent_packComponents, unpackMantissa_packComponents,
    unpackSign_packComponents, Sign.ofBitVec_toBitVec, if_neg hinfinite]
  split
  · split <;> rfl
  · rfl

theorem HasSign.unpack_pack (hsign : HasSign sign number) : HasSign sign (pack number).unpack := by
  change HasSign sign (UnpackedFloat.unpack .binary64 (UnpackedFloat.pack .binary64 number))
  cases number with
  | notANumber => exact hsign.elim
  | infinity own =>
      rw [UnpackedFloat.pack, unpack_packedInfinity]
      exact hsign
  | zero own =>
      obtain rfl : own = sign := hsign
      exact hasSign_unpack_packComponents own _ (by decide)
  | finite own mantissa exponent hpos =>
      obtain rfl : own = sign := hsign
      simp only [UnpackedFloat.pack]
      split
      · rw [unpack_packedInfinity]
        rfl
      next hrange =>
        split
        · refine hasSign_unpack_packComponents own _ ?_
          rw [← BitVec.toNat_inj.ne, BitVec.toNat_ofNat]
          change _ ≠ 2047
          change ¬2048 ≤ _ at hrange
          omega
        · exact hasSign_unpack_packComponents own _ (by decide)

theorem HasSign.neg (hsign : HasSign .positive number) : HasSign .negative number.neg := by
  cases number with
  | notANumber => exact hsign
  | infinity own | zero own | finite own mantissa exponent hpos =>
      exact congrArg (- ·) hsign

theorem hasSign_roundWithAccuracy (sign : Sign) (mantissa : ℕ) (exponent : ℤ)
    (accuracy : Accuracy) :
    HasSign sign (roundWithAccuracy .binary64 sign mantissa exponent accuracy) := by
  unfold roundWithAccuracy
  dsimp only
  split <;> rfl

theorem hasSign_ofNat (count : ℕ) : HasSign .positive (UnpackedFloat.ofNat .binary64 count) := by
  unfold UnpackedFloat.ofNat UnpackedFloat.ofInt UnpackedFloat.normalize
  split
  next hnegative =>
    rw [Int.compare_eq_lt] at hnegative
    omega
  · rfl
  · exact hasSign_roundWithAccuracy _ _ _ _

/-- The leading 53 bits of a count that has no more. -/
def scaled (count : ℕ) : ℕ := count * 2 ^ (52 - count.log2)

theorem fills_scaled {count : ℕ} (hpos : 0 < count) (hexact : count < 2 ^ 53) :
    Fills (scaled count) 0 := by
  have hlog : count.log2 < 53 := (Nat.log2_lt hpos.ne').mpr hexact
  have hsplit : count.log2 + (52 - count.log2) = 52 := by omega
  constructor
  · calc 2 ^ (52 + 0) = 2 ^ count.log2 * 2 ^ (52 - count.log2) := by rw [← pow_add, hsplit]
      _ ≤ scaled count := Nat.mul_le_mul_right _ (Nat.log2_self_le hpos.ne')
  · calc scaled count < 2 ^ (count.log2 + 1) * 2 ^ (52 - count.log2) :=
          Nat.mul_lt_mul_of_pos_right Nat.lt_log2_self (Nat.two_pow_pos _)
      _ = 2 ^ (53 + 0) := by rw [← pow_add, Nat.add_right_comm, hsplit]

theorem scaled_le_scaled {first second : ℕ} (hle : first ≤ second)
    (hlog : first.log2 = second.log2) : scaled first ≤ scaled second := by
  rw [scaled, scaled, hlog]
  exact Nat.mul_le_mul_right _ hle

theorem ofNat_eq {count : ℕ} (hpos : 0 < count) (hexact : count < 2 ^ 53) :
    UnpackedFloat.ofNat .binary64 count =
      .finite .positive (scaled count) (count.log2 - 52) (fills_scaled hpos hexact).pos := by
  have hlog : count.log2 < 53 := (Nat.log2_lt hpos.ne').mpr hexact
  have htarget : Format.binary64.targetExponent (totalExponent count 0) = count.log2 - 52 := by
    change max ((count.log2 + 1 + 0 : ℤ) - 53) (-1074) = _
    omega
  have hdecrease : decreaseExponent count 0 (count.log2 - 52) =
      (scaled count, (count.log2 - 52 : ℤ)) := by
    have hshift : (0 - (count.log2 - 52 : ℤ)).toNat = 52 - count.log2 := by omega
    simp only [decreaseExponent, hshift, Nat.shiftLeft_eq, Prod.mk.injEq]
    exact ⟨rfl, by omega⟩
  have hcompare : compare (count : ℤ) 0 = .gt := Int.compare_eq_gt.mpr (by omega)
  unfold UnpackedFloat.ofNat UnpackedFloat.ofInt UnpackedFloat.normalize
  simp only [hcompare, UnpackedFloat.round, Int.toNat_natCast, htarget, hdecrease]
  exact (fills_scaled hpos hexact).roundWithAccuracy_eq_self (by omega) .positive

/-! ## Order -/

theorem compare_finite_eq_lt_iff {first second : ℕ} {lower upper : ℤ} (hfirst : 0 < first)
    (hsecond : 0 < second) :
    UnpackedFloat.compare (.finite .positive first lower hfirst)
        (.finite .positive second upper hsecond) = some .lt ↔
      lower < upper ∨ lower = upper ∧ first < second := by
  change some ((compare lower upper).then (compare first second)) = some .lt ↔ _
  rw [Option.some_inj, Ordering.then_eq_lt, Int.compare_eq_lt, Int.compare_eq_eq,
    Nat.compare_eq_lt]

/-- Whether the number is at least the positive `mantissa * 2 ^ exponent`. -/
def AtLeast (number : UnpackedFloat) (mantissa : ℕ) (exponent : ℤ) : Prop :=
  number = .infinity .positive ∨
    ∃ (own : ℕ) (scale : ℤ) (hpos : 0 < own), number = .finite .positive own scale hpos ∧
      (exponent < scale ∨ exponent = scale ∧ mantissa ≤ own)

theorem AtLeast.not_lt (hleast : AtLeast number mantissa exponent) {own : ℕ} {scale : ℤ}
    (hpos : 0 < own) (hle : scale < exponent ∨ scale = exponent ∧ own ≤ mantissa) :
    UnpackedFloat.compare number (.finite .positive own scale hpos) ≠ some .lt := by
  rcases hleast with rfl | ⟨larger, upper, hlarger, rfl, hupper⟩
  · exact nofun
  · rw [Ne, compare_finite_eq_lt_iff]
    omega

theorem AtLeast.not_lt_zero (hleast : AtLeast number mantissa exponent) (sign : Sign) :
    UnpackedFloat.compare number (.zero sign) ≠ some .lt := by
  rcases hleast with rfl | ⟨larger, upper, hlarger, rfl, -⟩ <;> exact nofun

theorem AtLeast.not_lt_negative (hleast : AtLeast number mantissa exponent) {other : UnpackedFloat}
    (hnegative : HasSign .negative other) : UnpackedFloat.compare number other ≠ some .lt := by
  rcases hleast with rfl | ⟨larger, upper, hlarger, rfl, -⟩ <;>
    cases other with
    | notANumber => exact hnegative.elim
    | infinity own | zero own | finite own _ _ _ =>
        obtain rfl : own = .negative := hnegative
        exact nofun

/-- All bits of a mantissa are in use unless the exponent is the least one. -/
theorem fills_of_unpack_eq {float : Float.Model} {hpos : 0 < mantissa}
    (hunpack : float.unpack = .finite sign mantissa exponent hpos) (hnormal : -1074 < exponent) :
    Fills mantissa 0 := by
  rw [Float.Model.unpack] at hunpack
  simp only [UnpackedFloat.unpack] at hunpack
  split at hunpack
  · split at hunpack <;> contradiction
  · split at hunpack
    next hbiased =>
      split at hunpack
      · contradiction
      · have hexponent := (UnpackedFloat.finite.inj hunpack).2.2
        rw [hbiased] at hexponent
        change (0 : ℤ) - (1023 + 52) + 1 = exponent at hexponent
        omega
    · rw [← (UnpackedFloat.finite.inj hunpack).2.1]
      exact fills_append _

theorem unpack_one : (Float.toModel 1.0).unpack = .finite .positive (2 ^ 52) (-52) (by decide) :=
  rfl

theorem atLeast_of_lt {factor : Float} (hfactor : 1.0 < factor) :
    AtLeast factor.toModel.unpack (2 ^ 52) (-52) := by
  have hcompare : UnpackedFloat.compare (Float.toModel 1.0).unpack factor.toModel.unpack =
      some .lt := by
    have hlt : Float.lt 1.0 factor = true := hfactor
    rw [Float.lt, decide_eq_true_eq] at hlt
    exact beq_iff_eq.mp hlt
  rw [unpack_one] at hcompare
  cases hunpack : factor.toModel.unpack with
  | notANumber => simp [hunpack, UnpackedFloat.compare] at hcompare
  | zero own => simp [hunpack, UnpackedFloat.compare] at hcompare
  | infinity own =>
      cases own with
      | negative => simp [hunpack, UnpackedFloat.compare] at hcompare
      | positive => exact Or.inl rfl
  | finite own mantissa exponent hpos =>
      cases own with
      | negative => simp [hunpack, UnpackedFloat.compare] at hcompare
      | positive =>
          rw [hunpack, compare_finite_eq_lt_iff] at hcompare
          exact Or.inr ⟨mantissa, exponent, hpos, rfl, hcompare.imp_right fun h => ⟨h.1, h.2.le⟩⟩

/-- A product with a number that is at least one is at least the other factor. -/
theorem atLeast_mul (hfills : Fills mantissa 0) (hnormal : -1074 ≤ exponent) {factor : Float.Model}
    (hfactor : AtLeast factor.unpack (2 ^ 52) (-52)) :
    AtLeast (pack (UnpackedFloat.mul .binary64
      (.finite .positive mantissa exponent hfills.pos) factor.unpack)).unpack mantissa exponent := by
  rcases hfactor with hinfinite | ⟨larger, upper, hpos, hfinite, hlarger⟩
  · left
    rw [hinfinite]
    exact unpack_packedInfinity .positive
  · have hlargerFills : Fills larger 0 := fills_of_unpack_eq hfinite (by omega)
    obtain ⟨hfirst, hlast⟩ := hfills
    obtain ⟨hlargerFirst, hlargerLast⟩ := hlargerFills
    have hproduct : 2 ^ 52 * 2 ^ 52 ≤ mantissa * larger := Nat.mul_le_mul hfirst hlargerFirst
    have hproductLast : mantissa * larger < 2 ^ 53 * 2 ^ 53 := Nat.mul_lt_mul'' hlast hlargerLast
    have hmonotone : mantissa ≤ mantissa * larger / 2 ^ 52 :=
      (Nat.le_div_iff_mul_le (Nat.two_pow_pos _)).mpr (Nat.mul_le_mul_left _ hlargerFirst)
    obtain ⟨places, hplaces, hproductFills⟩ : ∃ places, (places = 52 ∨ places = 53) ∧
        Fills (mantissa * larger) places := by
      by_cases hshort : mantissa * larger < 2 ^ 105
      · exact ⟨52, Or.inl rfl, by omega, by omega⟩
      · exact ⟨53, Or.inr rfl, by omega, by omega⟩
    have hproductNormal : -1074 ≤ exponent + upper + places := by omega
    obtain ⟨rounded, scale, hroundedPos, hrounded, hroundedFills, hscale⟩ :=
      hproductFills.exists_roundWithAccuracy_eq hproductNormal .positive
    rw [hfinite]
    change AtLeast (pack (UnpackedFloat.roundWithAccuracy .binary64 .positive (mantissa * larger)
      (exponent + upper) .exact)).unpack mantissa exponent
    rw [hrounded, hroundedFills.unpack_pack (by omega)]
    split
    · refine Or.inr ⟨rounded, scale, hroundedPos, rfl, ?_⟩
      rcases hplaces with rfl | rfl <;> omega
    · exact Or.inl rfl

/-! ## Sums -/

theorem exists_fills (hlarge : 2 ^ (52 + places) ≤ mantissa) :
    ∃ more, Fills mantissa (places + more) := by
  have hpos : mantissa ≠ 0 := ((Nat.two_pow_pos _).trans_le hlarge).ne'
  have hlog : 52 + places ≤ mantissa.log2 := (Nat.le_log2 hpos).mpr hlarge
  have hmore : 52 + (places + (mantissa.log2 - (52 + places))) = mantissa.log2 := by omega
  refine ⟨mantissa.log2 - (52 + places), ?_, ?_⟩
  · rw [hmore]
    exact Nat.log2_self_le hpos
  · rw [Nat.add_right_comm 52 1, hmore]
    exact Nat.lt_log2_self

/-- A positive number that fills its mantissa is rounded as it is. -/
theorem Fills.normalize_eq (hfills : Fills mantissa places) (exponent : ℤ) (sign : Sign) :
    UnpackedFloat.normalize .binary64 mantissa exponent sign =
      roundWithAccuracy .binary64 .positive mantissa exponent .exact := by
  have hcompare : compare (mantissa : ℤ) 0 = .gt :=
    Int.compare_eq_gt.mpr (Int.natCast_pos.mpr hfills.pos)
  have htarget : exponent ≤ Format.binary64.targetExponent (totalExponent mantissa exponent) := by
    have hbits : (Format.binary64.mantissaBits : ℤ) = 53 := rfl
    rw [Format.targetExponent, totalExponent, hfills.log2_eq, hbits]
    omega
  have hdecrease : decreaseExponent mantissa exponent
      (Format.binary64.targetExponent (totalExponent mantissa exponent)) =
        (mantissa, exponent) := by
    rw [decreaseExponent, Int.toNat_eq_zero.mpr (Int.sub_nonpos_of_le htarget)]
    exact Prod.ext rfl (Int.sub_zero _)
  simp only [UnpackedFloat.normalize, hcompare, Int.toNat_natCast, UnpackedFloat.round, hdecrease]

/-- A sum of one and a positive number is at least one. -/
theorem atLeast_add_one (hpos : 0 < mantissa) (exponent : ℤ) :
    AtLeast (pack (UnpackedFloat.add .binary64 (.finite .positive mantissa exponent hpos)
      (Float.toModel 1.0).unpack)).unpack (2 ^ 52) (-52) := by
  -- Both are brought to the smaller exponent, where one has `52 + places` zeros.
  obtain ⟨places, hplaces⟩ : ∃ places : ℕ, min exponent (-52) = -52 - places :=
    ⟨(-52 - exponent).toNat, by omega⟩
  let total := mantissa * 2 ^ (exponent - (-52 - places)).toNat + 2 ^ (52 + places)
  obtain ⟨more, hfills⟩ : ∃ more, Fills total (places + more) :=
    exists_fills (Nat.le_add_left _ _)
  have hadd : UnpackedFloat.add .binary64 (.finite .positive mantissa exponent hpos)
      (Float.toModel 1.0).unpack =
        UnpackedFloat.normalize .binary64 total (-52 - places) .positive := by
    have hone : (-52 - (-52 - (places : ℤ))).toNat = places := by omega
    simp only [unpack_one, UnpackedFloat.add, hplaces, decreaseExponent, Sign.apply,
      Nat.shiftLeft_eq, hone, ← pow_add]
    rfl
  have hnormal : -1074 ≤ (-52 - places : ℤ) + (places + more : ℕ) := by omega
  obtain ⟨rounded, scale, hroundedPos, hrounded, hroundedFills, hscale⟩ :=
    hfills.exists_roundWithAccuracy_eq hnormal .positive
  rw [hadd, hfills.normalize_eq, hrounded, hroundedFills.unpack_pack (by omega)]
  split
  · have hfirst := hroundedFills.1
    exact Or.inr ⟨rounded, scale, hroundedPos, rfl, by omega⟩
  · exact Or.inl rfl

theorem pos_iff {weight : Float} :
    0.0 < weight ↔ weight.toModel.unpack = .infinity .positive ∨
      ∃ (mantissa : ℕ) (exponent : ℤ) (hpos : 0 < mantissa),
        weight.toModel.unpack = .finite .positive mantissa exponent hpos := by
  have hcompare : 0.0 < weight ↔
      UnpackedFloat.compare (.zero .positive) weight.toModel.unpack = some .lt := by
    change Float.lt 0.0 weight = true ↔ _
    rw [Float.lt, decide_eq_true_eq]
    exact beq_iff_eq
  rw [hcompare]
  cases weight.toModel.unpack with
  | notANumber | zero own => simp [UnpackedFloat.compare]
  | infinity own => cases own <;> simp [UnpackedFloat.compare]
  | finite own mantissa exponent hpos => cases own <;> simp [UnpackedFloat.compare, hpos]

theorem pos_of_atLeast {weight : Float} (hleast : AtLeast weight.toModel.unpack mantissa exponent) :
    0.0 < weight := by
  rw [pos_iff]
  rcases hleast with hinfinite | ⟨own, scale, hpos, hfinite, -⟩
  · exact Or.inl hinfinite
  · exact Or.inr ⟨own, scale, hpos, hfinite⟩

/-- Adding one to a positive number leaves it positive, also to one that is
too large to change. -/
theorem add_one_pos {weight : Float} (hweight : 0.0 < weight) : 0.0 < weight + 1.0 := by
  have hsum : AtLeast (weight + 1.0).toModel.unpack (2 ^ 52) (-52) := by
    change AtLeast (pack (UnpackedFloat.add .binary64 weight.toModel.unpack
      (Float.toModel 1.0).unpack)).unpack _ _
    rcases pos_iff.mp hweight with hinfinite | ⟨mantissa, exponent, hpos, hfinite⟩
    · rw [hinfinite]
      exact Or.inl (unpack_packedInfinity .positive)
    · rw [hfinite]
      exact atLeast_add_one hpos exponent
  exact pos_of_atLeast hsum

theorem zero_add_one_pos : (0.0 : Float) < 0.0 + 1.0 := by decide

end Binary64

end SuspicionMonitor
