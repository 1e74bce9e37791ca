import SuspicionMonitor.Proofs.ValidSettings
import SuspicionMonitor.Sensor
import Mathlib.Algebra.Order.ToIntervalMod

/-!
# Exempt rounds

The group reconfigures itself once per interval, and the round after it is
exempt from accusations.  A round is exempt if its remainder is the delay plus
one, so the delay must leave that remainder within the interval: then every
interval has one exempt round, wherever it starts and also below zero.
Validation looks at the interval but not at the delay.  Under any other delay no
round at all is exempt; the last delay of an interval is among them, although it
is an offset within the interval.
-/

namespace SuspicionMonitor

namespace Round

/-- The word of an exact result, unless it is out of range. -/
def ofInt? (result : Int) : Option Round :=
  if Int32.minValue.toInt ≤ result ∧ result ≤ Int32.maxValue.toInt then some (Int32.ofInt result)
  else none

/-- Whether the round is among the `length` rounds from `first` on. -/
def IsWithin (round first : Round) (length : Int32) : Prop :=
  first.toInt ≤ round.toInt ∧ round.toInt < first.toInt + length.toInt

theorem ofInt?_toInt (word : Int32) : ofInt? word.toInt = some word := by
  rw [ofInt?, if_pos ⟨word.minValue_le_toInt, word.toInt_le⟩, Int32.ofInt_toInt]

theorem exists_toInt_eq {result : Int} (hlower : Int32.minValue.toInt ≤ result)
    (hupper : result ≤ Int32.maxValue.toInt) : ∃ word : Int32, word.toInt = result := by
  rw [Int32.toInt_minValue] at hlower
  rw [Int32.toInt_maxValue] at hupper
  exact ⟨Int32.ofInt result, Int32.toInt_ofInt_of_le (by omega) (by omega)⟩

end Round

namespace SensorSettings

variable {settings : SensorSettings} {round : Round}

/-- Whether the round is exempt, computed in words, unless that overflows. -/
def exemptsInWords? (settings : SensorSettings) (round : Round) : Option Bool :=
  if 0 < settings.calculationInterval then do
    let remainder ← Round.ofInt? (round.toInt % settings.calculationInterval.toInt)
    let offset ← Round.ofInt? (settings.calculationDelay.toInt + 1)
    return remainder = offset
  else
    some false

/-- Whether the round after the reconfiguration lies in the same interval. -/
def FitsDelay (settings : SensorSettings) : Prop :=
  -1 ≤ settings.calculationDelay.toInt ∧
    settings.calculationDelay.toInt + 1 < settings.calculationInterval.toInt

theorem exempts_iff (hinterval : 0 < settings.calculationInterval) :
    settings.exempts round = true ↔
      round.toInt % settings.calculationInterval.toInt = settings.calculationDelay.toInt + 1 := by
  simp [exempts, hinterval]

theorem not_exempts_of_not_fitsDelay (hfits : ¬settings.FitsDelay) (round : Round) :
    settings.exempts round = false := by
  by_cases hinterval : 0 < settings.calculationInterval
  · rw [Bool.eq_false_iff, Ne, exempts_iff hinterval]
    intro hremainder
    have hpositive : 0 < settings.calculationInterval.toInt := Int32.lt_iff_toInt_lt.mp hinterval
    have hnonneg := round.toInt.emod_nonneg hpositive.ne'
    have hlt := round.toInt.emod_lt_of_pos hpositive
    exact hfits ⟨by omega, by omega⟩
  · simp [exempts, hinterval]

/-- The exempt rounds are those that lie whole intervals away from the first
one. -/
theorem exempts_iff_exists (hinterval : 0 < settings.calculationInterval)
    (hfits : settings.FitsDelay) :
    settings.exempts round = true ↔ ∃ times : Int,
      settings.calculationDelay.toInt + 1 =
        round.toInt + times • settings.calculationInterval.toInt := by
  have hoffset : (settings.calculationDelay.toInt + 1) % settings.calculationInterval.toInt =
      settings.calculationDelay.toInt + 1 :=
    Int.emod_eq_of_lt (by have := hfits.1; omega) hfits.2
  rw [exempts_iff hinterval]
  constructor
  · intro hremainder
    refine ⟨-(round.toInt / settings.calculationInterval.toInt), ?_⟩
    have hsplit := Int.emod_add_mul_ediv round.toInt settings.calculationInterval.toInt
    rw [smul_eq_mul, ← hremainder]
    linarith
  · rintro ⟨times, htimes⟩
    rw [← hoffset, htimes, smul_eq_mul, Int.add_mul_emod_self_right]

/-- An interval of rounds within the range of words has one exempt round. -/
theorem existsUnique_exempts (hinterval : 0 < settings.calculationInterval)
    (hfits : settings.FitsDelay) {first : Round}
    (hend : first.toInt + settings.calculationInterval.toInt ≤ Int32.maxValue.toInt + 1) :
    ∃! round : Round, round.IsWithin first settings.calculationInterval ∧
      settings.exempts round = true := by
  have hpositive : 0 < settings.calculationInterval.toInt := Int32.lt_iff_toInt_lt.mp hinterval
  let member := toIcoMod hpositive first.toInt (settings.calculationDelay.toInt + 1)
  have hmem : member ∈ Set.Ico first.toInt (first.toInt + settings.calculationInterval.toInt) :=
    toIcoMod_mem_Ico hpositive _ _
  have hlower := first.minValue_le_toInt
  obtain ⟨round, hround⟩ : ∃ round : Round, round.toInt = member :=
    Round.exists_toInt_eq (hlower.trans hmem.1) (by have := hmem.2; omega)
  have hexempt (other : Round) (hwithin : other.IsWithin first settings.calculationInterval) :
      settings.exempts other = true ↔ other = round := by
    rw [exempts_iff_exists hinterval hfits, ← Int32.toInt_inj, hround, eq_comm (b := member)]
    exact ⟨fun htimes => (toIcoMod_eq_iff hpositive).mpr ⟨hwithin, htimes⟩,
      fun hsame => ((toIcoMod_eq_iff hpositive).mp hsame).2⟩
  have hwithin : round.IsWithin first settings.calculationInterval := by
    rw [Round.IsWithin, hround]
    exact hmem
  exact ⟨round, ⟨hwithin, (hexempt round hwithin).mpr rfl⟩,
    fun other hother => (hexempt other hother.1).mp hother.2⟩

/-! ## Overflow -/

theorem ofInt?_delay_eq_none_iff (delay : Int32) :
    Round.ofInt? (delay.toInt + 1) = none ↔ delay = Int32.maxValue := by
  have hlower := delay.minValue_le_toInt
  have hupper := delay.toInt_le
  rw [Round.ofInt?, ite_eq_right_iff, ← Int32.toInt_inj]
  simp only [reduceCtorEq, imp_false]
  omega

theorem exemptsInWords?_eq (hinterval : 0 < settings.calculationInterval) (round : Round) :
    settings.exemptsInWords? round =
      (Round.ofInt? (settings.calculationDelay.toInt + 1)).map fun _ => settings.exempts round := by
  have hpositive : 0 < settings.calculationInterval.toInt := Int32.lt_iff_toInt_lt.mp hinterval
  have hnonneg := round.toInt.emod_nonneg hpositive.ne'
  have hlt := round.toInt.emod_lt_of_pos hpositive
  have hmin := Int32.toInt_minValue
  have hupper := settings.calculationInterval.toInt_le
  obtain ⟨remainder, hremainder⟩ : ∃ remainder : Int32,
      remainder.toInt = round.toInt % settings.calculationInterval.toInt :=
    Round.exists_toInt_eq (by omega) (by omega)
  rw [exemptsInWords?, if_pos hinterval, ← hremainder, Round.ofInt?_toInt]
  cases hoffset : Round.ofInt? (settings.calculationDelay.toInt + 1) with
  | none => rfl
  | some offset =>
      have hexact : offset.toInt = settings.calculationDelay.toInt + 1 := by
        unfold Round.ofInt? at hoffset
        split at hoffset
        next hbounds =>
          obtain ⟨word, hword⟩ := Round.exists_toInt_eq hbounds.1 hbounds.2
          rw [← Option.some.inj hoffset, ← hword, Int32.ofInt_toInt]
        · contradiction
      refine congrArg some ?_
      rw [Bool.eq_iff_iff, exempts_iff hinterval, decide_eq_true_eq, ← hexact, ← hremainder,
        Int32.toInt_inj]

end SensorSettings

/-- Under valid settings every interval of rounds has one exempt round, and
looking for it overflows nowhere, exactly if the delay is at least minus one and
less than the last round of the interval.  Under all other delays no round is
exempt, and the test overflows under the greatest delay. -/
theorem Settings.one_exempt_round_per_interval_iff (settings : Settings)
    (hvalid : settings.invalid? = none) :
    (((∀ first : Round,
        first.toInt + settings.sensor.calculationInterval.toInt ≤ Int32.maxValue.toInt + 1 →
          ∃! round : Round, round.IsWithin first settings.sensor.calculationInterval ∧
            settings.sensor.exempts round = true) ∧
        ∀ round, settings.sensor.exemptsInWords? round = some (settings.sensor.exempts round)) ↔
      settings.sensor.FitsDelay) ∧
    (¬settings.sensor.FitsDelay → ∀ round, settings.sensor.exempts round = false) ∧
    ∀ round, settings.sensor.exemptsInWords? round = none ↔
      settings.sensor.calculationDelay = Int32.maxValue := by
  have hinterval := (invalid?_eq_none_iff.mp hvalid).calculationInterval
  have hwords (round : Round) := SensorSettings.exemptsInWords?_eq hinterval round
  have hoverflow (round : Round) : settings.sensor.exemptsInWords? round = none ↔
      settings.sensor.calculationDelay = Int32.maxValue := by
    rw [hwords, Option.map_eq_none_iff, SensorSettings.ofInt?_delay_eq_none_iff]
  refine ⟨⟨fun hone => ?_, fun hfits => ⟨fun first => ?_, fun round => ?_⟩⟩, ?_, hoverflow⟩
  · -- The interval that starts at zero lies within the range and has an exempt round.
    by_contra hfits
    have hend : Int32.toInt 0 + settings.sensor.calculationInterval.toInt ≤
        Int32.maxValue.toInt + 1 := by
      have hupper := settings.sensor.calculationInterval.toInt_le
      have hzero : Int32.toInt 0 = 0 := rfl
      omega
    obtain ⟨round, ⟨-, hexempt⟩, -⟩ := hone.1 0 hend
    rw [SensorSettings.not_exempts_of_not_fitsDelay hfits] at hexempt
    contradiction
  · exact SensorSettings.existsUnique_exempts hinterval hfits
  · have hbelow : settings.sensor.calculationDelay ≠ Int32.maxValue := by
      rintro hgreatest
      have hupper := settings.sensor.calculationInterval.toInt_le
      have hlast := hfits.2
      rw [hgreatest] at hlast
      omega
    obtain ⟨offset, hoffset⟩ := Option.ne_none_iff_exists'.mp
      (mt (SensorSettings.ofInt?_delay_eq_none_iff _).mp hbelow)
    rw [hwords, hoffset]
    rfl
  · exact SensorSettings.not_exempts_of_not_fitsDelay

/-- Standard settings but for the rounds of reconfigurations. -/
def Settings.reconfiguring (interval delay : Int32) : Settings :=
  { Settings.standard with sensor := { SensorSettings.standard with
      calculationInterval := interval
      calculationDelay := delay } }

/-- The last delay that leaves an exempt round in an interval of ten. -/
theorem Settings.one_exempt_round_in_ten :
    (Settings.reconfiguring 10 8).invalid? = none ∧
      ∃! round : Round, round.IsWithin (-25) 10 ∧
        (Settings.reconfiguring 10 8).sensor.exempts round = true := by
  have hvalid : (Settings.reconfiguring 10 8).invalid? = none := by decide +kernel
  have hfits : (Settings.reconfiguring 10 8).sensor.FitsDelay := ⟨by decide, by decide⟩
  exact ⟨hvalid,
    ((one_exempt_round_per_interval_iff _ hvalid).1.mpr hfits).1 (-25) (by decide)⟩

/-- The delay after that still lies within the interval. -/
theorem Settings.no_exempt_round_in_ten :
    (Settings.reconfiguring 10 9).invalid? = none ∧
      ¬∃ round : Round, round.IsWithin 1 10 ∧
        (Settings.reconfiguring 10 9).sensor.exempts round = true := by
  refine ⟨by decide +kernel, ?_⟩
  rintro ⟨round, -, hexempt⟩
  have hfits : ¬(Settings.reconfiguring 10 9).sensor.FitsDelay := fun h => absurd h.2 (by decide)
  rw [SensorSettings.not_exempts_of_not_fitsDelay hfits] at hexempt
  contradiction

end SuspicionMonitor
