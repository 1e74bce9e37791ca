import SuspicionMonitor.Bytes
import Mathlib.Tactic

/-!
# Signed words

A word of bytes also stands for a signed number: in the upper half of its range
it is as far below zero as it is away from the end of the range.
-/

namespace SuspicionMonitor

namespace Bytes

/-- The signed number that a word stands for. -/
def toInt (word : Bytes) : Int :=
  if 2 * toNat word < 256 ^ word.length then toNat word else toNat word - 256 ^ word.length

theorem toInt_nonneg_iff (word : Bytes) : 0 ≤ toInt word ↔ 2 * toNat word < 256 ^ word.length := by
  have hlt : (toNat word : Int) < (256 : Int) ^ word.length := by exact_mod_cast toNat_lt word
  unfold toInt
  split <;> omega

theorem toInt_of_nonneg {word : Bytes} (hnonneg : 0 ≤ toInt word) : toInt word = toNat word :=
  if_pos ((toInt_nonneg_iff word).mp hnonneg)

theorem toNat_word32_lt {word : Bytes} (hlength : word.length = 4) : toNat word < 2 ^ 32 := by
  have hlt := toNat_lt word
  rwa [hlength] at hlt

theorem toInt_word32 {word : Bytes} (hlength : word.length = 4) :
    (Int32.ofNat (toNat word)).toInt = toInt word := by
  have hlt := toNat_word32_lt hlength
  rw [Int32.toInt_ofNat', Int.bmod, Int32.size, toInt, hlength]
  split <;> split <;> omega

theorem toUInt32_word32 {word : Bytes} (hlength : word.length = 4) :
    (Int32.ofNat (toNat word)).toUInt32.toNat = toNat word := by
  rw [Int32.toUInt32_ofNat', UInt32.toNat_ofNat']
  exact Nat.mod_eq_of_lt (toNat_word32_lt hlength)

theorem length_field {bytes : Bytes} {start width : Nat} (hend : start + width ≤ bytes.length) :
    (bytes.field start width).length = width := by
  rw [field, List.length_take, List.length_drop]
  omega

/-- A word read from the front of what is left, and the rest. -/
theorem field_append_drop (bytes : Bytes) (start width : Nat) :
    bytes.field start width ++ bytes.drop (start + width) = bytes.drop start := by
  rw [field, ← List.drop_drop, List.take_append_drop]

end Bytes

end SuspicionMonitor
