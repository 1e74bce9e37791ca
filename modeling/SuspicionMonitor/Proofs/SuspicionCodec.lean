import SuspicionMonitor.Suspicion
import Mathlib.Tactic

/-!
# Suspicions on the wire

What is read from a suspicion that has been written.  Only the suspect can be
lost: it is read as a signed number, so an id of more than 31 bits comes back
as a negative one and is refused.
-/

namespace SuspicionMonitor

namespace Bytes

theorem field_append {front word back : Bytes} {start width : Nat}
    (hstart : front.length = start) (hwidth : word.length = width) :
    (front ++ (word ++ back)).field start width = word := by
  subst hstart hwidth
  simp [field]

end Bytes

namespace Round

theorem ofNat_toUInt32 (round : Round) : Int32.ofNat round.toUInt32.toNat = round := by
  rw [← UInt32.toInt32_ofNat', UInt32.ofNat_toNat, Int32.toInt32_toUInt32]

end Round

namespace Phase

theorem ofCode_code (phase : Phase) : ofCode phase.code = phase := by
  cases phase <;> decide

end Phase

namespace SuspicionKind

theorem ofCode?_code (kind : SuspicionKind) : ofCode? kind.code = some kind := by
  cases kind <;> decide

end SuspicionKind

namespace Suspicion

theorem length_encode (suspicion : Suspicion) : suspicion.encode.length = wireLength := by
  simp [encode, wireLength]

/-- An id whose highest bit is set is read as a negative number. -/
theorem toInt_ofNat_suspect (suspect : ReplicaId) :
    (Int32.ofNat suspect.toNat).toInt =
      if suspect.toNat < 2 ^ 31 then (suspect.toNat : Int) else suspect.toNat - 2 ^ 32 := by
  have hlt := suspect.toNat_lt
  rw [Int32.toInt_ofNat', Int.bmod, Int32.size]
  split <;> split <;> omega

theorem decode_encode (suspicion : Suspicion) (reporter : ReplicaId) :
    decode suspicion.encode reporter =
      if suspicion.suspect.toNat < 2 ^ 31 then .ok { suspicion with reporter }
      else .error (.negativeSuspect (suspicion.suspect.toNat - 2 ^ 32)) := by
  have hsuspect : suspicion.encode.field 0 4 = Bytes.ofNat 4 suspicion.suspect.toNat := by
    simp [encode, Bytes.field]
  have hkind : suspicion.encode.field 4 4 = Bytes.ofNat 4 suspicion.kind.code.toUInt32.toNat := by
    simp [encode, Bytes.field]
  have hphase : suspicion.encode.field 8 2 = Bytes.ofNat 2 suspicion.phase.code.toNat := by
    rw [encode, List.append_assoc]
    exact Bytes.field_append (by simp) (by simp)
  have hround : suspicion.encode.field 10 4 = Bytes.ofNat 4 suspicion.round.toUInt32.toNat := by
    rw [encode, ← List.append_nil (Bytes.ofNat 4 suspicion.round.toUInt32.toNat)]
    exact Bytes.field_append (by simp) (by simp)
  have hword : ∀ word : UInt32, word.toNat % 256 ^ 4 = word.toNat :=
    fun word => Nat.mod_eq_of_lt word.toNat_lt
  have hhalf : ∀ word : UInt16, word.toNat % 256 ^ 2 = word.toNat :=
    fun word => Nat.mod_eq_of_lt word.toNat_lt
  have hnegative : Int32.ofNat suspicion.suspect.toNat < 0 ↔
      ¬ suspicion.suspect.toNat < 2 ^ 31 := by
    have hlt := suspicion.suspect.toNat_lt
    rw [Int32.lt_iff_toInt_lt, toInt_ofNat_suspect, Int32.toInt_zero]
    split <;> omega
  unfold decode
  simp only [length_encode, hsuspect, hkind, hphase, hround, Bytes.toNat_ofNat, hword, hhalf,
    lt_irrefl, if_false, hnegative, Round.ofNat_toUInt32, SuspicionKind.ofCode?_code,
    UInt16.ofNat_toNat, Phase.ofCode_code, toInt_ofNat_suspect, Int32.toUInt32_ofNat',
    UInt32.ofNat_toNat]
  by_cases hsmall : suspicion.suspect.toNat < 2 ^ 31
  · simp only [hsmall, not_true, if_false, if_true]
  · simp only [hsmall, not_false_iff, if_false, if_true]

end Suspicion
end SuspicionMonitor
