/-!
# Big-endian words

Numbers on the wire are words of a fixed width, most significant byte first.
`toNat` reads back what `ofNat` writes, modulo the width, and every byte
string is the word of its own value.
-/

namespace SuspicionMonitor

abbrev Bytes := List UInt8

namespace Bytes

-- The powers of the core library, whatever else is in scope.
attribute [local instance (2000)] instPowNat instNatPowNat

/-- The word of `width` bytes that holds `value` modulo `256 ^ width`. -/
def ofNat : (width : Nat) → (value : Nat) → Bytes
  | 0, _ => []
  | width + 1, value => UInt8.ofNat (value / 256 ^ width) :: ofNat width value

def toNat (bytes : Bytes) : Nat :=
  bytes.foldl (fun value byte => value * 256 + byte.toNat) 0

/-- The bytes `[start, start + width)`. -/
def field (bytes : Bytes) (start width : Nat) : Bytes :=
  (bytes.drop start).take width

@[simp] theorem length_ofNat (width value : Nat) :
    (ofNat width value).length = width := by
  induction width with
  | zero => rfl
  | succ width ih => simp [ofNat, ih]

@[simp] theorem toNat_nil : toNat [] = 0 := rfl

theorem foldl_eq_add_toNat (bytes : Bytes) (start : Nat) :
    bytes.foldl (fun value byte => value * 256 + byte.toNat) start =
      start * 256 ^ bytes.length + toNat bytes := by
  induction bytes generalizing start with
  | nil => simp [toNat]
  | cons byte rest ih =>
      rw [toNat, List.foldl_cons, List.foldl_cons, ih, ih, List.length_cons]
      simp only [Nat.pow_succ, Nat.add_mul, Nat.zero_mul, Nat.mul_assoc]
      rw [Nat.mul_comm 256]
      omega

theorem toNat_cons (byte : UInt8) (rest : Bytes) :
    toNat (byte :: rest) = byte.toNat * 256 ^ rest.length + toNat rest := by
  rw [toNat, List.foldl_cons, foldl_eq_add_toNat]
  simp

theorem toNat_lt (bytes : Bytes) : toNat bytes < 256 ^ bytes.length := by
  induction bytes with
  | nil => simp
  | cons byte rest ih =>
      have hbyte := byte.toNat_lt
      rw [toNat_cons, List.length_cons, Nat.pow_succ]
      calc byte.toNat * 256 ^ rest.length + toNat rest
          < byte.toNat * 256 ^ rest.length + 256 ^ rest.length := by omega
        _ = (byte.toNat + 1) * 256 ^ rest.length := by rw [Nat.add_mul]; omega
        _ ≤ 256 * 256 ^ rest.length := Nat.mul_le_mul_right _ (by omega)
        _ = 256 ^ rest.length * 256 := Nat.mul_comm _ _

theorem toNat_ofNat (width value : Nat) :
    toNat (ofNat width value) = value % 256 ^ width := by
  induction width with
  | zero => simp [ofNat, Nat.mod_one]
  | succ width ih =>
      have hbyte : (UInt8.ofNat (value / 256 ^ width)).toNat = value / 256 ^ width % 256 :=
        UInt8.toNat_ofNat'
      rw [ofNat, toNat_cons, ih, length_ofNat, hbyte, Nat.pow_succ,
        Nat.mod_mul (x := value) (a := 256 ^ width) (b := 256), Nat.mul_comm, Nat.add_comm]

theorem ofNat_add_mul (width value high : Nat) :
    ofNat width (high * 256 ^ width + value) = ofNat width value := by
  suffices h : ∀ extra, ofNat width (high * 256 ^ (width + extra) + value) = ofNat width value by
    simpa using h 0
  induction width with
  | zero => simp [ofNat]
  | succ width ih =>
      intro extra
      have htail := ih (extra + 1)
      have hpow : width + 1 + extra = width + (extra + 1) := by omega
      rw [ofNat, ofNat, hpow, htail]
      congr 1
      apply UInt8.toNat_inj.mp
      rw [UInt8.toNat_ofNat', UInt8.toNat_ofNat', Nat.pow_add, Nat.mul_comm (256 ^ width),
        ← Nat.mul_assoc, Nat.add_comm, Nat.add_mul_div_right _ _ (Nat.pow_pos (by decide)),
        Nat.pow_succ, ← Nat.mul_assoc, Nat.add_mul_mod_self_right]

theorem ofNat_toNat (bytes : Bytes) : ofNat bytes.length (toNat bytes) = bytes := by
  induction bytes with
  | nil => rfl
  | cons byte rest ih =>
      rw [List.length_cons, ofNat, toNat_cons, ofNat_add_mul, ih]
      congr 1
      apply UInt8.toNat_inj.mp
      have hrest : toNat rest / 256 ^ rest.length = 0 :=
        Nat.div_eq_of_lt (toNat_lt rest)
      rw [UInt8.toNat_ofNat', Nat.add_comm,
        Nat.add_mul_div_right _ _ (Nat.pow_pos (by decide)), hrest, Nat.zero_add]
      exact Nat.mod_eq_of_lt byte.toNat_lt

end Bytes

end SuspicionMonitor
