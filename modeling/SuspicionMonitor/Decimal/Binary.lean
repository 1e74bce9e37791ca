/-!
# Floating-point numbers as exact values

A finite double is a whole number times a power of two.
-/

namespace SuspicionMonitor

namespace Decimal

-- The powers of the core library, whatever else is in scope.
attribute [local instance (2000)] instPowNat instNatPowNat

/-- The exact value of a double: `± mantissa * 2 ^ exponent` if finite. -/
inductive Binary where
  | nan
  | infinite (negative : Bool)
  | finite (negative : Bool) (mantissa : Nat) (exponent : Int)
  deriving DecidableEq

/-- The number of bits of a mantissa behind its first one. -/
def fractionBits : Nat := 52

/-- The exponent of the smallest double. -/
def leastExponent : Int := -1074

def Binary.ofFloat (value : Float) : Binary :=
  let bits := value.toBits.toNat
  let negative := bits / 2 ^ (63 : Nat) = 1
  let biased : Nat := bits / 2 ^ fractionBits % 2 ^ (11 : Nat)
  let fraction := bits % 2 ^ fractionBits
  if biased = 2047 then
    if fraction = 0 then infinite negative else nan
  else if biased = 0 then
    finite negative fraction leastExponent
  else
    finite negative (2 ^ fractionBits + fraction) (leastExponent + (biased : Int) - 1)

/-- Numerator and denominator of `2 ^ exponent`. -/
def powerOfTwo (exponent : Int) : Nat × Nat :=
  (2 ^ exponent.toNat, 2 ^ (-exponent).toNat)

/-- Numerator and denominator of `10 ^ exponent`. -/
def powerOfTen (exponent : Int) : Nat × Nat :=
  (10 ^ exponent.toNat, 10 ^ (-exponent).toNat)

/-- The nearest whole number between `low` and `high`; a half is rounded away
from zero, and what is no number counts as zero. -/
def Binary.rounded (low high : Int) : Binary → Int
  | nan => 0
  | infinite negative => if negative then low else high
  | finite negative mantissa exponent =>
      let (numerator, denominator) := powerOfTwo exponent
      let magnitude : Int := (2 * (mantissa * numerator) + denominator) / (2 * denominator)
      max low (min high (if negative then -magnitude else magnitude))

end Decimal

end SuspicionMonitor
