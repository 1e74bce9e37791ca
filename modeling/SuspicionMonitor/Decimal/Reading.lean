import SuspicionMonitor.Decimal.Binary

/-!
# Reading decimals

The double nearest to a decimal.
-/

namespace SuspicionMonitor

namespace Decimal

/-- Decimals at least as large as this power of ten are infinite. -/
def overflowPlace : Int := 310

/-- Decimals below this power of ten are zero. -/
def underflowPlace : Int := -330

/-- The double nearest to `digits * 10 ^ exponent`. -/
def magnitude (digits : Nat) (exponent : Int) : Float :=
  let top := exponent + (toString digits).length
  if digits = 0 || top < underflowPlace then 0.0
  else if overflowPlace < top then 1.0 / 0.0
  else Float.ofScientific digits (exponent < 0) exponent.natAbs

def toFloat (negative : Bool) (digits : Nat) (exponent : Int) : Float :=
  if negative then -magnitude digits exponent else magnitude digits exponent

/-- The number that a list of decimal digits stands for. -/
def digitsValue (digits : List Char) : Nat :=
  digits.foldl (fun value digit => value * 10 + (digit.toNat - 48)) 0

end Decimal

end SuspicionMonitor
