import SuspicionMonitor.Decimal.Shortest

/-!
# Decimals with fixed places

The exact value of a double rounded to a given number of places; a half goes
to the even neighbour.
-/

namespace SuspicionMonitor

namespace Decimal

-- The powers of the core library, whatever else is in scope.
attribute [local instance (2000)] instPowNat instNatPowNat

def roundHalfEven (numerator denominator : Nat) : Nat :=
  let quotient := numerator / denominator
  let twice := 2 * (numerator % denominator)
  if twice < denominator then quotient
  else if denominator < twice then quotient + 1
  else quotient + quotient % 2

def fixedText (places : Nat) (value : Float) : String :=
  match Binary.ofFloat value with
  | .nan => "NaN"
  | .infinite negative => signText negative ++ "inf"
  | .finite negative mantissa exponent =>
      let (two, twoth) := powerOfTwo exponent
      let count := roundHalfEven (mantissa * two * 10 ^ places) twoth
      let digits := (toString count).toList
      let padded := List.replicate (places + 1 - digits.length) '0' ++ digits
      let whole := padded.take (padded.length - places)
      let fraction := padded.drop (padded.length - places)
      signText negative ++
        String.ofList (if places = 0 then whole else whole ++ '.' :: fraction)

end Decimal

end SuspicionMonitor
