import SuspicionMonitor.Decimal.Binary

/-!
# Shortest decimals

The decimal with the fewest digits among those that read back as a given
double, and of these the nearest one.  It is found on the coarsest grid of
powers of ten that has a point in the interval of reals that round to the
double.  The text is positional: it never has an exponent.
-/

namespace SuspicionMonitor

namespace Decimal

-- The powers of the core library, whatever else is in scope.
attribute [local instance (2000)] instPowNat instNatPowNat

/-- A positive double and the reals that round to it, counted in quarters of
its last binary place.  The ends belong to the interval iff the mantissa is
even. -/
structure RoundingInterval where
  lower : Nat
  value : Nat
  upper : Nat
  exponent : Int
  closed : Bool

/-- The reals that round to `mantissa * 2 ^ exponent`.  Below a power of two
the doubles are twice as dense. -/
def RoundingInterval.of (mantissa : Nat) (exponent : Int) : RoundingInterval where
  lower :=
    if mantissa = 2 ^ fractionBits && leastExponent < exponent then 4 * mantissa - 1
    else 4 * mantissa - 2
  value := 4 * mantissa
  upper := 4 * mantissa + 2
  exponent := exponent - 2
  closed := mantissa % 2 = 0

/-- The multiple of `10 ^ place` nearest to the value, as a count of that
unit, if the interval contains a positive one.  A tie goes up. -/
def RoundingInterval.pointAt? (interval : RoundingInterval) (place : Int) : Option Nat :=
  let (two, twoth) := powerOfTwo interval.exponent
  let (ten, tenth) := powerOfTen place
  let unit := two * tenth
  let grid := ten * twoth
  let inside := fun count =>
    if interval.closed then
      interval.lower * unit ≤ count * grid && count * grid ≤ interval.upper * unit
    else
      interval.lower * unit < count * grid && count * grid < interval.upper * unit
  let below := interval.value * unit / grid
  let rest := interval.value * unit % grid
  let belowInside := 0 < below && inside below
  let aboveInside := inside (below + 1)
  if belowInside && (!aboveInside || 2 * rest < grid) then some below
  else if aboveInside then some (below + 1)
  else none

/-- The first grid with a point, from `place` downwards. -/
def RoundingInterval.search (interval : RoundingInterval) : (grids : Nat) → (place : Int) →
    Nat × Int
  | 0, place => (0, place)
  | grids + 1, place =>
      match interval.pointAt? place with
      | some count => (count, place)
      | none => interval.search grids (place - 1)

/-- No double reaches `10 ^ 309`, and every double has a decimal with a last
place above `10 ^ (-400)` that reads back. -/
def RoundingInterval.shortest (interval : RoundingInterval) : Nat × Int :=
  interval.search 709 309

/-- The digits of `count * 10 ^ place` without an exponent and without
superfluous zeros. -/
def positionalText (count : Nat) (place : Int) : String :=
  let digits := (toString count).toList
  if 0 ≤ place then
    String.ofList (digits ++ List.replicate place.toNat '0')
  else
    let places := (-place).toNat
    let padded := List.replicate (places + 1 - digits.length) '0' ++ digits
    let whole := padded.take (padded.length - places)
    let fraction := padded.drop (padded.length - places)
    let significant := (fraction.reverse.dropWhile (· == '0')).reverse
    if significant.isEmpty then String.ofList whole
    else String.ofList (whole ++ '.' :: significant)

def signText (negative : Bool) : String := if negative then "-" else ""

/-- The shortest decimal that reads back as `value`.  The sign of zero is
kept, and whole numbers have no fraction. -/
def shortestText (value : Float) : String :=
  match Binary.ofFloat value with
  | .nan => "NaN"
  | .infinite negative => signText negative ++ "inf"
  | .finite negative mantissa exponent =>
      if mantissa = 0 then
        signText negative ++ "0"
      else
        let (count, place) := (RoundingInterval.of mantissa exponent).shortest
        signText negative ++ positionalText count place

end Decimal

end SuspicionMonitor
