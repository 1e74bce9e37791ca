import SuspicionMonitor.Decimal.Binary
import SuspicionMonitor.Decimal.Reading
import SuspicionMonitor.Settings.Reading
import SuspicionMonitor.Text.Scanner

/-!
# Free conversions between scalars

Layered settings may come from the environment, where everything is text, so
numbers, truth values and texts are converted into each other.
-/

namespace SuspicionMonitor

namespace Decimal

/-- Decimal digits, with a plus sign or nothing in front. -/
def natural? (text : List Char) : Option Nat :=
  let digits := if text.head? = some '+' then text.drop 1 else text
  if digits.isEmpty || !digits.all Char.isDigit then none else some (digitsValue digits)

def whole? (text : List Char) : Option Int :=
  match text with
  | '-' :: digits =>
      if digits.isEmpty || !digits.all Char.isDigit then none else some (-digitsValue digits)
  | _ => (natural? text).map Int.ofNat

/-- Digits with a point and an exponent, both of which may be missing. -/
def unsignedDecimal : Scanner (Nat × Int) := do
  let whole ← Scanner.takeWhile Char.isDigit
  let fraction ← do
    if ← Scanner.accept '.' then Scanner.takeWhile Char.isDigit else pure []
  if whole.isEmpty && fraction.isEmpty then
    failure
  let hasExponent ← do
    if ← Scanner.accept 'e' then pure true else Scanner.accept 'E'
  let shift : Int ←
    if hasExponent then do
      let minus ← Scanner.accept '-'
      if !minus then
        let _ ← Scanner.accept '+'
      let value : Int := digitsValue (← Scanner.takeWhile1 Char.isDigit)
      pure (if minus then -value else value)
    else
      pure 0
  return (digitsValue (whole ++ fraction), shift - fraction.length)

/-- A decimal, or the name of infinity or of no number, in any case. -/
def float? (text : List Char) : Option Float :=
  let negative := text.head? = some '-'
  let magnitude := if negative || text.head? = some '+' then text.drop 1 else text
  let name := String.ofList (magnitude.map Char.toLower)
  if name = "inf" || name = "infinity" then
    some (if negative then -1.0 / 0.0 else 1.0 / 0.0)
  else if name = "nan" then
    some (0.0 / 0.0)
  else
    (Scanner.readAll? unsignedDecimal magnitude).map fun (digits, exponent) =>
      toFloat negative digits exponent

end Decimal

/-! ## Conversions -/

namespace ScalarRules

/-- The words for yes and no, in any case. -/
def switch? (text : String) : Option Bool :=
  let word := String.ofList (text.toList.map Char.toLower)
  if word = "true" || word = "on" || word = "yes" then some true
  else if word = "false" || word = "off" || word = "no" then some false
  else none

def within (low high value : Int) : Option Int :=
  if low ≤ value && value ≤ high then some value else none

/-- The nearest whole number of 64 bits. -/
def roundedSigned (value : Float) : Int :=
  (Decimal.Binary.ofFloat value).rounded Int64.minValue.toInt Int64.maxValue.toInt

/-- The nearest natural number of 64 bits. -/
def roundedUnsigned (value : Float) : Nat :=
  ((Decimal.Binary.ofFloat value).rounded 0 (UInt64.size - 1)).toNat

def convertedSigned (low high : Int) (data : Data) : Option Int := do
  let value : Int ←
    match data with
    | .integer value => some value
    | .bool value => some (if value then 1 else 0)
    | .float value => some (roundedSigned value)
    | .text text =>
        match switch? text with
        | some value => some (if value then 1 else 0)
        | none => do
            within Int64.minValue.toInt Int64.maxValue.toInt (← Decimal.whole? text.toList)
    | _ => none
  within low high value

def convertedUnsigned (high : Nat) (data : Data) : Option Nat := do
  let value : Nat ←
    match data with
    | .integer value => if value < 0 then none else some value.toNat
    | .bool value => some (if value then 1 else 0)
    | .float value => some (roundedUnsigned value)
    | .text text =>
        match switch? text with
        | some value => some (if value then 1 else 0)
        | none => Decimal.natural? text.toList
    | _ => none
  if value ≤ high then some value else none

def convertedFloat : Data → Option Float
  | .float value => some value
  | .integer value => some (Float.ofInt value)
  | .bool value => some (if value then 1.0 else 0.0)
  | .text text =>
      match switch? text with
      | some value => some (if value then 1.0 else 0.0)
      | none => Decimal.float? text.toList
  | _ => none

/-- The name of a strategy, or a table whose only key is the name. -/
def convertedStrategy : Data → Option CandidateStrategy
  | .table [(name, _)] => CandidateStrategy.ofText? name
  | data => namedStrategy data

/-- Layers convert freely. -/
def layered : ScalarRules where
  signed := convertedSigned
  unsigned := convertedUnsigned
  float := convertedFloat
  strategy := convertedStrategy
  surplusItems := true

end ScalarRules

end SuspicionMonitor
