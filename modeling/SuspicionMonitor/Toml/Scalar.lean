import SuspicionMonitor.Data.Basic
import SuspicionMonitor.Decimal.Reading
import SuspicionMonitor.Text.Scanner

/-!
# Unquoted TOML values

Booleans, integers, floats, dates and times.
-/

namespace SuspicionMonitor

namespace Toml

/-- Digits, between which single underscores may stand; the result has none. -/
def underscored? (isDigit : Char → Bool) : List Char → Option (List Char)
  | [] => none
  | [c] => if isDigit c then some [c] else none
  | c :: '_' :: rest =>
      if isDigit c then (underscored? isDigit rest).map (c :: ·) else none
  | c :: rest =>
      if isDigit c then (underscored? isDigit rest).map (c :: ·) else none

/-- Decimal digits without a superfluous zero in front. -/
def wholeDigits? (chars : List Char) : Option (List Char) := do
  let digits ← underscored? Char.isDigit chars
  if digits.head? = some '0' && 1 < digits.length then none else some digits

def signed (chars : List Char) : Bool × List Char :=
  match chars with
  | '-' :: rest => (true, rest)
  | '+' :: rest => (false, rest)
  | _ => (false, chars)

def digitsIn? (base : Nat) (chars : List Char) : Option Nat := do
  let digits ← underscored? (fun c => (hexValue? c).any (· < base)) chars
  return digits.foldl (fun value c => value * base + (hexValue? c).getD 0) 0

attribute [local instance (2000)] instPowNat Int.instNatPow in
/-- Integers may not need more than 128 bits. -/
def inRange (value : Int) : Bool := -2 ^ (127 : Nat) ≤ value && value < 2 ^ (128 : Nat)

def integer? (chars : List Char) : Option Int := do
  let value : Int ←
    match chars with
    | '0' :: 'x' :: rest => (digitsIn? 16 rest).map Int.ofNat
    | '0' :: 'o' :: rest => (digitsIn? 8 rest).map Int.ofNat
    | '0' :: 'b' :: rest => (digitsIn? 2 rest).map Int.ofNat
    | _ => do
        let (negative, rest) := signed chars
        let value : Int := Decimal.digitsValue (← wholeDigits? rest)
        pure (if negative then -value else value)
  if inRange value then some value else none

/-- The characters before and after the first one with the property. -/
def splitAt? (holds : Char → Bool) (chars : List Char) : List Char × Option (List Char) :=
  match chars.dropWhile (!holds ·) with
  | [] => (chars, none)
  | _ :: rest => (chars.takeWhile (!holds ·), some rest)

/-- A float has a fraction or an exponent, and is not too large. -/
def float? (chars : List Char) : Option Float := do
  let (negative, rest) := signed chars
  if rest = ['i', 'n', 'f'] then
    return if negative then -1.0 / 0.0 else 1.0 / 0.0
  else if rest = ['n', 'a', 'n'] then
    return 0.0 / 0.0
  else
    let (mantissa, exponent) := splitAt? (fun c => c = 'e' || c = 'E') rest
    let (whole, fraction) := splitAt? (· = '.') mantissa
    let whole ← wholeDigits? whole
    let fractionDigits ← match fraction with
      | none => some []
      | some digits => underscored? Char.isDigit digits
    let shift : Int ← match exponent with
      | none => some 0
      | some chars => do
          let (minus, digits) := signed chars
          let value : Int := Decimal.digitsValue (← underscored? Char.isDigit digits)
          pure (if minus then -value else value)
    if fraction.isNone && exponent.isNone then
      none
    else
      let value := Decimal.toFloat negative (Decimal.digitsValue (whole ++ fractionDigits))
        (shift - fractionDigits.length)
      if value.isFinite then some value else none

/-! ## Dates and times -/

/-- A number of exactly `count` digits within the bounds. -/
def paddedNumber? (count low high : Nat) (chars : List Char) : Option (Nat × List Char) :=
  let digits := chars.take count
  let value := Decimal.digitsValue digits
  if digits.length = count && digits.all Char.isDigit && low ≤ value && value ≤ high then
    some (value, chars.drop count)
  else
    none

def expect? (c : Char) : List Char → Option (List Char)
  | [] => none
  | first :: rest => if first = c then some rest else none

def isLeapYear (year : Nat) : Bool :=
  year % 4 = 0 && (year % 100 != 0 || year % 400 = 0)

def daysOfMonth (year month : Nat) : Nat :=
  if month = 2 then (if isLeapYear year then 29 else 28)
  else if month = 4 || month = 6 || month = 9 || month = 11 then 30
  else 31

/-- What follows a valid date. -/
def afterDate? (chars : List Char) : Option (List Char) := do
  let (year, rest) ← paddedNumber? 4 0 9999 chars
  let (month, rest) ← paddedNumber? 2 1 12 (← expect? '-' rest)
  let (_, rest) ← paddedNumber? 2 1 (daysOfMonth year month) (← expect? '-' rest)
  return rest

/-- What follows a valid time; seconds and their fraction may be left out. -/
def afterTime? (chars : List Char) : Option (List Char) := do
  let (_, rest) ← paddedNumber? 2 0 23 chars
  let (_, rest) ← paddedNumber? 2 0 59 (← expect? ':' rest)
  match rest with
  | ':' :: rest => do
      let (_, rest) ← paddedNumber? 2 0 60 rest
      match rest with
      | '.' :: rest =>
          if (rest.takeWhile Char.isDigit).isEmpty then none
          else some (rest.dropWhile Char.isDigit)
      | _ => return rest
  | _ => return rest

def isOffset (chars : List Char) : Bool :=
  match chars with
  | [] => true
  | ['Z'] => true
  | ['z'] => true
  | sign :: rest =>
      (sign = '+' || sign = '-') &&
        (do
          let (_, rest) ← paddedNumber? 2 0 23 rest
          let (_, rest) ← paddedNumber? 2 0 59 (← expect? ':' rest)
          return rest.isEmpty) = some true

def isDateOrTime (chars : List Char) : Bool :=
  match afterDate? chars with
  | some [] => true
  | some (separator :: rest) =>
      (separator = 'T' || separator = 't' || separator = ' ') &&
        (afterTime? rest).any isOffset
  | none => (afterTime? chars).any List.isEmpty

/-- The value of an unquoted word; `moment` says what a date or a time
becomes. -/
def scalar? (moment : String → Data) (chars : List Char) : Option Data :=
  if chars = ['t', 'r', 'u', 'e'] then some (.bool true)
  else if chars = ['f', 'a', 'l', 's', 'e'] then some (.bool false)
  else
    match integer? chars with
    | some value => some (.integer value)
    | none =>
        match float? chars with
        | some value => some (.float value)
        | none => if isDateOrTime chars then some (moment (String.ofList chars)) else none

end Toml

end SuspicionMonitor
