import SuspicionMonitor.Data.Basic
import SuspicionMonitor.Decimal.Reading
import SuspicionMonitor.Duration
import SuspicionMonitor.Text.Scanner

/-!
# Plain data from JSON text

Numbers without fraction and exponent are integers if they fit 64 bits, signed
or unsigned; all others are floats, and so is minus zero.  Of several entries
with the same key the last one counts.
-/

namespace SuspicionMonitor

namespace Data

def skipJsonBlanks : Scanner Unit := do
  let _ ← Scanner.takeWhile fun c => c = ' ' || c = '\n' || c = '\r' || c = '\t'

def jsonUnicode : Scanner Char := do
  let high ← Scanner.hexNumber 4
  if 0xd800 ≤ high && high < 0xdc00 then
    Scanner.expectWord ['\\', 'u']
    let low ← Scanner.hexNumber 4
    if 0xdc00 ≤ low && low < 0xe000 then
      let some c := charOfCode? (0x10000 + (high - 0xd800) * 1024 + (low - 0xdc00)) | failure
      return c
    else
      failure
  else
    let some c := charOfCode? high | failure
    return c

/-- The character behind a backslash. -/
def jsonEscape : Scanner Char := do
  match ← Scanner.next with
  | '"' => return '"'
  | '\\' => return '\\'
  | '/' => return '/'
  | 'b' => return '\x08'
  | 'f' => return '\x0c'
  | 'n' => return '\x0a'
  | 'r' => return '\x0d'
  | 't' => return '\x09'
  | 'u' => jsonUnicode
  | _ => failure

/-- The rest of a string behind its opening quote, in at most `steps` steps. -/
def jsonString : (steps : Nat) → Scanner (List Char)
  | 0 => failure
  | steps + 1 => do
      match ← Scanner.next with
      | '"' => return []
      | '\\' => return (← jsonEscape) :: (← jsonString steps)
      | c => if c.toNat < 32 then failure else return c :: (← jsonString steps)

def jsonNumber : Scanner Data := do
  let negative ← Scanner.accept '-'
  let whole ← Scanner.takeWhile1 Char.isDigit
  if whole.head? = some '0' && 1 < whole.length then
    failure
  let hasPoint ← Scanner.accept '.'
  let fraction ← if hasPoint then Scanner.takeWhile1 Char.isDigit else pure []
  let hasExponent ← do
    if ← Scanner.accept 'e' then pure true else Scanner.accept 'E'
  let exponent : Int ←
    if hasExponent then do
      let minus ← Scanner.accept '-'
      if !minus then
        let _ ← Scanner.accept '+'
      let value := Decimal.digitsValue (← Scanner.takeWhile1 Char.isDigit)
      pure (if minus then -(value : Int) else value)
    else
      pure 0
  let magnitude := Decimal.digitsValue (whole ++ fraction)
  let value : Int := if negative then -magnitude else magnitude
  let isWhole := !hasPoint && !hasExponent && !(negative && magnitude = 0)
  if isWhole && Int64.minValue.toInt ≤ value && value < UInt64.size then
    return .integer value
  else
    return .float (Decimal.toFloat negative magnitude (exponent - fraction.length))

mutual

/-- The next value, in at most `steps` steps. -/
def jsonValue : (steps : Nat) → Scanner Data
  | 0 => failure
  | steps + 1 => do
      skipJsonBlanks
      match ← Scanner.peek? with
      | some '"' =>
          Scanner.expect '"'
          return .text (String.ofList (← jsonString steps))
      | some '[' =>
          Scanner.expect '['
          skipJsonBlanks
          if ← Scanner.accept ']' then return .list [] else return .list (← jsonItems steps)
      | some '\x7b' =>
          Scanner.expect '\x7b'
          skipJsonBlanks
          if ← Scanner.accept '\x7d' then return .table []
          else return .table (← jsonEntries steps)
      | some 't' =>
          Scanner.expectWord ['t', 'r', 'u', 'e']
          return .bool true
      | some 'f' =>
          Scanner.expectWord ['f', 'a', 'l', 's', 'e']
          return .bool false
      | some 'n' =>
          Scanner.expectWord ['n', 'u', 'l', 'l']
          return .null
      | _ => jsonNumber

/-- The items up to the closing bracket. -/
def jsonItems : (steps : Nat) → Scanner (List Data)
  | 0 => failure
  | steps + 1 => do
      let item ← jsonValue steps
      skipJsonBlanks
      match ← Scanner.next with
      | ',' => return item :: (← jsonItems steps)
      | ']' => return [item]
      | _ => failure

/-- The entries up to the closing brace. -/
def jsonEntries : (steps : Nat) → Scanner (List (String × Data))
  | 0 => failure
  | steps + 1 => do
      skipJsonBlanks
      Scanner.expect '"'
      let key := String.ofList (← jsonString steps)
      skipJsonBlanks
      Scanner.expect ':'
      let item ← jsonValue steps
      skipJsonBlanks
      match ← Scanner.next with
      | ',' =>
          let others ← jsonEntries steps
          return if others.any (·.1 == key) then others else (key, item) :: others
      | '\x7d' => return [(key, item)]
      | _ => failure

end

/-- Every step takes a character, so the length of the text bounds them. -/
def ofJson? (text : String) : Option Data :=
  let chars := text.toList
  Scanner.readAll?
    (do
      let data ← jsonValue (chars.length + 1)
      skipJsonBlanks
      return data)
    chars

end Data

end SuspicionMonitor
