import SuspicionMonitor.Text.Scanner

/-!
# Quoted TOML strings

Basic strings have escapes, literal ones have none; both may stand on one line
or, with three quotes, on several.  Control characters other than the tab may
not stand in any of them.
-/

namespace SuspicionMonitor

namespace Toml

/-- Whether the character may stand in strings and comments. -/
def isPrintable (c : Char) : Bool := c = '\t' || (31 < c.toNat && c.toNat != 127)

def acceptLineEnd : Scanner Bool := do
  if ← Scanner.accept '\n' then return true
  else Scanner.acceptWord ['\r', '\n']

def codePoint (digits : Nat) : Scanner Char := do
  let some c := charOfCode? (← Scanner.hexNumber digits) | failure
  return c

/-- The character behind a backslash. -/
def escape : Scanner Char := do
  match ← Scanner.next with
  | 'b' => return '\x08'
  | 't' => return '\x09'
  | 'n' => return '\x0a'
  | 'f' => return '\x0c'
  | 'r' => return '\x0d'
  | 'e' => return '\x1b'
  | '"' => return '"'
  | '\\' => return '\\'
  | 'x' => codePoint 2
  | 'u' => codePoint 4
  | 'U' => codePoint 8
  | _ => failure

/-- The rest of a string on one line behind its opening quote. -/
def singleLine (quote : Char) (escapes : Bool) : (steps : Nat) → Scanner (List Char)
  | 0 => failure
  | steps + 1 => do
      let c ← Scanner.next
      if c = quote then
        return []
      else if escapes && c = '\\' then
        return (← escape) :: (← singleLine quote escapes steps)
      else if isPrintable c then
        return c :: (← singleLine quote escapes steps)
      else
        failure

def skipBlankLines : (steps : Nat) → Scanner Unit
  | 0 => return
  | steps + 1 => do
      let blanks ← Scanner.takeWhile isBlank
      let ended ← acceptLineEnd
      if ended || !blanks.isEmpty then
        skipBlankLines steps

/-- A backslash at the end of a line takes the blanks and line ends after it
away; the result says whether that was the case. -/
def acceptContinuation (steps : Nat) : Scanner Bool := do
  let text ← get
  let _ ← Scanner.takeWhile isBlank
  if ← acceptLineEnd then
    skipBlankLines steps
    return true
  else
    set text
    return false

/-- The rest of a string on several lines.  Up to two quotes may stand in
front of the three closing ones. -/
def multiLine (quote : Char) (escapes : Bool) : (steps : Nat) → Scanner (List Char)
  | 0 => failure
  | steps + 1 => do
      let quotes ← Scanner.takeWhile (· = quote)
      if 3 ≤ quotes.length then
        if quotes.length ≤ 5 then return quotes.drop 3 else failure
      else if !quotes.isEmpty then
        return quotes ++ (← multiLine quote escapes steps)
      else if ← acceptLineEnd then
        return '\n' :: (← multiLine quote escapes steps)
      else
        let c ← Scanner.next
        if escapes && c = '\\' then
          if ← acceptContinuation steps then
            multiLine quote escapes steps
          else
            return (← escape) :: (← multiLine quote escapes steps)
        else if isPrintable c then
          return c :: (← multiLine quote escapes steps)
        else
          failure

/-- A string whose quote comes next. -/
def quoted (quote : Char) (steps : Nat) : Scanner String := do
  let escapes := quote = '"'
  if ← Scanner.acceptWord [quote, quote, quote] then
    let _ ← acceptLineEnd
    return String.ofList (← multiLine quote escapes steps)
  else
    Scanner.expect quote
    return String.ofList (← singleLine quote escapes steps)

end Toml

end SuspicionMonitor
