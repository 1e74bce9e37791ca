/-!
# Reading text from the front

A scanner takes characters off the front of a text, or refuses it.
-/

namespace SuspicionMonitor

abbrev Scanner := StateT (List Char) Option

namespace Scanner

/-- The next character, if there is one. -/
def peek? : Scanner (Option Char) := return (← get).head?

def next : Scanner Char := do
  match ← get with
  | [] => failure
  | c :: rest =>
      set rest
      return c

/-- Takes the character if it comes next; the result says whether it did. -/
def accept (c : Char) : Scanner Bool := do
  match ← get with
  | [] => return false
  | first :: rest =>
      if first = c then
        set rest
        return true
      else
        return false

def expect (c : Char) : Scanner Unit := do
  if ← accept c then return else failure

/-- Takes the characters if they come next. -/
def acceptWord (word : List Char) : Scanner Bool := do
  let text ← get
  if word.isPrefixOf text then
    set (text.drop word.length)
    return true
  else
    return false

def expectWord (word : List Char) : Scanner Unit := do
  if ← acceptWord word then return else failure

def takeWhile (holds : Char → Bool) : Scanner (List Char) := do
  let text ← get
  set (text.dropWhile holds)
  return text.takeWhile holds

def takeWhile1 (holds : Char → Bool) : Scanner (List Char) := do
  let taken ← takeWhile holds
  if taken.isEmpty then failure else return taken

def atEnd : Scanner Bool := return (← get).isEmpty

/-- The result of reading the whole text. -/
def readAll? {α : Type} (scanner : Scanner α) (text : List Char) : Option α :=
  match scanner text with
  | some (value, []) => some value
  | _ => none

end Scanner

def isBlank (c : Char) : Bool := c = ' ' || c = '\t'

/-- A text without the byte order mark that it may begin with. -/
def withoutMark : List Char → List Char
  | '\ufeff' :: rest => rest
  | text => text

/-- The value of a digit up to base sixteen, in either case. -/
def hexValue? (c : Char) : Option Nat :=
  if '0' ≤ c && c ≤ '9' then some (c.toNat - 48)
  else if 'a' ≤ c && c ≤ 'f' then some (c.toNat - 87)
  else if 'A' ≤ c && c ≤ 'F' then some (c.toNat - 55)
  else none

/-- The character with that code, if there is one. -/
def charOfCode? (code : Nat) : Option Char :=
  if code < 0xd800 || (0xdfff < code && code < 0x110000) then some (Char.ofNat code) else none

/-- The number that `count` digits of base sixteen stand for. -/
def Scanner.hexNumber : (count : Nat) → Scanner Nat
  | 0 => return 0
  | count + 1 => do
      let some digit := hexValue? (← Scanner.next) | failure
      return digit * 16 ^ count + (← hexNumber count)

end SuspicionMonitor
