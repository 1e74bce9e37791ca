import SuspicionMonitor.Toml.Quoted
import SuspicionMonitor.Toml.Scalar
import SuspicionMonitor.Toml.Tree

/-!
# TOML documents

A document is read line by line into a table of plain data.
-/

namespace SuspicionMonitor

namespace Toml

def isBareKey (c : Char) : Bool :=
  c.isAlphanum || c = '_' || c = '-'

def skipBlanks : Scanner Unit := do
  let _ ← Scanner.takeWhile isBlank

def skipComment : Scanner Unit := do
  if ← Scanner.accept '#' then
    let _ ← Scanner.takeWhile isPrintable

def skipLines : (steps : Nat) → Scanner Unit
  | 0 => return
  | steps + 1 => do
      skipBlanks
      skipComment
      if ← acceptLineEnd then
        skipLines steps

/-- Nothing but blanks and a comment may stand before the end of the line. -/
def endLine : Scanner Unit := do
  skipBlanks
  skipComment
  if ← Scanner.atEnd then
    return
  else if ← acceptLineEnd then
    return
  else
    failure

def simpleKey (steps : Nat) : Scanner String := do
  match ← Scanner.peek? with
  | some '"' =>
      Scanner.expect '"'
      return String.ofList (← singleLine '"' true steps)
  | some '\'' =>
      Scanner.expect '\''
      return String.ofList (← singleLine '\'' false steps)
  | _ => return String.ofList (← Scanner.takeWhile1 isBareKey)

/-- Keys with dots between them, and the blanks around them. -/
def dottedKey : (steps : Nat) → Scanner (List String)
  | 0 => failure
  | steps + 1 => do
      skipBlanks
      let key ← simpleKey steps
      skipBlanks
      if ← Scanner.accept '.' then
        return key :: (← dottedKey steps)
      else
        return [key]

/-- A dotted key that does not have too many parts. -/
def keyPath (steps : Nat) : Scanner (List String) := do
  let path ← dottedKey steps
  if path.length ≤ maxDepth then return path else failure

/-- The path of a dotted key, and its last part. -/
def splitLast : List String → Option (List String × String)
  | [] => none
  | [key] => some ([], key)
  | name :: rest => (splitLast rest).map fun (path, key) => (name :: path, key)

def isWordChar (c : Char) : Bool :=
  !(isBlank c || c = '\n' || c = '\r' || c = ',' || c = '[' || c = ']' || c = '\x7b' ||
    c = '\x7d' || c = '#' || c = '=' || c = '"' || c = '\'')

/-- The word of an unquoted value.  A blank may stand between a date and a
time. -/
def word : Scanner (List Char) := do
  let first ← Scanner.takeWhile1 isWordChar
  match afterDate? first, ← get with
  | some [], ' ' :: c :: _ =>
      if c.isDigit then
        Scanner.expect ' '
        return first ++ ' ' :: (← Scanner.takeWhile isWordChar)
      else
        return first
  | _, _ => return first

/-- One level further down, if there may be one. -/
def deeper : (depth : Nat) → Scanner Nat
  | 0 => failure
  | depth + 1 => return depth

variable (dialect : Dialect)

mutual

/-- A value with at most `depth` levels of arrays and inline tables. -/
def value (depth : Nat) : (steps : Nat) → Scanner Data
  | 0 => failure
  | steps + 1 => do
      match ← Scanner.peek? with
      | some '"' => return .text (← quoted '"' steps)
      | some '\'' => return .text (← quoted '\'' steps)
      | some '[' =>
          Scanner.expect '['
          return .list (← items (← deeper depth) steps)
      | some '\x7b' =>
          Scanner.expect '\x7b'
          return .table (entriesData (← inlineEntries (← deeper depth) [] steps))
      | _ =>
          let some data := scalar? dialect.moment (← word) | failure
          return data

def items (depth : Nat) : (steps : Nat) → Scanner (List Data)
  | 0 => failure
  | steps + 1 => do
      skipLines steps
      if ← Scanner.accept ']' then
        return []
      else
        let item ← value depth steps
        skipLines steps
        if ← Scanner.accept ',' then
          return item :: (← items depth steps)
        else
          Scanner.expect ']'
          return [item]

/-- The entries of an inline table up to its closing brace.  The line may end
anywhere but within a key. -/
def inlineEntries (depth : Nat) (entries : Entries) : (steps : Nat) → Scanner Entries
  | 0 => failure
  | steps + 1 => do
      skipLines steps
      if ← Scanner.accept '\x7d' then
        return entries
      else
        let some (path, key) := splitLast (← keyPath steps) | failure
        skipLines steps
        Scanner.expect '='
        skipLines steps
        let data ← value depth steps
        let some entries := entries.addDotted dialect.addsToImplied key data path | failure
        skipLines steps
        if ← Scanner.accept ',' then
          inlineEntries depth entries steps
        else
          Scanner.expect '\x7d'
          return entries

end

/-- What has been read: all entries, and the header under which the next ones
belong. -/
structure Progress where
  entries : Entries := []
  header : List String := []

def headerLine (progress : Progress) (steps : Nat) : Scanner Progress := do
  let isElement ← Scanner.acceptWord ['[', '[']
  if !isElement then
    Scanner.expect '['
  let header ← keyPath steps
  Scanner.expectWord (if isElement then [']', ']'] else [']'])
  endLine
  let some entries := progress.entries.openHeader isElement header | failure
  return { entries, header }

def entryLine (progress : Progress) (steps : Nat) : Scanner Progress := do
  let some (path, key) := splitLast (← keyPath steps) | failure
  Scanner.expect '='
  skipBlanks
  let data ← value dialect maxDepth steps
  endLine
  let some entries :=
    progress.entries.addUnder dialect.addsToImplied path key data progress.header | failure
  return { progress with entries }

def lines (progress : Progress) : (steps : Nat) → Scanner Entries
  | 0 => failure
  | steps + 1 => do
      skipLines steps
      match ← Scanner.peek? with
      | none => return progress.entries
      | some '[' => lines (← headerLine progress steps) steps
      | some _ => lines (← entryLine dialect progress steps) steps

end Toml

/-- The table of a TOML document.  Every step takes a character, so the length
of the text bounds them.  A byte order mark may come first. -/
def Data.ofToml? (dialect : Toml.Dialect) (text : String) : Option Data :=
  let chars := withoutMark text.toList
  (Scanner.readAll? (Toml.lines dialect {} (chars.length + 2)) chars).map fun entries =>
    .table (Toml.entriesData entries)

end SuspicionMonitor
