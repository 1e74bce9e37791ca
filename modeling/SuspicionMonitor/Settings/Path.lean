import SuspicionMonitor.Data.Basic
import SuspicionMonitor.Text.Scanner

/-!
# Paths into plain data

A path names an entry of a table, an entry of a table below, or an item of a
list.  Setting a value at a path turns whatever is in the way into a table or
a list.
-/

namespace SuspicionMonitor

inductive PathStep where
  | key (name : String)
  | index (position : Int)
  deriving DecidableEq

namespace PathStep

def isNameChar (c : Char) : Bool := c.isAlphanum || c = '_' || c = '-'

def name : Scanner PathStep := do
  return .key (String.ofList (← Scanner.takeWhile1 isNameChar))

/-- The position between brackets, in 64 bits; negative ones count from the
end. -/
def position : Scanner PathStep := do
  let _ ← Scanner.takeWhile isBlank
  let negative ← Scanner.accept '-'
  let digits ← Scanner.takeWhile1 Char.isDigit
  let _ ← Scanner.takeWhile isBlank
  Scanner.expect ']'
  let size : Int := digits.foldl (fun value c => value * 10 + (c.toNat - 48)) 0
  let value := if negative then -size else size
  if Int64.minValue.toInt ≤ value && value ≤ Int64.maxValue.toInt then
    return .index value
  else
    failure

/-- The steps after the first one, in at most `steps` of them. -/
def following : (steps : Nat) → Scanner (List PathStep)
  | 0 => failure
  | steps + 1 => do
      if ← Scanner.atEnd then
        return []
      else if ← Scanner.accept '.' then
        return (← name) :: (← following steps)
      else
        Scanner.expect '['
        return (← position) :: (← following steps)

def parse? (text : String) : Option (List PathStep) :=
  let chars := text.toList
  Scanner.readAll? (do return (← name) :: (← following (chars.length + 1))) chars

attribute [local instance (2000)] instPowNat instNatPowNat in
/-- How far from the ends of a list a position may be. -/
def farthest : Nat := 2 ^ (24 : Nat)

def isNear : PathStep → Bool
  | .key _ => true
  | .index position => position.natAbs ≤ farthest

/-- A key that is no path stands for itself. -/
def ofKey (key : String) : List PathStep := (parse? key).getD [.key key]

end PathStep

namespace Data

/-- Changes the entry of a key; a missing one is null. -/
def changeEntry (entries : List (String × Data)) (key : String) (change : Data → Data) :
    List (String × Data) :=
  if entries.any (·.1 == key) then
    entries.map fun entry => if entry.1 == key then (key, change entry.2) else entry
  else
    entries ++ [(key, change .null)]

/-- Changes the item at a position; nulls fill the gap before it. -/
def changeItem (items : List Data) (position : Int) (change : Data → Data) : List Data :=
  let fromEnd := position + items.length
  if 0 ≤ position then
    (items ++ List.replicate (position.toNat + 1 - items.length) Data.null).modify position.toNat
      change
  else if 0 ≤ fromEnd then
    items.modify fromEnd.toNat change
  else
    (List.replicate (-fromEnd).toNat Data.null ++ items).modify 0 change

def entriesOf : Data → List (String × Data)
  | .table entries => entries
  | _ => []

def itemsOf : Data → List Data
  | .list items => items
  | _ => []

/-- Changes what is at the end of a path. -/
def changeAt (change : Data → Data) : List PathStep → Data → Data
  | [], data => change data
  | .key name :: path, data =>
      .table (changeEntry data.entriesOf name (changeAt change path))
  | .index position :: path, data =>
      .list (changeItem data.itemsOf position (changeAt change path))

mutual

/-- What results from laying the first value over the second: tables are
joined key by key, and any other value replaces. -/
def overlay : (upper : Data) → (lower : Data) → Data
  | .table entries, lower => .table (overlayEntries entries lower.entriesOf)
  | upper, _ => upper

def overlayEntries : (upper lower : List (String × Data)) → List (String × Data)
  | [], lower => lower
  | (key, data) :: rest, lower => overlayEntries rest (changeEntry lower key (overlay data))

end

/-- Lays entries over a value; their keys are paths.  It fails if a list would
get too long. -/
def overlayPaths? (entries : List (String × Data)) (lower : Data) : Option Data :=
  entries.foldlM (fun data (key, upper) =>
    let path := PathStep.ofKey key
    if path.all PathStep.isNear then some (changeAt (overlay upper) path data) else none) lower

end Data

end SuspicionMonitor
