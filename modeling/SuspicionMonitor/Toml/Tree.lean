import SuspicionMonitor.Toml.Dialect

/-!
# TOML tables under construction

Tables come into being by their own header, by the header of a table below
them, or by a dotted key, and each of these may be done only once.  Values are
closed: nothing can be added to an array or a table that was written inline.
-/

namespace SuspicionMonitor

namespace Toml

inductive Origin where
  | header
  | implied
  | dotted
  deriving DecidableEq

/-- Whoever holds entries: a closed value, a table, or an array of tables,
of which only the last is open. -/
inductive Node where
  | value (data : Data)
  | table (origin : Origin) (entries : List (String × Node))
  | tables (closed : List (List (String × Node))) (last : List (String × Node))

abbrev Entries := List (String × Node)

namespace Entries

def node? (entries : Entries) (key : String) : Option Node :=
  (List.find? (fun entry => entry.1 == key) entries).map Prod.snd

/-- Replaces the node of a key that is there. -/
def replace (entries : Entries) (key : String) (node : Node) : Entries :=
  entries.map fun entry => if entry.1 == key then (key, node) else entry

def add (entries : Entries) (key : String) (node : Node) : Entries := entries ++ [(key, node)]

/-- Adds a value under a dotted key.  All tables on the path but the last may
have come from headers below them; the last must be the work of dotted keys,
unless the dialect adds to implied tables. -/
def addDotted (addsToImplied : Bool) (key : String) (data : Data) :
    (path : List String) → Entries → Option Entries
  | [], entries =>
      match entries.node? key with
      | none => some (entries.add key (.value data))
      | some _ => none
  | name :: path, entries =>
      match entries.node? name with
      | none => do
          return entries.add name (.table .dotted (← addDotted addsToImplied key data path []))
      | some (.table origin inner) =>
          if origin = .header || (path.isEmpty && origin = .implied && !addsToImplied) then none
          else do
            let origin := if addsToImplied then .dotted else origin
            return entries.replace name
              (.table origin (← addDotted addsToImplied key data path inner))
      | some (.tables closed last) =>
          if path.isEmpty then none
          else do
            return entries.replace name
              (.tables closed (← addDotted addsToImplied key data path last))
      | some (.value _) => none

/-- Adds a value to the table whose header has been read. -/
def addUnder (addsToImplied : Bool) (path : List String) (key : String) (data : Data) :
    (header : List String) → Entries → Option Entries
  | [], entries => addDotted addsToImplied key data path entries
  | name :: header, entries =>
      match entries.node? name with
      | some (.table origin inner) => do
          return entries.replace name
            (.table origin (← addUnder addsToImplied path key data header inner))
      | some (.tables closed last) => do
          return entries.replace name
            (.tables closed (← addUnder addsToImplied path key data header last))
      | _ => none

/-- Opens what a header names, at the end of the path. -/
def openEnd (isElement : Bool) (key : String) (entries : Entries) : Option Entries :=
  match isElement, entries.node? key with
  | false, none => some (entries.add key (.table .header []))
  | false, some (.table .implied inner) => some (entries.replace key (.table .header inner))
  | true, none => some (entries.add key (.tables [] []))
  | true, some (.tables closed last) => some (entries.replace key (.tables (closed ++ [last]) []))
  | _, _ => none

/-- Opens the table of a header, or a new element of an array of tables. -/
def openHeader (isElement : Bool) : (header : List String) → Entries → Option Entries
  | [], _ => none
  | [key], entries => openEnd isElement key entries
  | name :: header, entries =>
      match entries.node? name with
      | none => do
          return entries.add name (.table .implied (← openHeader isElement header []))
      | some (.table origin inner) => do
          return entries.replace name (.table origin (← openHeader isElement header inner))
      | some (.tables closed last) => do
          return entries.replace name (.tables closed (← openHeader isElement header last))
      | some (.value _) => none

end Entries

mutual

def Node.toData : Node → Data
  | .value data => data
  | .table _ entries => .table (entriesData entries)
  | .tables closed last => .list (tablesData closed ++ [.table (entriesData last)])

def entriesData : List (String × Node) → List (String × Data)
  | [] => []
  | (key, node) :: entries => (key, node.toData) :: entriesData entries

def tablesData : List (List (String × Node)) → List Data
  | [] => []
  | entries :: tables => .table (entriesData entries) :: tablesData tables

end

end Toml

end SuspicionMonitor
