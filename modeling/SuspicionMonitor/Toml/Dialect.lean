import SuspicionMonitor.Data.Basic

/-!
# Dialects of TOML

Readers agree on what is written in a document, but not on all that may be in
it or on what a date stands for.
-/

namespace SuspicionMonitor

namespace Toml

structure Dialect where
  /-- Whether a dotted key may add to a table that exists only because of the
  headers of tables below it.  Such a table then counts as written by dotted
  keys. -/
  addsToImplied : Bool
  /-- What a date or a time becomes. -/
  moment : (text : String) → Data

/-- Tables and arrays may be nested this deeply within a value, and a key may
have this many parts. -/
def maxDepth : Nat := 80

end Toml

end SuspicionMonitor
