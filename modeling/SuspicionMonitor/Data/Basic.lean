/-!
# Plain data

Values as configuration files and messages hold them, before anything is known
about their meaning.
-/

namespace SuspicionMonitor

inductive Data where
  | null
  | bool (value : Bool)
  | integer (value : Int)
  | float (value : Float)
  | text (value : String)
  | list (items : List Data)
  | table (entries : List (String × Data))

namespace Data

/-- The value of the first entry with that key. -/
def find? (entries : List (String × Data)) (key : String) : Option Data :=
  (entries.find? fun entry => entry.1 == key).map Prod.snd

end Data

end SuspicionMonitor
