/-!
# Options on a command line

Options begin with two dashes.  A value follows as the next word, or in the
same word behind an equals sign; the next word is no value if it begins with a
dash, unless it is a dash alone.
-/

namespace SuspicionMonitor

/-- The options that are known at some place. -/
structure OptionNames where
  flags : List String
  valued : List String

/-- The options given, by name; flags have an empty value. -/
abbrev GivenOptions := List (String × String)

namespace OptionNames

/-- The name in front of the first equals sign, and what is behind it. -/
def splitAtEquals (word : List Char) : String × Option String :=
  let name := word.takeWhile (· != '=')
  (String.ofList name,
    (word.drop name.length).tail?.map String.ofList)

def looksLikeOption (word : String) : Bool := word.startsWith "-" && word != "-"

/-- Adds an option, unless it was given before. -/
def give (name value : String) (given : GivenOptions) : Option GivenOptions :=
  if given.any (·.1 == name) then none else some (given ++ [(name, value)])

/-- Takes the options off the front of the words.  Two dashes alone are no
option. -/
def takeOptions (names : OptionNames) (given : GivenOptions) :
    List String → Option (GivenOptions × List String)
  | [] => some (given, [])
  | word :: rest =>
      if word = "--" || !looksLikeOption word then
        some (given, word :: rest)
      else if !word.startsWith "--" then
        none
      else
        match splitAtEquals (word.toList.drop 2) with
        | (name, some value) =>
            if names.valued.contains name then do
              names.takeOptions (← give name value given) rest
            else
              none
        | (name, none) =>
            if names.flags.contains name then do
              names.takeOptions (← give name "" given) rest
            else if names.valued.contains name then
              match rest with
              | [] => none
              | value :: rest =>
                  if looksLikeOption value then
                    none
                  else do
                    names.takeOptions (← give name value given) rest
            else
              none

end OptionNames

namespace GivenOptions

def value? (given : GivenOptions) (name : String) : Option String :=
  (given.find? (·.1 == name)).map Prod.snd

/-- The value of an option, or what holds without it; a value that cannot be
read is refused. -/
def read? {α : Type} (given : GivenOptions) (name : String) (read : List Char → Option α)
    (otherwise : α) : Option α :=
  match given.value? name with
  | none => some otherwise
  | some value => read value.toList

end GivenOptions

end SuspicionMonitor
