import SuspicionMonitor.Settings.Conversion
import SuspicionMonitor.Settings.Locations
import SuspicionMonitor.Settings.Path
import SuspicionMonitor.Settings.Validation
import SuspicionMonitor.Text.Lowercase
import SuspicionMonitor.Toml.Document

/-!
# Layered settings

Settings come from several layers: the user's file, the project's file, the
project's overrides, and environment variables.  Each is laid over the ones
before, and what no layer sets has its standard value.
-/

namespace SuspicionMonitor

inductive LoadError where
  | malformedFile
  /-- A path names an item too far from the ends of its list. -/
  | overlongList
  | wrongForm
  | invalid (cause : InvalidSettings)

namespace Layers

mutual

def fitsWords : Data → Bool
  | .integer value => Int64.minValue.toInt ≤ value && value ≤ Int64.maxValue.toInt
  | .list items => itemsFit items
  | .table entries => entriesFit entries
  | _ => true

def itemsFit : List Data → Bool
  | [] => true
  | item :: items => fitsWords item && itemsFit items

def entriesFit : List (String × Data) → Bool
  | [] => true
  | (_, data) :: entries => fitsWords data && entriesFit entries

end

/-- Lays entries over what there is so far. -/
def lay (lower : Data) (entries : List (String × Data)) : Except LoadError Data :=
  match Data.overlayPaths? entries lower with
  | none => .error .overlongList
  | some data => .ok data

/-- Dates are texts, and tables are open to dotted keys. -/
def dialect : Toml.Dialect where
  addsToImplied := true
  moment := .text

/-- Lays a file over what there is so far.  A layer may begin with one byte
order mark more than a document. -/
def layFile (lower : Data) (text : String) : Except LoadError Data :=
  match Data.ofToml? dialect (String.ofList (withoutMark text.toList)) with
  | none => .error .malformedFile
  | some data => if fitsWords data then lay lower data.entriesOf else .error .malformedFile

/-- A truth value, an integer, a float or a text, whichever fits first. -/
def variableValue (text : String) : Data :=
  let lower := String.ofList (text.toList.map Char.toLower)
  if lower = "true" then .bool true
  else if lower = "false" then .bool false
  else
    let whole := (Decimal.whole? text.toList).bind
      (ScalarRules.within Int64.minValue.toInt Int64.maxValue.toInt)
    match whole with
    | some value => .integer value
    | none =>
        match Decimal.float? text.toList with
        | some value => .float value
        | none => .text text

/-- Two underscores divide the parts of a path. -/
def dotted : List Char → List Char
  | '_' :: '_' :: rest => '.' :: dotted rest
  | c :: rest => c :: dotted rest
  | [] => []

/-- The path that a variable sets, if its name begins with the common start and
an underscore; all of it is read in small letters. -/
def variablePath? (start name : String) : Option String :=
  let start := lowercase (start.toList ++ ['_'])
  let name := lowercase name.toList
  if start.isPrefixOf name then
    some (String.ofList (dotted (name.drop start.length)))
  else
    none

def variableEntries (start : String) (environment : List (String × String)) :
    List (String × Data) :=
  environment.filterMap fun (name, value) =>
    (variablePath? start name).map fun path => (path, variableValue value)

/-- The start of the names of variables that count. -/
def standardStart : String := "WARDEN"

end Layers

namespace Settings

/-- The settings of files, the later ones over the earlier ones, and of
variables over the files. -/
def ofLayers (files : List String) (start : String) (environment : List (String × String)) :
    Except LoadError Settings := do
  let data ← files.foldlM Layers.layFile (.table [])
  let data ← Layers.lay data (Layers.variableEntries start environment)
  match Settings.read .layered .standard data with
  | none => .error .wrongForm
  | some settings => settings.validate.mapError .invalid

end Settings

/-- What a program can see of its surroundings. -/
structure Surroundings (m : Type → Type) where
  contents : String → m (Option String)
  environment : List (String × String)

namespace Surroundings

variable {m : Type → Type} [Monad m] (surroundings : Surroundings m)

def lookup (name : String) : Option String :=
  (surroundings.environment.find? (·.1 == name)).map Prod.snd

/-- The user's file, if it is known where that is. -/
def userFile? : Option String :=
  (surroundings.lookup "HOME").map fun home =>
    Locations.userFile home (surroundings.lookup "XDG_CONFIG_HOME")

def load (directory : String) (start : String) (withUser : Bool) :
    m (Except LoadError Settings) := do
  let user := if withUser then surroundings.userFile?.toList else []
  let files ← (user ++ [Locations.projectFile directory, Locations.overrideFile directory]).mapM
    surroundings.contents
  return Settings.ofLayers (files.filterMap id) start surroundings.environment

/-- The settings for a project directory, or the standard ones if they cannot
be loaded. -/
def loadOrStandard (directory : String) (start : String) (withUser : Bool) : m Settings := do
  return (← surroundings.load directory start withUser).toOption.getD .standard

end Surroundings

end SuspicionMonitor
