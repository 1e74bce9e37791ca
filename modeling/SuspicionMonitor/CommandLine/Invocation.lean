import SuspicionMonitor.CommandLine.Options
import SuspicionMonitor.Settings.Conversion

/-!
# Simulations on the command line

The words name a simulation and its parameters.  Options about settings and
output stand before or after the name; what stands after it counts more.
-/

namespace SuspicionMonitor

inductive Experiment where
  /-- Both strategies at one scale, or at all. -/
  | scale (scale : Option Nat) (seed : UInt64)
  | scenario (n f liars : Nat) (seed : UInt64)
  deriving DecidableEq

structure Invocation where
  settingsFile : Option String
  asJson : Bool
  experiment : Experiment
  deriving DecidableEq

namespace Invocation

def largestScale : Nat := 7

/-- Counts and seeds have 64 bits. -/
def count? (text : List Char) : Option Nat := do
  let value ← Decimal.natural? text
  if value < UInt64.size then return value else failure

def seed? (text : List Char) : Option UInt64 := (count? text).map UInt64.ofNat

def scale? (text : List Char) : Option (Option Nat) := do
  let value ← ScalarRules.within 1 largestScale (← Decimal.whole? text)
  return some value.toNat

def generalNames : OptionNames := ⟨["json"], ["config"]⟩

/-- General options together with those of a simulation. -/
def namesWith (valued : List String) : OptionNames :=
  { generalNames with valued := generalNames.valued ++ valued }

/-- The options behind the name of a simulation.  Two dashes may end them, and
nothing follows. -/
def optionsAfter (names : OptionNames) (words : List String) : Option GivenOptions := do
  let (given, rest) ← names.takeOptions [] words
  if rest.isEmpty || rest = ["--"] then return given else failure

def experiment? (name : String) (words : List String) : Option (GivenOptions × Experiment) :=
  match name with
  | "scale" => do
      let given ← optionsAfter (namesWith ["scale", "seed"]) words
      return (given, .scale (← given.read? "scale" scale? none) (← given.read? "seed" seed? 0))
  | "scenario" => do
      let given ← optionsAfter (namesWith ["n", "f", "liars", "seed"]) words
      return (given, .scenario (← given.read? "n" count? 4) (← given.read? "f" count? 1)
        (← given.read? "liars" count? 1) (← given.read? "seed" seed? 0))
  | _ => none

/-- What the words ask for, if they make sense. -/
def ofWords? (words : List String) : Option Invocation := do
  let (general, rest) ← generalNames.takeOptions [] words
  match rest with
  | [] => failure
  | name :: words =>
      let (given, experiment) ← experiment? name words
      let options := given ++ general
      let files := options.filter (·.1 == "config")
      if files.any (·.2.isEmpty) then
        failure
      else
        return {
          settingsFile := options.value? "config"
          asJson := (options.value? "json").isSome
          experiment
        }

end Invocation

end SuspicionMonitor
