import SuspicionMonitor.CommandLine.Session

/-!
# The program
-/

namespace SuspicionMonitor

namespace Program

def contents (path : String) : IO (Option String) := do
  try
    return some (← IO.FS.readFile path)
  catch _ =>
    return none

/-- All environment variables, as far as the system lists them. -/
def environment : IO (List (String × String)) := do
  let entries := ((← contents "/proc/self/environ").getD "").splitOn "\x00"
  return entries.map fun entry =>
    let name := entry.toList.takeWhile (· != '=')
    (String.ofList name, String.ofList (entry.toList.drop (name.length + 1)))

def stopwatch : Stopwatch IO where
  measure evaluate := do
    let start ← IO.monoNanosNow
    let outcome ← IO.lazyPure evaluate
    let stop ← IO.monoNanosNow
    return (outcome, some ((stop - start) / 1000))

def usage : String :=
  "Usage: warden-sim [--config FILE] [--json] scale [--scale 1..7] [--seed SEED]\n" ++
    "       warden-sim [--config FILE] [--json] scenario [--n N] [--f F] [--liars L] [--seed SEED]"

end Program

end SuspicionMonitor

open SuspicionMonitor

def main (words : List String) : IO UInt32 := do
  let surroundings : Surroundings IO :=
    { contents := Program.contents, environment := ← Program.environment }
  let ending ← call surroundings Program.stopwatch words
  match ending with
  | .reported output => output.lines.forM IO.println
  | .failed error => IO.eprintln ("Error: " ++ error.message)
  | .misused => IO.eprintln Program.usage
  return ending.exitCode
