import SuspicionMonitor.Suspicion
import Std.Data.ExtTreeSet

/-!
# Filed suspicions

How the suspicions of a ledger are laid out: filed under their own round and,
within it, under their own phase.  Beside them each round keeps what the graph
has been fed with.  A round, or a phase of it, is set up when the first
suspicion is filed there.  Rounds are collected as a whole.
-/

namespace SuspicionMonitor

def totalSize (sizes : List Nat) : Nat := sizes.foldr (· + ·) 0

/-- The suspicions about one round. -/
structure RoundFile where
  groups : Std.ExtTreeMap Phase (Std.ExtTreeSet Suspicion) := ∅
  fed : Std.ExtTreeSet Suspicion := ∅

namespace RoundFile

def group (file : RoundFile) (phase : Phase) : Std.ExtTreeSet Suspicion :=
  file.groups.getD phase ∅

def store (file : RoundFile) (suspicion : Suspicion) : RoundFile :=
  { file with
    groups := file.groups.insert suspicion.phase
      ((file.group suspicion.phase).insert suspicion) }

def size (file : RoundFile) : Nat := totalSize (file.groups.toList.map (·.2.size))

def suspicions (file : RoundFile) : List Suspicion :=
  file.groups.toList.flatMap (·.2.toList)

/-- The suspicions of the earliest phase that the graph has not been fed with. -/
def due (file : RoundFile) : List Suspicion :=
  match file.groups.toList with
  | [] => []
  | (_, earliest) :: _ => earliest.toList.filter fun suspicion => !file.fed.contains suspicion

def feed (file : RoundFile) : RoundFile :=
  { file with fed := file.fed.insertMany file.due }

end RoundFile

structure Filing where
  rounds : Std.ExtTreeMap Round RoundFile := ∅
  lowWater : Option Round := none

namespace Filing

def empty : Filing := {}

def size (filing : Filing) : Nat := totalSize (filing.rounds.toList.map (·.2.size))

def isEmpty (filing : Filing) : Bool := filing.rounds.isEmpty

/-- All suspicions in ascending order. -/
def suspicions (filing : Filing) : List Suspicion :=
  (filing.rounds.toList.flatMap (·.2.suspicions)).mergeSort
    fun first second => (compare first second).isLE

def admits (filing : Filing) (suspicion : Suspicion) : Bool :=
  match filing.lowWater with
  | none => true
  | some low => low ≤ suspicion.round

def fileOf (filing : Filing) (round : Round) : RoundFile := filing.rounds.getD round {}

def isNew (filing : Filing) (suspicion : Suspicion) : Bool :=
  filing.admits suspicion &&
    !((filing.fileOf suspicion.round).group suspicion.phase).contains suspicion

def store (filing : Filing) (suspicion : Suspicion) : Filing :=
  if filing.admits suspicion then
    { filing with
      rounds := filing.rounds.insert suspicion.round
        ((filing.fileOf suspicion.round).store suspicion) }
  else
    filing

/-- Files the suspicions one after the other and counts the new ones. -/
def storeAll (filing : Filing) (suspicions : List Suspicion) : Filing × Nat :=
  suspicions.foldl
    (fun (filing, stored) suspicion =>
      (filing.store suspicion, stored + if filing.isNew suspicion then 1 else 0))
    (filing, 0)

/-- What is due in the rounds, one round after the other, is marked as fed. -/
def build (filing : Filing) : Filing × List Suspicion :=
  ({ filing with rounds := filing.rounds.map fun _ file => file.feed },
    filing.rounds.toList.flatMap (·.2.due))

/-- Splits off the rounds below `low`, and counts the suspicions filed there. -/
def collect (filing : Filing) (low : Round) : Filing × Nat :=
  let dropped := filing.rounds.filter fun round _ => !decide (low ≤ round)
  ({ rounds := filing.rounds.filter fun round _ => low ≤ round
     lowWater := some (match filing.lowWater with
       | none => low
       | some mark => max mark low) },
    totalSize (dropped.toList.map (·.2.size)))

/-- Files the suspicion that `sender` sent, if the payload is one. -/
def notify (filing : Filing) (sender : ReplicaId) (payload : Bytes) : Filing :=
  match Suspicion.decode payload sender with
  | .ok suspicion => filing.store suspicion
  | .error _ => filing

end Filing

end SuspicionMonitor
