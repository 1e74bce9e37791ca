/-!
# Consensus rounds

Consensus instances are numbered by 32-bit integers.  Arithmetic on them stops
at the ends of the range instead of wrapping around.
-/

namespace SuspicionMonitor

/-- The number of a consensus instance. -/
abbrev Round := Int32

namespace Round

def plus (round : Round) (delta : Int32) : Round :=
  Int32.ofIntClamp (round.toInt + delta.toInt)

def minus (round : Round) (delta : Int32) : Round :=
  Int32.ofIntClamp (round.toInt - delta.toInt)

def previous (round : Round) : Round := round.minus 1

/-- Rounds elapsed since `earlier`, zero if `earlier` lies ahead. -/
def since (round earlier : Round) : Nat :=
  (round.minus earlier).toInt.toNat

def text (round : Round) : String := toString round.toInt

end Round

end SuspicionMonitor
