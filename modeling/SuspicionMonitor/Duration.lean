/-!
# Durations

Durations and timestamps are counted in signed nanoseconds of 64 bits.  A
latency nobody has observed yet is the value `missing`: large enough to make
a link unusable, small enough that two of them can be added.
-/

namespace SuspicionMonitor

/-- A duration or a timestamp in nanoseconds. -/
abbrev Nanos := Int64

namespace Nanos

def missing : Nanos := 1000000000000000

def isMissing (latency : Nanos) : Bool := missing ≤ latency

/-- The sum, stopping at the ends of the range. -/
def plus (first second : Nanos) : Nanos :=
  Int64.ofIntClamp (first.toInt + second.toInt)

/-- The difference, stopping at the ends of the range. -/
def minus (later earlier : Nanos) : Nanos :=
  Int64.ofIntClamp (later.toInt - earlier.toInt)

/-- The nearest floating-point number.  The magnitude of the least duration
still fits into an unsigned word. -/
def toFloat (duration : Nanos) : Float :=
  if duration < 0 then -(-duration).toUInt64.toFloat else duration.toUInt64.toFloat

/-- Whether an observed duration is longer than `factor` times the expected
one.  The comparison is made in floating point. -/
def exceeds (observed expected : Nanos) (factor : Float) : Bool :=
  toFloat observed > toFloat expected * factor

end Nanos

end SuspicionMonitor
