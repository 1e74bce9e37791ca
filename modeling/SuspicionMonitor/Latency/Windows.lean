import SuspicionMonitor.Duration
import SuspicionMonitor.View

/-!
# Observed latencies

The latest latencies observed towards each peer, and their medians.
-/

namespace SuspicionMonitor

/-- For each peer the latest latencies, the newest last, at most `capacity`
of them. -/
structure LatencyWindows where
  capacity : Nat
  windows : Array (List Nanos)

namespace LatencyWindows

def empty (peers capacity : Nat) : LatencyWindows :=
  ⟨capacity, Array.replicate peers []⟩

def ofCapacity? (peers capacity : Nat) : Option LatencyWindows :=
  if capacity = 0 then none else some (empty peers capacity)

/-- Adds a latency to a full or partial window. -/
def slide (capacity : Nat) (window : List Nanos) (latency : Nanos) : List Nanos :=
  (if window.length = capacity then window.drop 1 else window) ++ [latency]

/-- Latencies of unknown peers are ignored. -/
def record (windows : LatencyWindows) (peer : ReplicaId) (latency : Nanos) : LatencyWindows :=
  { windows with
    windows := windows.windows.modify peer.toNat (slide windows.capacity · latency) }

/-- Forgets everything and starts with another number of peers. -/
def reset (windows : LatencyWindows) (peers : Nat) : LatencyWindows :=
  empty peers windows.capacity

/-- The element in the middle, the higher of two. -/
def median (window : List Nanos) : Nanos :=
  (window.mergeSort (fun first second => first ≤ second))[window.length / 2]?.getD Nanos.missing

def medians (windows : LatencyWindows) : List Nanos :=
  windows.windows.toList.map median

end LatencyWindows

end SuspicionMonitor
