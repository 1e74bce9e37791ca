import SuspicionMonitor.Bytes
import SuspicionMonitor.DecodeError
import SuspicionMonitor.Duration

/-!
# Latency vectors

The point-to-point latencies one replica has observed towards every replica,
for votes (`write`) and for proposals (`propose`).

On the wire the replica count comes first, in four bytes; then come the write
latencies and the propose latencies, eight bytes each.
-/

namespace SuspicionMonitor

structure LatencyVector where
  write : List Nanos
  propose : List Nanos
  deriving DecidableEq

namespace LatencyVector

def ofLists? (write propose : List Nanos) : Option LatencyVector :=
  if write.length = propose.length then some ⟨write, propose⟩ else none

/-- The vector whose propose latencies are all missing. -/
def ofWrite (write : List Nanos) : LatencyVector :=
  ⟨write, List.replicate write.length Nanos.missing⟩

def size (vector : LatencyVector) : Nat := vector.write.length

/-- Size of an encoded vector of `count` replicas in bytes. -/
def wireLength (count : Nat) : Nat := 4 + 16 * count

def encodeLatency (latency : Nanos) : Bytes := Bytes.ofNat 8 latency.toUInt64.toNat

def encode (vector : LatencyVector) : Bytes :=
  Bytes.ofNat 4 vector.size ++
    vector.write.flatMap encodeLatency ++
    vector.propose.flatMap encodeLatency

/-- The next `count` latencies of `bytes` and the bytes after them. -/
def takeLatencies : (count : Nat) → Bytes → List Nanos × Bytes
  | 0, bytes => ([], bytes)
  | count + 1, bytes =>
      let (latencies, rest) := takeLatencies count (bytes.drop 8)
      (Int64.ofNat (Bytes.toNat (bytes.take 8)) :: latencies, rest)

def decode (bytes : Bytes) : Except DecodeError LatencyVector :=
  let available := bytes.length
  if available < 4 then
    .error (.truncated 4 available)
  else
    let declared := (Int32.ofNat (Bytes.toNat (bytes.take 4))).toInt
    if declared < 0 then
      .error (.negativeReplicaCount declared)
    else
      let count := declared.toNat
      if maxReplicas < count then
        .error (.tooManyReplicas count)
      else if available < wireLength count then
        .error (.truncated (wireLength count) available)
      else if wireLength count < available then
        .error (.trailingBytes (available - wireLength count))
      else
        let (write, rest) := takeLatencies count (bytes.drop 4)
        let (propose, _) := takeLatencies count rest
        .ok ⟨write, propose⟩

end LatencyVector

end SuspicionMonitor
