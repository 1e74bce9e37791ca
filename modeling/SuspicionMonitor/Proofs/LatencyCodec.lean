import SuspicionMonitor.LatencyVector
import SuspicionMonitor.Proofs.SuspicionCodec

/-!
# Latency vectors on the wire

A latency vector that has been written is read back as it was, if it has as
many propose latencies as write latencies and is not too long.  Longer ones are
not read at all.
-/

namespace SuspicionMonitor

theorem Nanos.ofNat_toUInt64 (latency : Nanos) : Int64.ofNat latency.toUInt64.toNat = latency := by
  rw [← UInt64.toInt64_ofNat', UInt64.ofNat_toNat, Int64.toInt64_toUInt64]

namespace LatencyVector

theorem toNat_encodeLatency (latency : Nanos) :
    Int64.ofNat (Bytes.toNat (encodeLatency latency)) = latency := by
  rw [encodeLatency, Bytes.toNat_ofNat, Nat.mod_eq_of_lt latency.toUInt64.toNat_lt,
    Nanos.ofNat_toUInt64]

theorem length_encodeLatency (latency : Nanos) : (encodeLatency latency).length = 8 :=
  Bytes.length_ofNat 8 _

theorem length_flatMap_encodeLatency (latencies : List Nanos) :
    (latencies.flatMap encodeLatency).length = 8 * latencies.length := by
  simp [List.length_flatMap, length_encodeLatency, Nat.mul_comm]

theorem takeLatencies_append (latencies : List Nanos) (rest : Bytes) :
    takeLatencies latencies.length (latencies.flatMap encodeLatency ++ rest) =
      (latencies, rest) := by
  induction latencies with
  | nil => rfl
  | cons latency latencies ih =>
      have hlength := length_encodeLatency latency
      rw [List.length_cons, List.flatMap_cons, List.append_assoc, takeLatencies]
      rw [List.drop_left' hlength, List.take_left' hlength, ih, toNat_encodeLatency]

theorem length_encode {vector : LatencyVector}
    (hlength : vector.propose.length = vector.write.length) :
    vector.encode.length = wireLength vector.size := by
  simp only [encode, List.length_append, Bytes.length_ofNat, length_flatMap_encodeLatency,
    hlength, wireLength, size]
  omega

theorem decode_encode {vector : LatencyVector}
    (hlength : vector.propose.length = vector.write.length)
    (hsize : vector.size ≤ maxReplicas) : decode vector.encode = .ok vector := by
  have hbound : vector.size ≤ 1024 := hsize
  have hword : vector.size % 256 ^ 4 = vector.size := Nat.mod_eq_of_lt (by omega)
  have hhead : (Bytes.ofNat 4 vector.size).length = 4 := Bytes.length_ofNat 4 _
  have hcount : (Int32.ofNat (Bytes.toNat (vector.encode.take 4))).toInt = vector.size := by
    rw [encode, List.append_assoc, List.take_left' hhead, Bytes.toNat_ofNat, hword]
    exact Int32.toInt_ofNat_of_lt (by omega)
  have hdrop : vector.encode.drop 4 =
      vector.write.flatMap encodeLatency ++ (vector.propose.flatMap encodeLatency ++ []) := by
    rw [encode, List.append_assoc, List.drop_left' hhead, List.append_nil]
  have hwire := length_encode hlength
  have hwrite : vector.size = vector.write.length := rfl
  have hpropose : vector.size = vector.propose.length := hlength.symm
  unfold decode
  simp only [hcount, hwire, Int.toNat_natCast, lt_irrefl, if_false]
  rw [if_neg (by rw [wireLength]; omega), if_neg (by omega), if_neg (by omega), hdrop, hwrite,
    takeLatencies_append, ← hwrite, hpropose, takeLatencies_append]

/-- A vector that is too long is not read back, whatever becomes of its size in
four bytes. -/
theorem decode_encode_of_large {vector : LatencyVector}
    (hlength : vector.propose.length = vector.write.length)
    (hsize : maxReplicas < vector.size) : ∃ cause, decode vector.encode = .error cause := by
  have hwire := length_encode hlength
  unfold decode
  dsimp only
  split
  · exact ⟨_, rfl⟩
  split
  · exact ⟨_, rfl⟩
  split
  · exact ⟨_, rfl⟩
  next hcount =>
    -- The declared size is a smaller one, so there are bytes left over.
    split
    · exact ⟨_, rfl⟩
    rw [if_pos]
    · exact ⟨_, rfl⟩
    rw [hwire]
    simp only [wireLength]
    omega

theorem length_takeLatencies (count : Nat) (bytes : Bytes) :
    (takeLatencies count bytes).1.length = count := by
  induction count generalizing bytes with
  | zero => rfl
  | succ count ih => exact congrArg Nat.succ (ih _)

theorem size_le_of_decode {bytes : Bytes} {vector : LatencyVector}
    (hdecode : decode bytes = .ok vector) : vector.size ≤ maxReplicas := by
  unfold decode at hdecode
  dsimp only at hdecode
  split at hdecode
  · contradiction
  split at hdecode
  · contradiction
  split at hdecode
  · contradiction
  next hcount =>
    split at hdecode
    · contradiction
    split at hdecode
    · contradiction
    obtain rfl := Except.ok.inj hdecode
    rw [size, length_takeLatencies]
    exact Nat.le_of_not_lt hcount

end LatencyVector

end SuspicionMonitor
