import SuspicionMonitor.Proofs.LatencyCodec
import SuspicionMonitor.Proofs.SignedWords

/-!
# Which payloads are latency vectors

A payload is a latency vector if it begins with a count of replicas that is
within bounds and is exactly as long as that count says.  There is only one way
of writing a latency vector, so nothing is lost by reading it.
-/

namespace SuspicionMonitor

theorem Nanos.toUInt64_word64 {word : Bytes} (hlength : word.length = 8) :
    (Int64.ofNat (Bytes.toNat word)).toUInt64.toNat = Bytes.toNat word := by
  have hlt := Bytes.toNat_lt word
  rw [hlength] at hlt
  rw [Int64.toUInt64_ofNat', UInt64.toNat_ofNat', Nat.mod_eq_of_lt hlt]

namespace LatencyVector

theorem encodeLatency_word64 {word : Bytes} (hlength : word.length = 8) :
    encodeLatency (Int64.ofNat (Bytes.toNat word)) = word := by
  rw [encodeLatency, Nanos.toUInt64_word64 hlength, ← hlength, Bytes.ofNat_toNat]

theorem flatMap_takeLatencies (count : Nat) (bytes : Bytes) (hlength : 8 * count ≤ bytes.length) :
    (takeLatencies count bytes).1.flatMap encodeLatency ++ (takeLatencies count bytes).2 =
      bytes := by
  induction count generalizing bytes with
  | zero => rfl
  | succ count ih =>
      have hword : (bytes.take 8).length = 8 := by
        rw [List.length_take]
        omega
      have hrest : 8 * count ≤ (bytes.drop 8).length := by
        rw [List.length_drop]
        omega
      rw [takeLatencies, List.flatMap_cons, encodeLatency_word64 hword, List.append_assoc,
        ih _ hrest, List.take_append_drop]

theorem takeLatencies_snd (count : Nat) (bytes : Bytes) :
    (takeLatencies count bytes).2 = bytes.drop (8 * count) := by
  induction count generalizing bytes with
  | zero => rfl
  | succ count ih =>
      rw [takeLatencies, ih, List.drop_drop]
      congr 1
      omega

/-- Exactly these payloads can be read: those that hold `count` replicas. -/
structure IsPayload (bytes : Bytes) (count : Nat) : Prop where
  count_eq : Bytes.toInt (bytes.take 4) = count
  count_le : count ≤ 1024
  length_eq : bytes.length = 4 + 16 * count

theorem length_take_four {bytes : Bytes} (hlength : 4 ≤ bytes.length) :
    (bytes.take 4).length = 4 := by
  rw [List.length_take]
  omega

section

variable {bytes : Bytes} {count : Nat}

theorem decode_of_payload (hpayload : IsPayload bytes count) :
    decode bytes =
      .ok ⟨(takeLatencies count (bytes.drop 4)).1,
        (takeLatencies count (takeLatencies count (bytes.drop 4)).2).1⟩ := by
  obtain ⟨hcount, hle, hlength⟩ := hpayload
  have hword : (bytes.take 4).length = 4 := length_take_four (by omega)
  unfold decode
  simp only [Bytes.toInt_word32 hword, hcount, hlength, Int.toNat_natCast, wireLength, maxReplicas]
  rw [if_neg (by omega), if_neg (by omega), if_neg (by omega), if_neg (by omega),
    if_neg (by omega)]

theorem exists_payload_of_decode {vector : LatencyVector} (hdecode : decode bytes = .ok vector) :
    ∃ count, IsPayload bytes count := by
  unfold decode at hdecode
  dsimp only at hdecode
  split at hdecode
  · contradiction
  case isFalse hfour =>
    rw [Bytes.toInt_word32 (length_take_four (not_lt.mp hfour))] at hdecode
    split at hdecode
    · contradiction
    case isFalse hnonneg =>
      split at hdecode
      · contradiction
      case isFalse hle =>
        split at hdecode
        · contradiction
        split at hdecode
        · contradiction
        refine ⟨(Bytes.toInt (bytes.take 4)).toNat, ?_, not_lt.mp hle, ?_⟩
        · exact (Int.toNat_of_nonneg (not_lt.mp hnonneg)).symm
        · unfold wireLength at *
          omega

theorem encode_of_payload (hpayload : IsPayload bytes count) :
    encode ⟨(takeLatencies count (bytes.drop 4)).1,
      (takeLatencies count (takeLatencies count (bytes.drop 4)).2).1⟩ = bytes := by
  obtain ⟨hcount, hle, hlength⟩ := hpayload
  have hword : (bytes.take 4).length = 4 := length_take_four (by omega)
  have hnat : Bytes.toNat (bytes.take 4) = count := by
    have hvalue : Bytes.toInt (bytes.take 4) = Bytes.toNat (bytes.take 4) :=
      Bytes.toInt_of_nonneg (by omega)
    omega
  have hhead : Bytes.ofNat 4 count = bytes.take 4 := by
    have hofNat := Bytes.ofNat_toNat (bytes.take 4)
    rwa [hword, hnat] at hofNat
  have hdrop : (bytes.drop 4).length = 16 * count := by
    rw [List.length_drop]
    omega
  have hrest : (takeLatencies count (bytes.drop 4)).2.length = 8 * count := by
    rw [takeLatencies_snd, List.length_drop]
    omega
  -- Nothing is left behind the second half of the latencies.
  have hend : (takeLatencies count (takeLatencies count (bytes.drop 4)).2).2 = [] := by
    rw [takeLatencies_snd, List.drop_eq_nil_of_le hrest.le]
  have hwrite := flatMap_takeLatencies count (bytes.drop 4) (by omega)
  have hpropose := flatMap_takeLatencies count (takeLatencies count (bytes.drop 4)).2 hrest.ge
  rw [hend, List.append_nil] at hpropose
  rw [encode, size, length_takeLatencies, hpropose, List.append_assoc, hwrite, hhead,
    List.take_append_drop]

theorem decode_encode_of_too_many {vector : LatencyVector}
    (hlength : vector.propose.length = vector.write.length) (hsize : vector.size ≤ 2 ^ 31 - 1)
    (hlarge : maxReplicas < vector.size) :
    decode vector.encode = .error (.tooManyReplicas vector.size) := by
  have hlt : vector.size < 256 ^ 4 := by omega
  have hhead : (Bytes.ofNat 4 vector.size).length = 4 := Bytes.length_ofNat 4 _
  have hcount : (Int32.ofNat (Bytes.toNat (vector.encode.take 4))).toInt = vector.size := by
    rw [encode, List.append_assoc, List.take_left' hhead, Bytes.toNat_ofNat, Nat.mod_eq_of_lt hlt]
    exact Int32.toInt_ofNat_of_lt (by omega)
  unfold decode
  simp only [length_encode hlength, hcount, Int.toNat_natCast]
  rw [if_neg (by unfold wireLength; omega), if_neg (by omega), if_pos hlarge]

end

/-- Reading accepts exactly the payloads that writing can produce within the
bound, and reading and writing undo each other. -/
theorem payloads_are_readings_of_vectors :
    (∀ bytes : Bytes,
      ((∃ vector, decode bytes = .ok vector) ↔ ∃ count, IsPayload bytes count) ∧
      ∀ vector, decode bytes = .ok vector → vector.encode = bytes) ∧
    ∀ vector : LatencyVector,
      vector.propose.length = vector.write.length → vector.size ≤ 2 ^ 31 - 1 →
        decode vector.encode =
          if vector.size ≤ 1024 then .ok vector else .error (.tooManyReplicas vector.size) := by
  refine ⟨fun bytes => ⟨⟨?_, ?_⟩, ?_⟩, ?_⟩
  · rintro ⟨vector, hdecode⟩
    exact exists_payload_of_decode hdecode
  · rintro ⟨count, hpayload⟩
    exact ⟨_, decode_of_payload hpayload⟩
  · intro vector hdecode
    obtain ⟨count, hpayload⟩ := exists_payload_of_decode hdecode
    rw [decode_of_payload hpayload] at hdecode
    obtain rfl := Except.ok.inj hdecode
    exact encode_of_payload hpayload
  · intro vector hlength hsize
    split
    case isTrue hle => exact decode_encode hlength hle
    case isFalse hlarge =>
      exact decode_encode_of_too_many hlength hsize (Nat.lt_of_not_le hlarge)

/-- A negative latency is written and read back, and so are its bytes. -/
theorem negative_latency_is_kept :
    decode (encode ⟨[-2], [Nanos.missing]⟩) = .ok ⟨[-2], [Nanos.missing]⟩ ∧
      encode ⟨[-2], [7]⟩ =
        [0, 0, 0, 1, 255, 255, 255, 255, 255, 255, 255, 254, 0, 0, 0, 0, 0, 0, 0, 7] := by
  have hdecode :
      decode [0, 0, 0, 1, 255, 255, 255, 255, 255, 255, 255, 254, 0, 0, 0, 0, 0, 0, 0, 7] =
        .ok ⟨[-2], [7]⟩ := by
    decide
  refine ⟨?_, (payloads_are_readings_of_vectors.1 _).2 _ hdecode⟩
  exact payloads_are_readings_of_vectors.2 ⟨[-2], [Nanos.missing]⟩ (by decide) (by decide)

end LatencyVector

end SuspicionMonitor
