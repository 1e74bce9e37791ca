import SuspicionMonitor.Proofs.SignedWords
import SuspicionMonitor.Proofs.SuspicionCodec

/-!
# Which payloads are suspicions

A payload of fourteen bytes is a suspicion if it names a suspect that is not
negative and a kind that is known.  Nothing but an unrecognised phase is lost
by reading it: that one comes back as the phase without a name.
-/

namespace SuspicionMonitor

namespace Phase

instance : Fintype Phase where
  elems := {propose, write, accept, unknown}
  complete := by
    intro phase
    cases phase <;> decide

/-- A code is kept if it is the code of a phase. -/
theorem code_ofCode (code : UInt16) :
    (ofCode code).code = if ∃ phase : Phase, phase.code = code then code else unknown.code := by
  split
  case isTrue hknown =>
    obtain ⟨phase, rfl⟩ := hknown
    rw [ofCode_code]
  case isFalse hunknown =>
    have hdistinct : ∀ phase : Phase, code ≠ phase.code :=
      fun phase hcode => hunknown ⟨phase, hcode.symm⟩
    have hpropose : code ≠ 80 := hdistinct propose
    have hwrite : code ≠ 87 := hdistinct write
    have haccept : code ≠ 65 := hdistinct accept
    simp [ofCode, hpropose, hwrite, haccept]

end Phase

namespace SuspicionKind

theorem ofCode?_eq_some_iff {code : Int32} {kind : SuspicionKind} :
    ofCode? code = some kind ↔ kind.code = code := by
  constructor
  · intro hkind
    unfold ofCode? at hkind
    split at hkind
    case isTrue hslow =>
      obtain rfl := Option.some.inj hkind
      exact hslow.symm
    case isFalse =>
      split at hkind
      case isTrue hfalse =>
        obtain rfl := Option.some.inj hkind
        exact hfalse.symm
      case isFalse => contradiction
  · rintro rfl
    exact ofCode?_code kind

end SuspicionKind

namespace Suspicion

/-- What is left of a payload by reading it: a phase that is not recognised is
replaced. -/
def recognised (bytes : Bytes) : Bytes :=
  if ∃ phase : Phase, Bytes.ofNat 2 phase.code.toNat = bytes.field 8 2 then bytes
  else bytes.take 8 ++ Bytes.ofNat 2 Phase.unknown.code.toNat ++ bytes.drop 10

/-- Exactly these payloads can be read. -/
structure IsPayload (bytes : Bytes) : Prop where
  length_eq : bytes.length = 14
  suspect_nonneg : 0 ≤ (bytes.field 0 4).toInt
  kind_known : ∃ kind : SuspicionKind, kind.code.toInt = (bytes.field 4 4).toInt

section

variable {bytes : Bytes}

theorem eq_fields (hlength : bytes.length = 14) :
    bytes = bytes.field 0 4 ++ bytes.field 4 4 ++ bytes.field 8 2 ++ bytes.field 10 4 := by
  have hsuspect := Bytes.field_append_drop bytes 0 4
  have hkind := Bytes.field_append_drop bytes 4 4
  have hphase := Bytes.field_append_drop bytes 8 2
  have hround := Bytes.field_append_drop bytes 10 4
  have hend : bytes.drop 14 = [] := List.drop_eq_nil_of_le hlength.le
  simp only [Nat.reduceAdd, hend, List.append_nil, List.drop_zero] at hsuspect hkind hphase hround
  rw [List.append_assoc, List.append_assoc, hround, hphase, hkind, hsuspect]

theorem decode_of_length (hlength : bytes.length = 14) (reporter : ReplicaId) :
    decode bytes reporter =
      if (bytes.field 0 4).toInt < 0 then .error (.negativeSuspect (bytes.field 0 4).toInt)
      else
        match SuspicionKind.ofCode? (Int32.ofNat (bytes.field 4 4).toNat) with
        | none => .error (.unknownKind (bytes.field 4 4).toInt)
        | some kind =>
            .ok {
              round := Int32.ofNat (bytes.field 10 4).toNat
              phase := Phase.ofCode (UInt16.ofNat (bytes.field 8 2).toNat)
              kind
              suspect := (Int32.ofNat (bytes.field 0 4).toNat).toUInt32
              reporter
            } := by
  have hsuspect : (bytes.field 0 4).length = 4 := Bytes.length_field (by omega)
  have hkind : (bytes.field 4 4).length = 4 := Bytes.length_field (by omega)
  unfold decode
  cases hfound : SuspicionKind.ofCode? (Int32.ofNat (bytes.field 4 4).toNat) with
  | none =>
      simp only [hlength, wireLength, lt_irrefl, if_false, Int32.lt_iff_toInt_lt, Int32.toInt_zero,
        Bytes.toInt_word32 hsuspect, Bytes.toInt_word32 hkind, hfound]
  | some kind =>
      simp only [hlength, wireLength, lt_irrefl, if_false, Int32.lt_iff_toInt_lt, Int32.toInt_zero,
        Bytes.toInt_word32 hsuspect, hfound]

theorem length_of_decode {reporter : ReplicaId} {suspicion : Suspicion}
    (hdecode : decode bytes reporter = .ok suspicion) : bytes.length = 14 := by
  unfold decode wireLength at hdecode
  dsimp only at hdecode
  split at hdecode
  · contradiction
  split at hdecode
  · contradiction
  omega

/-- The fields of a payload that has been read. -/
structure IsReading (bytes : Bytes) (reporter : ReplicaId) (suspicion : Suspicion) : Prop where
  payload : IsPayload bytes
  suspect_eq : suspicion.suspect.toNat = (bytes.field 0 4).toNat
  kind_eq : suspicion.kind.code.toUInt32.toNat = (bytes.field 4 4).toNat
  phase_eq : suspicion.phase = Phase.ofCode (UInt16.ofNat (bytes.field 8 2).toNat)
  round_eq : suspicion.round.toUInt32.toNat = (bytes.field 10 4).toNat
  reporter_eq : suspicion.reporter = reporter

theorem isReading_of_decode {reporter : ReplicaId} {suspicion : Suspicion}
    (hdecode : decode bytes reporter = .ok suspicion) : IsReading bytes reporter suspicion := by
  have hlength := length_of_decode hdecode
  have hsuspect : (bytes.field 0 4).length = 4 := Bytes.length_field (by omega)
  have hcode : (bytes.field 4 4).length = 4 := Bytes.length_field (by omega)
  have hround : (bytes.field 10 4).length = 4 := Bytes.length_field (by omega)
  rw [decode_of_length hlength] at hdecode
  split at hdecode
  · contradiction
  case isFalse hnonneg =>
    split at hdecode
    · contradiction
    case h_2 kind hkind =>
      obtain rfl := Except.ok.inj hdecode
      rw [SuspicionKind.ofCode?_eq_some_iff] at hkind
      constructor
      case payload =>
        refine ⟨hlength, not_lt.mp hnonneg, kind, ?_⟩
        rw [hkind, Bytes.toInt_word32 hcode]
      case suspect_eq => exact Bytes.toUInt32_word32 hsuspect
      case kind_eq =>
        dsimp only
        rw [hkind, Bytes.toUInt32_word32 hcode]
      case phase_eq => rfl
      case round_eq => exact Bytes.toUInt32_word32 hround
      case reporter_eq => rfl

theorem exists_decode (hpayload : IsPayload bytes) (reporter : ReplicaId) :
    ∃ suspicion, decode bytes reporter = .ok suspicion := by
  obtain ⟨hlength, hnonneg, kind, hkind⟩ := hpayload
  have hcode : (bytes.field 4 4).length = 4 := Bytes.length_field (by omega)
  have hofCode : SuspicionKind.ofCode? (Int32.ofNat (bytes.field 4 4).toNat) = some kind := by
    rw [SuspicionKind.ofCode?_eq_some_iff, ← Int32.toInt_inj, hkind, Bytes.toInt_word32 hcode]
  rw [decode_of_length hlength, if_neg (not_lt.mpr hnonneg), hofCode]
  exact ⟨_, rfl⟩

theorem ofNat_phase_eq_iff (hlength : bytes.length = 14) (phase : Phase) :
    Bytes.ofNat 2 phase.code.toNat = bytes.field 8 2 ↔
      phase.code = UInt16.ofNat (bytes.field 8 2).toNat := by
  have hphase : (bytes.field 8 2).length = 2 := Bytes.length_field (by omega)
  have hword := Bytes.ofNat_toNat (bytes.field 8 2)
  have hlt := Bytes.toNat_lt (bytes.field 8 2)
  rw [hphase] at hword hlt
  constructor
  · intro hbytes
    rw [← hbytes, Bytes.toNat_ofNat, Nat.mod_eq_of_lt phase.code.toNat_lt, UInt16.ofNat_toNat]
  · intro hcode
    rw [hcode, UInt16.toNat_ofNat', Nat.mod_eq_of_lt hlt, hword]

theorem encode_of_reading {reporter : ReplicaId} {suspicion : Suspicion}
    (hreading : IsReading bytes reporter suspicion) : suspicion.encode = recognised bytes := by
  have hlength := hreading.payload.length_eq
  have hword : ∀ {start : Nat}, start + 4 ≤ 14 →
      Bytes.ofNat 4 (bytes.field start 4).toNat = bytes.field start 4 := by
    intro start hend
    have hfield := Bytes.ofNat_toNat (bytes.field start 4)
    rwa [Bytes.length_field (by omega)] at hfield
  have hphase : (bytes.field 8 2).length = 2 := Bytes.length_field (by omega)
  have hhalf := Bytes.ofNat_toNat (bytes.field 8 2)
  have hlt := Bytes.toNat_lt (bytes.field 8 2)
  rw [hphase] at hhalf hlt
  have hfields := eq_fields hlength
  rw [encode, hreading.suspect_eq, hreading.kind_eq, hreading.round_eq, hreading.phase_eq,
    Phase.code_ofCode, hword (by omega), hword (by omega), hword (by omega), recognised]
  simp only [ofNat_phase_eq_iff hlength]
  split
  · rw [UInt16.toNat_ofNat', Nat.mod_eq_of_lt hlt, hhalf, ← hfields]
  · have hfront : bytes.take 8 = bytes.field 0 4 ++ bytes.field 4 4 := by
      simp only [Bytes.field, List.drop_zero]
      rw [← List.take_add]
    have hback : bytes.drop 10 = bytes.field 10 4 := by
      have hround := Bytes.field_append_drop bytes 10 4
      rw [← hround, List.drop_eq_nil_of_le hlength.le, List.append_nil]
    rw [hfront, hback]

theorem suspect_lt_of_reading {reporter : ReplicaId} {suspicion : Suspicion}
    (hreading : IsReading bytes reporter suspicion) : suspicion.suspect.toNat < 2 ^ 31 := by
  have hnonneg := hreading.payload.suspect_nonneg
  have hlength : (bytes.field 0 4).length = 4 :=
    Bytes.length_field (by have := hreading.payload.length_eq; omega)
  rw [Bytes.toInt_nonneg_iff, hlength] at hnonneg
  rw [hreading.suspect_eq]
  omega

end

/-- Reading accepts exactly the payloads of suspicions; reading and writing
undo each other, but for phases that are not recognised and for suspects that
are taken for negative ones. -/
theorem payloads_are_readings_of_suspicions :
    (∀ (bytes : Bytes) (reporter : ReplicaId),
      ((∃ suspicion, decode bytes reporter = .ok suspicion) ↔ IsPayload bytes) ∧
      ∀ suspicion, decode bytes reporter = .ok suspicion →
        suspicion.reporter = reporter ∧ suspicion.encode = recognised bytes ∧
          decode (recognised bytes) reporter = .ok suspicion) ∧
    ∀ suspicion : Suspicion,
      decode suspicion.encode suspicion.reporter =
        if suspicion.suspect.toNat < 2 ^ 31 then .ok suspicion
        else .error (.negativeSuspect (suspicion.suspect.toNat - 2 ^ 32)) := by
  refine ⟨fun bytes reporter => ⟨⟨?_, fun hpayload => exists_decode hpayload reporter⟩, ?_⟩, ?_⟩
  · rintro ⟨suspicion, hdecode⟩
    exact (isReading_of_decode hdecode).payload
  · intro suspicion hdecode
    have hreading := isReading_of_decode hdecode
    have hencode := encode_of_reading hreading
    have hreporter := hreading.reporter_eq
    refine ⟨hreporter, hencode, ?_⟩
    rw [← hencode, decode_encode, if_pos (suspect_lt_of_reading hreading), ← hreporter]
  · intro suspicion
    exact decode_encode suspicion suspicion.reporter

/-- Replica 2 reports a suspicion whose phase has no name. -/
theorem unnamed_phase_is_replaced :
    decode [0, 0, 0, 1, 0, 0, 0, 1, 0, 90, 0, 0, 0, 5] 2 = .ok ⟨5, .unknown, .slow, 1, 2⟩ ∧
      encode ⟨5, .unknown, .slow, 1, 2⟩ = [0, 0, 0, 1, 0, 0, 0, 1, 0, 85, 0, 0, 0, 5] := by
  have hdecode :
      decode [0, 0, 0, 1, 0, 0, 0, 1, 0, 90, 0, 0, 0, 5] 2 = .ok ⟨5, .unknown, .slow, 1, 2⟩ := by
    decide
  obtain ⟨-, hencode, -⟩ := (payloads_are_readings_of_suspicions.1 _ _).2 _ hdecode
  exact ⟨hdecode, hencode.trans (by decide)⟩

end Suspicion

end SuspicionMonitor
