import SuspicionMonitor.Bytes
import SuspicionMonitor.DecodeError
import SuspicionMonitor.Protocol
import SuspicionMonitor.Round
import SuspicionMonitor.View
import Std.Data.ExtTreeMap

/-!
# Suspicion reports

A suspicion names a suspect, the reporter that accuses it, and the round and
phase in which it was late.  Suspicions are ordered by round, phase, kind,
suspect and reporter, in this order.

On the wire a suspicion takes fourteen bytes: suspect, kind, phase and round.
The reporter is not sent; it is whoever sent the payload.
-/

namespace SuspicionMonitor

structure Suspicion where
  round : Round
  phase : Phase
  kind : SuspicionKind
  suspect : ReplicaId
  reporter : ReplicaId
  deriving DecidableEq

namespace Suspicion

instance : Ord Suspicion :=
  ⟨compareLex (compareOn round)
    (compareLex (compareOn phase)
      (compareLex (compareOn kind)
        (compareLex (compareOn suspect) (compareOn reporter))))⟩

instance : Std.TransOrd Suspicion :=
  inferInstanceAs (Std.TransCmp (compareLex (compareOn round)
    (compareLex (compareOn phase)
      (compareLex (compareOn kind)
        (compareLex (compareOn suspect) (compareOn reporter))))))

instance : Std.LawfulEqOrd Suspicion where
  eq_of_compare := by
    intro first second h
    obtain ⟨hround, hphase, hkind, hsuspect, hreporter⟩ :
        compare first.round second.round = .eq ∧ compare first.phase second.phase = .eq ∧
          compare first.kind second.kind = .eq ∧ compare first.suspect second.suspect = .eq ∧
          compare first.reporter second.reporter = .eq := by
      change compareLex _ _ first second = .eq at h
      simpa only [compareLex, compareOn, Ordering.then_eq_eq] using h
    cases first
    cases second
    simp only [Std.LawfulEqOrd.compare_eq_iff_eq] at *
    simp_all

/-- Whether the reporter accuses itself. -/
def isSelfSuspicion (suspicion : Suspicion) : Bool :=
  suspicion.suspect == suspicion.reporter

def text (suspicion : Suspicion) : String :=
  toString suspicion.reporter.toNat ++ " suspects " ++ toString suspicion.suspect.toNat ++
    " of " ++ suspicion.kind.text ++ " in " ++ suspicion.phase.text ++
    " of consensus " ++ suspicion.round.text

/-- Size of an encoded suspicion in bytes. -/
def wireLength : Nat := 14

def encode (suspicion : Suspicion) : Bytes :=
  Bytes.ofNat 4 suspicion.suspect.toNat ++
    Bytes.ofNat 4 suspicion.kind.code.toUInt32.toNat ++
    Bytes.ofNat 2 suspicion.phase.code.toNat ++
    Bytes.ofNat 4 suspicion.round.toUInt32.toNat

/-- The suspicion that `reporter` sent as `bytes`.  The suspect is read as a
signed number and may not be negative. -/
def decode (bytes : Bytes) (reporter : ReplicaId) : Except DecodeError Suspicion :=
  let available := bytes.length
  if available < wireLength then
    .error (.truncated wireLength available)
  else if wireLength < available then
    .error (.trailingBytes (available - wireLength))
  else
    let suspect := Int32.ofNat (bytes.field 0 4).toNat
    let code := Int32.ofNat (bytes.field 4 4).toNat
    if suspect < 0 then
      .error (.negativeSuspect suspect.toInt)
    else
      match SuspicionKind.ofCode? code with
      | none => .error (.unknownKind code.toInt)
      | some kind =>
          .ok {
            round := Int32.ofNat (bytes.field 10 4).toNat
            phase := Phase.ofCode (UInt16.ofNat (bytes.field 8 2).toNat)
            kind
            suspect := suspect.toUInt32
            reporter
          }

end Suspicion

end SuspicionMonitor
