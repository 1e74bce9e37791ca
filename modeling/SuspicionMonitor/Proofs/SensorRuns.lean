import SuspicionMonitor.Sensor
import Mathlib.Tactic

/-!
# Runs of a sensor

Between two clearings a sensor checks proposals and votes, is told what to
expect, and hears of requests, in any order and about any rounds.  A check
leaves the sensor as it is, or with one flag more.  Rounds are forgotten from
below: those that a window has dropped lie below all that it keeps.  So every
flag belongs to a round of the window, and goes together with it.
-/

namespace SuspicionMonitor

theorem Round.toInt_previous {round : Round} (hpositive : 0 < round) :
    round.previous.toInt = round.toInt - 1 := by
  rw [Int32.lt_iff_toInt_lt] at hpositive
  have hzero : Int32.toInt 0 = 0 := rfl
  have hone : Int32.toInt 1 = 1 := rfl
  have hmin := Int32.toInt_minValue
  have hupper := round.toInt_le
  unfold Round.previous Round.minus
  rw [hone, Int32.toInt_ofIntClamp (by omega) (by omega)]

theorem Round.not_lt_previous {round : Round} (hpositive : 0 < round) : ¬round < round.previous := by
  rw [Int32.lt_iff_toInt_lt, Round.toInt_previous hpositive]
  omega

inductive SensorCall where
  | expect (expectation : Expectation)
  | noteRequest (time : Nanos)
  | checkProposal (now : Nanos) (round : Round) (sender : ReplicaId) (sentAt : Nanos)
  | checkVote (now : Nanos) (stage : Stage) (sender : ReplicaId) (sentAt : Nanos)

namespace Sensor

/-- What a call comes to; those that check nothing find nothing late. -/
def perform (sensor : Sensor) (settings : SensorSettings) (self : ReplicaId) :
    SensorCall → Check
  | .expect expectation => (sensor.expect expectation).fine
  | .noteRequest time => (sensor.noteRequest time).fine
  | .checkProposal now round sender sentAt =>
      sensor.checkProposal settings self now round sender sentAt
  | .checkVote now stage sender sentAt => sensor.checkVote settings self now stage sender sentAt

def after (sensor : Sensor) (settings : SensorSettings) (self : ReplicaId)
    (calls : List SensorCall) : Sensor :=
  calls.foldl (fun sensor call => (sensor.perform settings self call).sensor) sensor

section Window

variable {count : Nat} {sent : Std.ExtTreeMap Round Nanos} {round kept : Round}

theorem oldest?_eq_none_iff : oldest? sent = none ↔ sent = ∅ := by
  rw [oldest?, ← Std.ExtTreeMap.minKey?_eq_head?_keys, Std.ExtTreeMap.minKey?_eq_none_iff]

theorem oldest?_eq_some_iff :
    oldest? sent = some round ↔
      round ∈ sent ∧ ∀ kept ∈ sent, (compare round kept).isLE = true := by
  rw [oldest?, ← Std.ExtTreeMap.minKey?_eq_head?_keys,
    Std.ExtTreeMap.minKey?_eq_some_iff_mem_and_forall]

theorem mem_of_mem_dropOldest (hkept : round ∈ dropOldest count sent) : round ∈ sent := by
  induction count generalizing sent with
  | zero => exact hkept
  | succ count ih =>
      unfold dropOldest at hkept
      split at hkept
      · exact hkept
      · exact (Std.ExtTreeMap.mem_erase.mp (ih hkept)).2

theorem size_dropOldest (count : Nat) (sent : Std.ExtTreeMap Round Nanos) :
    (dropOldest count sent).size = sent.size - count := by
  induction count generalizing sent with
  | zero => rfl
  | succ count ih =>
      unfold dropOldest
      split
      next hnone =>
        rw [oldest?_eq_none_iff.mp hnone, Std.ExtTreeMap.size_empty, Nat.zero_sub]
      next oldest holdest =>
        have hmem : sent.contains oldest = true :=
          (oldest?_eq_some_iff.mp holdest).1
        rw [ih, Std.ExtTreeMap.size_erase, if_pos hmem]
        omega

/-- What has been dropped lies below all that is kept. -/
theorem lt_of_not_mem_dropOldest (hround : round ∈ sent) (hdropped : round ∉ dropOldest count sent)
    (hkept : kept ∈ dropOldest count sent) : round < kept := by
  induction count generalizing sent with
  | zero => exact absurd hround hdropped
  | succ count ih =>
      unfold dropOldest at hdropped hkept
      split at hdropped
      · exact absurd hround hdropped
      next oldest holdest =>
        simp only [holdest] at hkept
        by_cases hfirst : compare oldest round = .eq
        · -- The oldest round itself: what is kept is another one, and no round is older.
          rw [Std.LawfulEqOrd.compare_eq_iff_eq] at hfirst
          obtain ⟨hne, hmem⟩ := Std.ExtTreeMap.mem_erase.mp (mem_of_mem_dropOldest hkept)
          have hle : (compare oldest kept).isLE = true :=
            (oldest?_eq_some_iff.mp holdest).2 kept hmem
          rw [← Std.compare_eq_lt, ← hfirst]
          cases hcompare : compare oldest kept with
          | lt => rfl
          | eq => exact absurd hcompare hne
          | gt => rw [hcompare] at hle; contradiction
        · exact ih (Std.ExtTreeMap.mem_erase.mpr ⟨hfirst, hround⟩) hdropped hkept

theorem exists_not_mem_dropOldest (hcount : 0 < count) (hsent : 0 < sent.size) :
    ∃ dropped ∈ sent, dropped ∉ dropOldest count sent := by
  obtain ⟨fewer, rfl⟩ := Nat.exists_eq_succ_of_ne_zero hcount.ne'
  cases holdest : oldest? sent with
  | none =>
      rw [oldest?_eq_none_iff.mp holdest, Std.ExtTreeMap.size_empty] at hsent
      exact absurd hsent (lt_irrefl 0)
  | some oldest =>
      refine ⟨oldest, (oldest?_eq_some_iff.mp holdest).1, ?_⟩
      unfold dropOldest
      simp only [holdest]
      intro hkept
      exact (Std.ExtTreeMap.mem_erase.mp (mem_of_mem_dropOldest hkept)).1
        (Std.LawfulEqOrd.compare_eq_iff_eq.mpr rfl)

end Window

variable {sensor : Sensor} {settings : SensorSettings} {self sender : ReplicaId}
  {stage other : Stage} {round : Round} {now sentAt : Nanos}

theorem isFlagged_flag :
    (sensor.flag stage sender).isFlagged other = true ↔
      other = stage ∨ sensor.isFlagged other = true := by
  unfold isFlagged flag
  rw [Std.ExtTreeMap.contains_insert, Bool.or_eq_true, beq_iff_eq,
    Std.LawfulEqOrd.compare_eq_iff_eq, eq_comm]

theorem sent_prune (sensor : Sensor) (history : Nat) :
    (sensor.prune history).sent = dropOldest (sensor.sent.size - history) sensor.sent := by
  unfold prune
  dsimp only
  split <;> rfl

/-- A flag goes if all rounds that are kept, and there are some, lie above its
round. -/
theorem isFlagged_prune {history : Nat} :
    (sensor.prune history).isFlagged stage = true ↔
      sensor.isFlagged stage = true ∧
        ((sensor.prune history).sent.size = 0 ∨
          ∃ kept ∈ (sensor.prune history).sent, kept ≤ stage.round) := by
  rw [sent_prune]
  unfold prune
  dsimp only
  split
  next hnone =>
    rw [oldest?_eq_none_iff.mp hnone]
    simp [isFlagged]
  next oldest holdest =>
    obtain ⟨hmem, hleast⟩ := oldest?_eq_some_iff.mp holdest
    have hsize : (dropOldest (sensor.sent.size - history) sensor.sent).size ≠ 0 := by
      intro hzero
      rw [← Std.ExtTreeMap.eq_empty_iff_size_eq_zero] at hzero
      rw [hzero] at hmem
      exact Std.ExtTreeMap.not_mem_empty hmem
    simp only [isFlagged, Std.ExtTreeMap.contains_iff_mem, Std.ExtTreeMap.mem_filter, hsize, false_or,
      decide_eq_true_eq, Std.ExtTreeMap.getKey_eq, exists_prop]
    refine and_congr_right fun _ => ⟨fun hle => ⟨oldest, hmem, hle⟩, ?_⟩
    rintro ⟨kept, hkept, hle⟩
    exact Int32.le_trans (Std.isLE_compare.mp (hleast kept hkept)) hle

theorem mem_sent_noteProposal {kept : Round}
    (hkept : kept ∈ (sensor.noteProposal settings round sentAt).sent) :
    kept = round ∨ kept ∈ sensor.sent := by
  rw [noteProposal, sent_prune] at hkept
  have hinserted := Std.ExtTreeMap.mem_insert.mp (mem_of_mem_dropOldest hkept)
  rwa [Std.LawfulEqOrd.compare_eq_iff_eq, eq_comm] at hinserted

/-- A late proposal comes after one of the round before, and has its round
flagged. -/
theorem checkProposal_cases (sensor : Sensor) (settings : SensorSettings) (self : ReplicaId)
    (now : Nanos) (round : Round) (sender : ReplicaId) (sentAt : Nanos) :
    let noted := sensor.noteProposal settings round sentAt
    let check := sensor.checkProposal settings self now round sender sentAt
    check = noted.fine ∨
      0 < round ∧ sender ≠ self ∧ round.previous ∈ noted.sent ∧
        check = {
          sensor := { noted.flag ⟨round, .propose⟩ sender with lastDelayed := some round }
          onTime := false
          accusation := accusation? settings self sender ⟨round, .propose⟩ } := by
  intro noted check
  have hcheck : check = sensor.checkProposal settings self now round sender sentAt := rfl
  unfold checkProposal at hcheck
  dsimp only at hcheck
  split at hcheck
  · exact Or.inl hcheck
  · split at hcheck
    · exact Or.inl hcheck
    next hchecked =>
      simp only [Bool.or_eq_true, decide_eq_true_eq, beq_iff_eq, not_or, Int32.not_le] at hchecked
      split at hcheck
      · exact Or.inl hcheck
      next previousSentAt hprevious =>
        have hmem : round.previous ∈ noted.sent :=
          Std.ExtTreeMap.mem_iff_isSome_getElem?.mpr (Option.isSome_of_eq_some hprevious)
        rcases ite_eq_or_eq .. |>.imp hcheck.trans hcheck.trans with hlate | hfine
        · exact Or.inr ⟨hchecked.1, hchecked.2, hmem, hlate⟩
        · exact Or.inl hfine

/-- A late vote is one of the current round that nothing earlier excuses, and
has its stage flagged. -/
theorem checkVote_cases (sensor : Sensor) (settings : SensorSettings) (self : ReplicaId)
    (now : Nanos) (stage : Stage) (sender : ReplicaId) (sentAt : Nanos) :
    let check := sensor.checkVote settings self now stage sender sentAt
    check = sensor.fine ∨
      (stage.phase = .write ∨ stage.phase = .accept) ∧ sender ≠ self ∧
        sensor.currentRound = some stage.round ∧ sensor.isExcused stage = false ∧
        stage.round ∈ sensor.sent ∧
        check = {
          sensor := sensor.flag stage sender
          onTime := false
          accusation :=
            if (sensor.flaggedAt stage).contains sender then none
            else accusation? settings self sender stage } := by
  intro check
  have hcheck : check = sensor.checkVote settings self now stage sender sentAt := rfl
  unfold checkVote at hcheck
  split at hcheck
  · exact Or.inl hcheck
  next expected hexpected =>
    obtain ⟨expectation, -, harrival⟩ := Option.bind_eq_some_iff.mp hexpected
    have hphase : stage.phase = .write ∨ stage.phase = .accept := by
      unfold expectedArrival at harrival
      split at harrival <;> simp_all
    split at hcheck
    · exact Or.inl hcheck
    next hchecked =>
      simp only [Bool.or_eq_true, beq_iff_eq, bne_iff_ne, not_or, ne_eq, not_not,
        Bool.not_eq_true] at hchecked
      obtain ⟨⟨hsender, hcurrent⟩, hexcused⟩ := hchecked
      split at hcheck
      · exact Or.inl hcheck
      next roundSentAt hsent =>
        split at hcheck
        · exact Or.inl hcheck
        · split at hcheck
          · have hmem : stage.round ∈ sensor.sent :=
              Std.ExtTreeMap.mem_iff_isSome_getElem?.mpr (Option.isSome_of_eq_some hsent)
            exact Or.inr ⟨hphase, hsender, hcurrent, hexcused, hmem, hcheck⟩
          · exact Or.inl hcheck

/-- The window is no longer than the history, and all flags are about rounds
within it. -/
structure IsTidy (sensor : Sensor) (settings : SensorSettings) : Prop where
  size : sensor.sent.size ≤ settings.history.toNat
  flagged : ∀ stage, sensor.isFlagged stage = true → stage.round ∈ sensor.sent

theorem isTidy_empty (settings : SensorSettings) : empty.IsTidy settings := by
  constructor
  · simp [empty]
  · intro stage hflagged
    simp [isFlagged, empty] at hflagged

theorem size_sent_noteProposal (sensor : Sensor) (settings : SensorSettings) (round : Round)
    (sentAt : Nanos) :
    (sensor.noteProposal settings round sentAt).sent.size =
      min (sensor.sent.insert round sentAt).size settings.history.toNat := by
  rw [noteProposal, sent_prune, size_dropOldest]
  dsimp only
  omega

/-- A flag whose round is dropped goes with it, because all that is kept lies
above. -/
theorem IsTidy.noteProposal (htidy : sensor.IsTidy settings) (round : Round) (sentAt : Nanos) :
    (sensor.noteProposal settings round sentAt).IsTidy settings := by
  constructor
  · rw [size_sent_noteProposal]
    exact Nat.min_le_right _ _
  · intro stage hflagged
    obtain ⟨hbefore, hkept⟩ := isFlagged_prune.mp hflagged
    have hretained : stage.round ∈ sensor.sent := htidy.flagged stage hbefore
    have hinserted : stage.round ∈ sensor.sent.insert round sentAt :=
      Std.ExtTreeMap.mem_insert.mpr (Or.inr hretained)
    rcases hkept with hnone | ⟨kept, hkept, hle⟩
    · -- Nothing is kept, so there is no room for a round, and none was flagged.
      rw [← Sensor.noteProposal, size_sent_noteProposal] at hnone
      have hpositive : 0 < (sensor.sent.insert round sentAt).size := by
        rw [Nat.pos_iff_ne_zero, ne_eq, ← Std.ExtTreeMap.eq_empty_iff_size_eq_zero]
        intro hempty
        rw [hempty] at hinserted
        exact Std.ExtTreeMap.not_mem_empty hinserted
      have hhistory : sensor.sent.size = 0 := by have := htidy.size; omega
      rw [← Std.ExtTreeMap.eq_empty_iff_size_eq_zero] at hhistory
      rw [hhistory] at hretained
      exact absurd hretained Std.ExtTreeMap.not_mem_empty
    · by_contra hdropped
      rw [Sensor.noteProposal, sent_prune] at hdropped
      rw [sent_prune] at hkept
      have hlt := lt_of_not_mem_dropOldest hinserted hdropped hkept
      exact Int32.not_le.mpr hlt hle

theorem IsTidy.flag (htidy : sensor.IsTidy settings) (stage : Stage) (sender : ReplicaId)
    (hround : stage.round ∈ sensor.sent) : (sensor.flag stage sender).IsTidy settings := by
  constructor
  · exact htidy.size
  · intro other hflagged
    rcases isFlagged_flag.mp hflagged with rfl | hbefore
    · exact hround
    · exact htidy.flagged other hbefore

/-- A round is only checked together with the one before, so it lies within the
window if that one does. -/
theorem mem_sent_of_previous (hpositive : 0 < round)
    (hprevious : round.previous ∈ (sensor.noteProposal settings round sentAt).sent) :
    round ∈ (sensor.noteProposal settings round sentAt).sent := by
  by_contra hdropped
  rw [noteProposal, sent_prune] at hprevious hdropped
  have hinserted : round ∈ sensor.sent.insert round sentAt := Std.ExtTreeMap.mem_insert_self
  have hlt : round < round.previous := lt_of_not_mem_dropOldest hinserted hdropped hprevious
  exact absurd hlt (Round.not_lt_previous hpositive)

/-! ## Invariants

A property of the window and the flags that noting a proposal and flagging a
round of the window keep is kept by all calls. -/

section Invariants

variable {P : Sensor → Prop}
  (hmemory : ∀ {before next : Sensor}, P before →
    next.sent = before.sent → next.flagged = before.flagged → P next)
  (hnote : ∀ {before : Sensor}, P before →
    ∀ (round : Round) (sentAt : Nanos), P (before.noteProposal settings round sentAt))
  (hflag : ∀ {before : Sensor}, P before →
    ∀ (stage : Stage) (sender : ReplicaId),
      stage.round ∈ before.sent → P (before.flag stage sender))

include hmemory hnote hflag

theorem perform_invariant (hsensor : P sensor) (call : SensorCall) :
    P (sensor.perform settings self call).sensor := by
  cases call with
  | expect expectation => exact hmemory hsensor rfl rfl
  | noteRequest time => exact hmemory hsensor rfl rfl
  | checkProposal now round sender sentAt =>
      have hnoted : P (sensor.noteProposal settings round sentAt) := hnote hsensor round sentAt
      rcases checkProposal_cases sensor settings self now round sender sentAt with
        hfine | ⟨hpositive, -, hprevious, hlate⟩
      · rw [perform, hfine]
        exact hnoted
      · rw [perform, hlate]
        have hround := mem_sent_of_previous hpositive hprevious
        exact hmemory (hflag hnoted ⟨round, .propose⟩ sender hround) rfl rfl
  | checkVote now stage sender sentAt =>
      rcases checkVote_cases sensor settings self now stage sender sentAt with
        hfine | ⟨-, -, -, -, hround, hlate⟩
      · rw [perform, hfine]
        exact hsensor
      · rw [perform, hlate]
        exact hflag hsensor stage sender hround

theorem after_invariant (hsensor : P sensor) (calls : List SensorCall) :
    P (sensor.after settings self calls) := by
  induction calls generalizing sensor with
  | nil => exact hsensor
  | cons call calls ih => exact ih (perform_invariant hmemory hnote hflag hsensor call)

end Invariants

theorem IsTidy.of_memory {next : Sensor} (htidy : sensor.IsTidy settings)
    (hsent : next.sent = sensor.sent) (hflagged : next.flagged = sensor.flagged) :
    next.IsTidy settings := by
  constructor
  · rw [hsent]
    exact htidy.size
  · intro stage hstage
    rw [isFlagged, hflagged] at hstage
    rw [hsent]
    exact htidy.flagged stage hstage

theorem IsTidy.after (htidy : sensor.IsTidy settings) (calls : List SensorCall) :
    (sensor.after settings self calls).IsTidy settings :=
  after_invariant IsTidy.of_memory IsTidy.noteProposal IsTidy.flag htidy calls

end Sensor

end SuspicionMonitor
