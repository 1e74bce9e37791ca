import SuspicionMonitor.Expectation
import SuspicionMonitor.Settings.Basic
import SuspicionMonitor.Suspicion
import Std.Data.ExtTreeMap
import Std.Data.ExtTreeSet

/-!
# The suspicion sensor

The sensor compares the arrival of every proposal and every vote with the
expected delay, and accuses the sender if the observation is too long by more
than the configured factor.  Before an expectation is installed it accuses
nobody.

A round whose proposal was late accuses nobody else in that round: once the
proposal is late every vote is late too.  In the same way late write votes
silence the accept votes.
-/

namespace SuspicionMonitor

structure Stage where
  round : Round
  phase : Phase
  deriving DecidableEq

namespace Stage

instance : Ord Stage := ⟨compareLex (compareOn round) (compareOn phase)⟩

instance : Std.TransOrd Stage :=
  inferInstanceAs (Std.TransCmp (compareLex (compareOn round) (compareOn phase)))

instance : Std.LawfulEqOrd Stage where
  eq_of_compare := by
    intro first second h
    obtain ⟨hround, hphase⟩ :
        compare first.round second.round = .eq ∧ compare first.phase second.phase = .eq := by
      change compareLex _ _ first second = .eq at h
      simpa only [compareLex, compareOn, Ordering.then_eq_eq] using h
    cases first
    cases second
    simp only [Std.LawfulEqOrd.compare_eq_iff_eq] at *
    simp_all

end Stage

def Phase.earlier : Phase → List Phase
  | propose => []
  | write => [propose]
  | accept => [propose, write]
  | unknown => [propose, write, accept]

structure Sensor where
  /-- What is expected, once the sensor is armed. -/
  expectation : Option Expectation := none
  /-- When the proposals of the latest rounds were sent. -/
  sent : Std.ExtTreeMap Round Nanos := ∅
  /-- The round whose votes are checked. -/
  currentRound : Option Round := none
  /-- The senders that were late, by stage. -/
  flagged : Std.ExtTreeMap Stage (Std.ExtTreeSet ReplicaId) := ∅
  /-- The last round whose proposal was late. -/
  lastDelayed : Option Round := none
  lastRequest : Option Nanos := none

/-- The outcome of checking a message.  A late one may come with an
accusation to publish. -/
structure Check where
  sensor : Sensor
  onTime : Bool
  accusation : Option Suspicion

/-- Whether delays in this round are expected because the group reconfigures
itself: one round of each interval is exempt. -/
def SensorSettings.exempts (settings : SensorSettings) (round : Round) : Bool :=
  0 < settings.calculationInterval &&
    round.toInt % settings.calculationInterval.toInt = settings.calculationDelay.toInt + 1

namespace Sensor

def empty : Sensor := {}

def isArmed (sensor : Sensor) : Bool := sensor.expectation.isSome

def expect (sensor : Sensor) (expectation : Expectation) : Sensor :=
  { sensor with expectation := some expectation }

def noteRequest (sensor : Sensor) (time : Nanos) : Sensor :=
  { sensor with lastRequest := some (match sensor.lastRequest with
      | none => time
      | some latest => max latest time) }

def isFlagged (sensor : Sensor) (stage : Stage) : Bool := sensor.flagged.contains stage

def flaggedAt (sensor : Sensor) (stage : Stage) : Std.ExtTreeSet ReplicaId :=
  (sensor.flagged[stage]?).getD ∅

def flag (sensor : Sensor) (stage : Stage) (sender : ReplicaId) : Sensor :=
  { sensor with
    flagged := sensor.flagged.insert stage ((sensor.flaggedAt stage).insert sender) }

/-- The lowest of the rounds. -/
def oldest? (sent : Std.ExtTreeMap Round Nanos) : Option Round := sent.keys.head?

def dropOldest : (count : Nat) → Std.ExtTreeMap Round Nanos → Std.ExtTreeMap Round Nanos
  | 0, sent => sent
  | count + 1, sent =>
      match oldest? sent with
      | none => sent
      | some oldest => dropOldest count (sent.erase oldest)

/-- Forgets all but the `history` highest rounds, and the flags below them. -/
def prune (sensor : Sensor) (history : Nat) : Sensor :=
  let sent := dropOldest (sensor.sent.size - history) sensor.sent
  match oldest? sent with
  | none => { sensor with sent }
  | some oldest =>
      { sensor with sent, flagged := sensor.flagged.filter fun stage _ => oldest ≤ stage.round }

def noteProposal (sensor : Sensor) (settings : SensorSettings) (round : Round) (sentAt : Nanos) :
    Sensor :=
  { sensor with
    sent := sensor.sent.insert round sentAt
    currentRound := some round }.prune settings.history.toNat

/-! ## Checks -/

/-- The accusation of a late sender, unless the round is exempt. -/
def accusation? (settings : SensorSettings) (self suspect : ReplicaId) (stage : Stage) :
    Option Suspicion :=
  if settings.exempts stage.round then
    none
  else
    some {
      round := stage.round
      phase := stage.phase
      kind := .slow
      suspect
      reporter := self
    }

def fine (sensor : Sensor) : Check := { sensor, onTime := true, accusation := none }

/-- Checks a proposal of `round` at time `now`.  It is late if it travelled
too long, or if it was sent too long after the previous one although a client
was waiting and the previous one was not late itself. -/
def checkProposal (sensor : Sensor) (settings : SensorSettings) (self : ReplicaId) (now : Nanos)
    (round : Round) (sender : ReplicaId) (sentAt : Nanos) : Check :=
  let sensor := sensor.noteProposal settings round sentAt
  match sensor.expectation with
  | none => sensor.fine
  | some expectation =>
      if round ≤ 0 || sender == self then
        sensor.fine
      else
        match sensor.sent[round.previous]? with
        | none => sensor.fine
        | some previousSentAt =>
            let roundTime := sentAt.minus previousSentAt
            let lateArrival :=
              (now.minus sentAt).exceeds expectation.propose settings.suspicionDelta
            let clientWaiting :=
              match sensor.lastRequest with
              | none => false
              | some time => now.minus time < roundTime
            let slowRound :=
              roundTime.exceeds expectation.round settings.suspicionDelta && clientWaiting &&
                sensor.lastDelayed != some round.previous
            if lateArrival || slowRound then
              let stage : Stage := ⟨round, .propose⟩
              { sensor := { sensor.flag stage sender with lastDelayed := some round }
                onTime := false
                accusation := accusation? settings self sender stage }
            else
              sensor.fine

/-- The expected arrival of `sender`'s vote; other phases are not checked. -/
def expectedArrival (expectation : Expectation) (phase : Phase) (sender : ReplicaId) :
    Option Nanos :=
  match phase with
  | .write => expectation.writeArrival[sender.toNat]?
  | .accept => expectation.acceptArrival[sender.toNat]?
  | .propose => none
  | .unknown => none

/-- Whether lateness of an earlier phase excuses votes at this stage. -/
def isExcused (sensor : Sensor) (stage : Stage) : Bool :=
  sensor.isFlagged ⟨stage.round, .propose⟩ ||
    (stage.phase = .accept && sensor.isFlagged ⟨stage.round, .write⟩)

/-- Checks a vote at time `now`, measured from the sending of the proposal.
A sender is accused once per stage. -/
def checkVote (sensor : Sensor) (settings : SensorSettings) (self : ReplicaId) (now : Nanos)
    (stage : Stage) (sender : ReplicaId) (sentAt : Nanos) : Check :=
  match sensor.expectation.bind (expectedArrival · stage.phase sender) with
  | none => sensor.fine
  | some expected =>
      if sender == self || sensor.currentRound != some stage.round || sensor.isExcused stage then
        sensor.fine
      else
        match sensor.sent[stage.round]? with
        | none => sensor.fine
        | some roundSentAt =>
            if sentAt < roundSentAt then
              sensor.fine
            else if (now.minus roundSentAt).exceeds expected settings.suspicionDelta then
              { sensor := sensor.flag stage sender
                onTime := false
                accusation :=
                  if (sensor.flaggedAt stage).contains sender then none
                  else accusation? settings self sender stage }
            else
              sensor.fine

/-- Whether an earlier phase of the round was seen late. -/
def corroborates (sensor : Sensor) (stage : Stage) : Bool :=
  stage.phase.earlier.any fun phase => sensor.isFlagged ⟨stage.round, phase⟩

/-- The answer to an accusation of slowness that nothing seen here explains. -/
def reply? (sensor : Sensor) (self : ReplicaId) (incoming : Suspicion) : Option Suspicion :=
  if sensor.isArmed && incoming.suspect == self && incoming.reporter != self &&
      incoming.kind = .slow && !sensor.corroborates ⟨incoming.round, incoming.phase⟩ then
    some {
      round := incoming.round
      phase := incoming.phase
      kind := .falseAccusation
      suspect := incoming.reporter
      reporter := self
    }
  else
    none

end Sensor

end SuspicionMonitor
