import SuspicionMonitor.Proofs.ProposalVerdicts
import SuspicionMonitor.Proofs.PublishedAccusations
import SuspicionMonitor.Proofs.ScaledDurations
import SuspicionMonitor.Proofs.ValidSettings

/-!
# Missing expectations

Where a latency is missing the sensor expects a very long time, of eleven days,
and so it should never find anybody late.  It does so only as long as it sees
shorter times: the expectation is compared as the number it is.  No check fails
in a run all of whose times lie within that span, under any valid settings, and
this is as far as it goes.
-/

namespace SuspicionMonitor

namespace Expectation

/-- Whether nothing is known of any delay. -/
structure IsMissing (expectation : Expectation) : Prop where
  round : expectation.round = Nanos.missing
  propose : expectation.propose = Nanos.missing
  writeArrival : ∀ arrival ∈ expectation.writeArrival, arrival = Nanos.missing
  acceptArrival : ∀ arrival ∈ expectation.acceptArrival, arrival = Nanos.missing

theorem isMissing_missing (n : Nat) : (missing n).IsMissing := by
  constructor
  · rfl
  · rfl
  · exact fun arrival harrival => List.eq_of_mem_replicate harrival
  · exact fun arrival harrival => List.eq_of_mem_replicate harrival

end Expectation

/-- The times that the call compares with other ones. -/
def SensorCall.times : SensorCall → List Nanos
  | .expect _ => []
  | .noteRequest _ => []
  | .checkProposal now _ _ sentAt => [now, sentAt]
  | .checkVote now _ _ _ => [now]

namespace Nanos

theorem minus_le {later earlier : Nanos} {limit : ℕ} (hspan : later.toInt - earlier.toInt ≤ limit)
    (hrange : limit < 2 ^ 63) : (later.minus earlier).toInt ≤ limit := by
  have hmin := Int64.toInt_minValue
  have hmax := Int64.toInt_maxValue
  unfold minus Int64.ofIntClamp
  split
  · rw [dif_pos (by omega), Int64.toInt_ofIntLE]
    exact hspan
  · omega

/-- A duration that exceeds a missing expectation is longer than that. -/
theorem lt_of_exceeds_missing {later earlier : Nanos} {factor : Float} (hfactor : 1.0 < factor)
    (hexceeds : (later.minus earlier).exceeds missing factor = true) :
    1000000000000000 < later.toInt - earlier.toInt := by
  by_contra hspan
  have hle : later.minus earlier ≤ missing :=
    Int64.le_iff_toInt_le.mpr (minus_le (Int.not_lt.mp hspan) (by decide))
  rw [not_exceeds_of_le hle (by decide) (by decide) hfactor] at hexceeds
  contradiction

end Nanos

namespace Sensor

variable {sensor : Sensor} {settings : SensorSettings} {self sender : ReplicaId} {stage : Stage}
  {round : Round} {now sentAt : Nanos} {calls : List SensorCall} {call : SensorCall}

/-! ## Late checks -/

theorem onTime_checkVote_eq_false_iff :
    (sensor.checkVote settings self now stage sender sentAt).onTime = false ↔
      ∃ expectation expected roundSentAt, sensor.expectation = some expectation ∧
        expectedArrival expectation stage.phase sender = some expected ∧ sender ≠ self ∧
        sensor.currentRound = some stage.round ∧ sensor.isExcused stage = false ∧
        sensor.sent[stage.round]? = some roundSentAt ∧ roundSentAt ≤ sentAt ∧
        (now.minus roundSentAt).exceeds expected settings.suspicionDelta = true := by
  unfold checkVote
  cases sensor.expectation with
  | none => simp [fine]
  | some expectation =>
      rw [Option.bind_some]
      cases hexpected : expectedArrival expectation stage.phase sender with
      | none => simp [hexpected, fine]
      | some expected =>
          dsimp only
          by_cases hchecked : sender ≠ self ∧ sensor.currentRound = some stage.round ∧
              sensor.isExcused stage = false
          · have hopen : (sender == self || sensor.currentRound != some stage.round ||
                sensor.isExcused stage) = false := by
              simpa [and_assoc] using hchecked
            rw [hopen, if_neg Bool.false_ne_true]
            cases sensor.sent[stage.round]? with
            | none => simp [fine]
            | some roundSentAt =>
                simp [hexpected, hchecked, apply_ite Check.onTime, fine, Int64.not_lt]
          · have hclosed : (sender == self || sensor.currentRound != some stage.round ||
                sensor.isExcused stage) = true := by
              simpa [or_iff_not_imp_left] using hchecked
            rw [hclosed, if_pos rfl]
            constructor
            · intro hlate
              contradiction
            · rintro ⟨-, -, -, -, -, hsender, hcurrent, hexcused, -⟩
              exact absurd ⟨hsender, hcurrent, hexcused⟩ hchecked

theorem expectedArrival_eq_missing {expectation : Expectation} {expected : Nanos} {phase : Phase}
    (hmissing : expectation.IsMissing)
    (hexpected : expectedArrival expectation phase sender = some expected) :
    expected = Nanos.missing := by
  unfold expectedArrival at hexpected
  split at hexpected
  · exact hmissing.writeArrival _ (List.mem_of_getElem? hexpected)
  · exact hmissing.acceptArrival _ (List.mem_of_getElem? hexpected)
  · contradiction
  · contradiction

theorem Keeps.mem_times (hkeeps : sensor.Keeps settings (proposals calls))
    (hsent : sensor.sent[round]? = some sentAt) : sentAt ∈ calls.flatMap SensorCall.times := by
  obtain ⟨call, hcall, hproposal⟩ := List.mem_filterMap.mp (hkeeps.mem_sendings hsent)
  refine List.mem_flatMap.mpr ⟨call, hcall, ?_⟩
  cases call with
  | expect expectation => contradiction
  | noteRequest time => contradiction
  | checkProposal now other sender time =>
      obtain ⟨-, rfl⟩ := Prod.mk.inj (Option.some.inj hproposal)
      exact List.mem_cons_of_mem _ List.mem_cons_self
  | checkVote now stage sender time => contradiction

theorem isMissing_of_expectation
    (hmissing : ∀ expectation, .expect expectation ∈ calls → expectation.IsMissing)
    {expectation : Expectation}
    (hexpectation : (empty.after settings self calls).expectation = some expectation) :
    expectation.IsMissing := by
  rw [expectation_after] at hexpectation
  obtain ⟨call, hcall, hinstalled⟩ :=
    List.mem_filterMap.mp (List.mem_of_getLast? hexpectation)
  cases call with
  | expect installed =>
      rw [Option.some.inj hinstalled] at hcall
      exact hmissing expectation hcall
  | noteRequest time => contradiction
  | checkProposal now round sender sentAt => contradiction
  | checkVote now stage sender sentAt => contradiction

/-- If all that is expected is missing, a check that fails compares times that
are further apart than that. -/
theorem exists_times_of_late (hdelta : 1.0 < settings.suspicionDelta)
    (hmissing : ∀ expectation, .expect expectation ∈ calls → expectation.IsMissing)
    (hlate : ((empty.after settings self calls).perform settings self call).onTime = false) :
    ∃ earlier ∈ (calls ++ [call]).flatMap SensorCall.times,
      ∃ later ∈ (calls ++ [call]).flatMap SensorCall.times,
        1000000000000000 < later.toInt - earlier.toInt := by
  have hkeeps := keeps_after settings self calls
  have hown : ∀ time ∈ call.times, time ∈ (calls ++ [call]).flatMap SensorCall.times := by
    intro time htime
    exact List.mem_flatMap.mpr ⟨call, List.mem_concat_self, htime⟩
  have hold : ∀ time ∈ calls.flatMap SensorCall.times,
      time ∈ (calls ++ [call]).flatMap SensorCall.times := by
    intro time htime
    rw [List.flatMap_append]
    exact List.mem_append_left _ htime
  cases call with
  | expect expectation => contradiction
  | noteRequest time => contradiction
  | checkProposal now round sender sentAt =>
      obtain ⟨expectation, previousSentAt, hexpectation, -, -, hsent, hlong⟩ :=
        onTime_checkProposal_eq_false_iff.mp hlate
      have hnothing := isMissing_of_expectation hmissing hexpectation
      have hsentAt := hown sentAt (List.mem_cons_of_mem _ List.mem_cons_self)
      rcases hlong with harrival | ⟨hround, -⟩
      · rw [hnothing.propose] at harrival
        exact ⟨sentAt, hsentAt, now, hown now List.mem_cons_self,
          Nanos.lt_of_exceeds_missing hdelta harrival⟩
      · have hnoted : ((empty.after settings self calls).noteProposal settings round sentAt).Keeps
            settings (proposals (calls ++ [.checkProposal now round sender sentAt])) := by
          rw [proposals, List.filterMap_append]
          exact hkeeps.noteProposal round sentAt
        rw [hnothing.round] at hround
        exact ⟨previousSentAt, hnoted.mem_times hsent, sentAt, hsentAt,
          Nanos.lt_of_exceeds_missing hdelta hround⟩
  | checkVote now stage sender sentAt =>
      obtain ⟨expectation, expected, roundSentAt, hexpectation, harrival, -, -, -, hsent, -, hlong⟩ :=
        onTime_checkVote_eq_false_iff.mp hlate
      have hnothing := isMissing_of_expectation hmissing hexpectation
      rw [expectedArrival_eq_missing hnothing harrival] at hlong
      exact ⟨roundSentAt, hold roundSentAt (hkeeps.mem_times hsent), now,
        hown now List.mem_cons_self, Nanos.lt_of_exceeds_missing hdelta hlong⟩

/-- Whether the times that the calls compare lie at most `limit` nanoseconds
apart. -/
def LieWithin (calls : List SensorCall) (limit : ℕ) : Prop :=
  ∀ earlier ∈ calls.flatMap SensorCall.times, ∀ later ∈ calls.flatMap SensorCall.times,
    later.toInt - earlier.toInt ≤ limit

theorem conclude_perform_of_onTime (hdone : (sensor.perform settings self call).onTime = true) :
    (sensor.perform settings self call).conclude self =
      pure ((sensor.perform settings self call).sensor, true) := by
  have hnone : (sensor.perform settings self call).accusation = none := by
    rw [accusation_perform, SensorCall.lateReport?, if_pos hdone]
    rfl
  rw [Check.conclude, hnone, hdone]

/-- The tolerance just above one. -/
def strictSettings : Settings :=
  { Settings.standard with sensor := { SensorSettings.standard with
      suspicionDelta := 1.0000000000000002 } }

/-- The calls of a replica that knows nothing and sees the proposal of the first
round. -/
def ignorantCalls : List SensorCall := [.expect (.missing 4), .checkProposal 0 1 1 0]

theorem isMissing_of_mem_ignorantCalls {expectation : Expectation}
    (hinstalled : .expect expectation ∈ ignorantCalls) : expectation.IsMissing := by
  rcases List.mem_cons.mp hinstalled with hfirst | hsecond
  · rw [SensorCall.expect.inj hfirst]
    exact Expectation.isMissing_missing 4
  · contradiction

/-- The proposal of the second round, sent together with that of the first. -/
def secondProposal (now : Nanos) : SensorCall := .checkProposal now 2 1 0

theorem lieWithin_ignorantCalls {limit : ℕ} (hlimit : 1000000000000000 < limit) :
    LieWithin (ignorantCalls ++ [secondProposal 1000000000000001]) limit := by
  have htimes : (ignorantCalls ++ [secondProposal 1000000000000001]).flatMap SensorCall.times =
      [0, 0, 1000000000000001, 0] := rfl
  have hrange (time : Nanos) (htime : time ∈ [0, 0, 1000000000000001, 0]) :
      0 ≤ Int64.toInt time ∧ Int64.toInt time ≤ 1000000000000001 := by
    obtain rfl | rfl : time = 0 ∨ time = 1000000000000001 := by simpa [or_comm] using htime
    · exact ⟨by decide, by decide⟩
    · exact ⟨by decide, by decide⟩
  rw [LieWithin, htimes]
  intro earlier hearlier later hlater
  have hfirst := hrange earlier hearlier
  have hlast := hrange later hlater
  omega

/-- If all that is expected since the last clearing is missing, every check
succeeds and nothing is published, under all valid settings, exactly as long as
the times compared lie within the time that stands for a missing one. -/
theorem missing_expectations_accuse_nobody_iff (limit : ℕ) :
    (∀ (settings : Settings) (self : ReplicaId) (events : List SensorEvent) (call : SensorCall),
      let calls := sinceClear events
      let check := (empty.afterEvents settings.sensor self events).perform settings.sensor self call
      settings.invalid? = none →
        (∀ expectation, .expect expectation ∈ calls → expectation.IsMissing) →
        LieWithin (calls ++ [call]) limit →
        check.conclude self = pure (check.sensor, true)) ↔
      limit ≤ 1000000000000000 := by
  constructor
  · intro hnever
    by_contra hlong
    have hvalid : strictSettings.invalid? = none := by decide +kernel
    have hconclude := hnever strictSettings 0 (ignorantCalls.map .call)
      (secondProposal 1000000000000001) hvalid
      (fun expectation hinstalled => isMissing_of_mem_ignorantCalls hinstalled)
      (lieWithin_ignorantCalls (Nat.not_le.mp hlong))
    have hlate : ((empty.afterEvents strictSettings.sensor 0 (ignorantCalls.map .call)).perform
        strictSettings.sensor 0 (secondProposal 1000000000000001)).onTime = false := by
      decide +kernel
    have hvalue := congrArg (fun logged => logged.value.2) hconclude
    rw [value_conclude] at hvalue
    exact absurd hvalue (by simp [hlate])
  · intro hshort settings self events call calls check hvalid hmissing hwithin
    have hcheck : check = (empty.after settings.sensor self calls).perform settings.sensor self call :=
      congrArg (fun sensor => perform sensor settings.sensor self call)
        (afterEvents_eq settings.sensor self events)
    rw [hcheck]
    apply conclude_perform_of_onTime
    by_contra hlate
    rw [Bool.not_eq_true] at hlate
    obtain ⟨earlier, hearlier, later, hlater, hlong⟩ :=
      exists_times_of_late (Settings.invalid?_eq_none_iff.mp hvalid).suspicionDelta hmissing hlate
    have hspan := hwithin earlier hearlier later hlater
    omega

/-- A proposal that took twenty-three days is late although nothing was
expected. -/
theorem missing_expectation_accuses :
    let events : List SensorEvent := ignorantCalls.map .call
    let check := (empty.afterEvents .standard 0 events).perform .standard 0
      (secondProposal 2000000000000000)
    Settings.standard.invalid? = none ∧
      (∀ expectation, .expect expectation ∈ sinceClear events → expectation.IsMissing) ∧
      check.onTime = false ∧ check.accusation = some ⟨2, .propose, .slow, 1, 0⟩ := by
  intro events check
  exact ⟨by decide +kernel,
    fun expectation hinstalled => isMissing_of_mem_ignorantCalls hinstalled,
    by decide +kernel, by decide +kernel⟩

end Sensor

end SuspicionMonitor
