import SuspicionMonitor.Proofs.SensorHistories

/-!
# Published accusations

A check that finds its sender late outside the exempt rounds may publish a
report of slowness.  A vote is reported only the first time, because the sensor
remembers whom it has flagged at a stage: the memory of a sender goes only with
its round, and that round never returns.  A proposal is flagged but not looked
up, so it is reported as often as it is found late.
-/

namespace SuspicionMonitor

/-- What the suspicion is about. -/
def Suspicion.stage (suspicion : Suspicion) : Stage := ⟨suspicion.round, suspicion.phase⟩

namespace SensorCall

/-- The report that the call makes of its sender if that is late. -/
def report? (self : ReplicaId) : SensorCall → Option Suspicion
  | .checkProposal _ round sender _ => some ⟨round, .propose, .slow, sender, self⟩
  | .checkVote _ stage sender _ => some ⟨stage.round, stage.phase, .slow, sender, self⟩
  | _ => none

/-- The report of a call that finds its sender late outside the exempt rounds. -/
def lateReport? (call : SensorCall) (settings : SensorSettings) (self : ReplicaId)
    (check : Check) : Option Suspicion :=
  if check.onTime then none
  else (call.report? self).filter fun report => !settings.exempts report.round

end SensorCall

namespace Sensor

/-- The calls of a run, with what each of them comes to. -/
def trace (sensor : Sensor) (settings : SensorSettings) (self : ReplicaId) :
    List SensorCall → List (SensorCall × Check)
  | [] => []
  | call :: calls =>
      let check := sensor.perform settings self call
      (call, check) :: check.sensor.trace settings self calls

/-- A run that publishes its accusations. -/
def watch (sensor : Sensor) (settings : SensorSettings) (self : ReplicaId)
    (calls : List SensorCall) : Logged Sensor :=
  calls.foldlM (fun sensor call => do
    let (sensor, _) ← (sensor.perform settings self call).conclude self
    return sensor) sensor

def published (sensor : Sensor) (settings : SensorSettings) (self : ReplicaId)
    (calls : List SensorCall) : List Suspicion :=
  (sensor.trace settings self calls).filterMap fun entry => entry.2.accusation

def lateReports (sensor : Sensor) (settings : SensorSettings) (self : ReplicaId)
    (calls : List SensorCall) : List Suspicion :=
  (sensor.trace settings self calls).filterMap fun entry =>
    entry.1.lateReport? settings self entry.2

variable {sensor : Sensor} {settings : SensorSettings} {self sender other : ReplicaId}
  {stage checked : Stage} {round : Round} {sentAt : Nanos} {call : SensorCall}
  {calls : List SensorCall} {report : Suspicion}

theorem trace_concat (sensor : Sensor) (settings : SensorSettings) (self : ReplicaId)
    (calls : List SensorCall) (call : SensorCall) :
    sensor.trace settings self (calls ++ [call]) =
      sensor.trace settings self calls ++
        [(call, (sensor.after settings self calls).perform settings self call)] := by
  induction calls generalizing sensor with
  | nil => rfl
  | cons first calls ih =>
      rw [List.cons_append, trace, ih, trace, List.cons_append]
      rfl

theorem published_concat (sensor : Sensor) (settings : SensorSettings) (self : ReplicaId)
    (calls : List SensorCall) (call : SensorCall) :
    sensor.published settings self (calls ++ [call]) =
      sensor.published settings self calls ++
        ((sensor.after settings self calls).perform settings self call).accusation.toList := by
  rw [published, published, trace_concat, List.filterMap_append]
  cases haccusation : ((sensor.after settings self calls).perform settings self call).accusation <;>
    simp [haccusation]

theorem lateReports_concat (sensor : Sensor) (settings : SensorSettings) (self : ReplicaId)
    (calls : List SensorCall) (call : SensorCall) :
    sensor.lateReports settings self (calls ++ [call]) =
      sensor.lateReports settings self calls ++
        (call.lateReport? settings self
          ((sensor.after settings self calls).perform settings self call)).toList := by
  rw [lateReports, lateReports, trace_concat, List.filterMap_append]
  cases hlate : call.lateReport? settings self
      ((sensor.after settings self calls).perform settings self call) <;>
    simp [hlate]

theorem exists_perform_of_mem_trace {entry : SensorCall × Check}
    (hentry : entry ∈ sensor.trace settings self calls) :
    ∃ before : Sensor, entry.2 = before.perform settings self entry.1 := by
  induction calls generalizing sensor with
  | nil => contradiction
  | cons call calls ih =>
      rw [trace, List.mem_cons] at hentry
      rcases hentry with rfl | hlater
      · exact ⟨sensor, rfl⟩
      · exact ih hlater

theorem submissions_conclude (check : Check) (self : ReplicaId) :
    (check.conclude self).submissions =
      check.accusation.toList.map fun report => ⟨self, .suspicion, report.encode⟩ := by
  unfold Check.conclude
  cases check.accusation with
  | none => rfl
  | some report => rfl

theorem value_conclude (check : Check) (self : ReplicaId) :
    (check.conclude self).value = (check.sensor, check.onTime) := by
  unfold Check.conclude
  cases check.accusation with
  | none => rfl
  | some report => rfl

theorem submissions_watch (sensor : Sensor) (settings : SensorSettings) (self : ReplicaId)
    (calls : List SensorCall) :
    (sensor.watch settings self calls).submissions =
      (sensor.published settings self calls).map
        fun report => ⟨self, .suspicion, report.encode⟩ := by
  induction calls generalizing sensor with
  | nil => rfl
  | cons call calls ih =>
      have hrest := ih (sensor.perform settings self call).sensor
      have hfirst : sensor.published settings self (call :: calls) =
          (sensor.perform settings self call).accusation.toList ++
            (sensor.perform settings self call).sensor.published settings self calls := by
        rw [published, trace, List.filterMap_cons]
        cases (sensor.perform settings self call).accusation <;>
          simp [published]
      rw [watch] at hrest
      rw [watch, List.foldlM_cons, Logged.submissions_bind, Logged.submissions_bind,
        submissions_conclude, Logged.value_bind, value_conclude, hfirst, List.map_append, ← hrest]
      exact congrArg (· ++ _) (List.append_nil _)

theorem mem_flaggedAt_flag :
    other ∈ (sensor.flag stage sender).flaggedAt checked ↔
      (checked = stage ∧ other = sender) ∨ other ∈ sensor.flaggedAt checked := by
  unfold flaggedAt flag
  rw [Std.ExtTreeMap.getElem?_insert]
  by_cases hstage : stage = checked
  · subst hstage
    rw [if_pos (Std.LawfulEqOrd.compare_eq_iff_eq.mpr rfl), Option.getD_some,
      Std.ExtTreeSet.mem_insert, Std.LawfulEqOrd.compare_eq_iff_eq]
    simp [flaggedAt, eq_comm]
  · rw [if_neg (mt Std.LawfulEqOrd.compare_eq_iff_eq.mp hstage)]
    simp [Ne.symm hstage]

theorem isFlagged_of_mem_flaggedAt (hmem : sender ∈ sensor.flaggedAt stage) :
    sensor.isFlagged stage = true := by
  unfold flaggedAt at hmem
  cases hstage : sensor.flagged[stage]? with
  | none =>
      rw [hstage] at hmem
      exact absurd hmem Std.ExtTreeSet.not_mem_empty
  | some senders =>
      rw [isFlagged, Std.ExtTreeMap.contains_iff_mem, Std.ExtTreeMap.mem_iff_isSome_getElem?, hstage]
      rfl

theorem getElem?_flagged_prune {history : Nat} :
    (sensor.prune history).flagged[stage]? = none ∨
      (sensor.prune history).flagged[stage]? = sensor.flagged[stage]? := by
  unfold prune
  dsimp only
  split
  · exact Or.inr rfl
  · rw [Std.ExtTreeMap.getElem?_filter']
    cases sensor.flagged[stage]? with
    | none => exact Or.inl rfl
    | some senders =>
        rw [Option.filter_some]
        exact (ite_eq_or_eq ..).symm

/-- A stage that is pruned loses all its senders, any other none of them. -/
theorem mem_flaggedAt_prune {history : Nat} :
    sender ∈ (sensor.prune history).flaggedAt stage ↔
      (sensor.prune history).isFlagged stage = true ∧ sender ∈ sensor.flaggedAt stage := by
  have hlookup : (sensor.prune history).flagged[stage]? = none ∨
      (sensor.prune history).flagged[stage]? = sensor.flagged[stage]? := getElem?_flagged_prune
  unfold flaggedAt
  rcases hlookup with hnone | hsame
  · rw [isFlagged, Std.ExtTreeMap.contains_iff_mem, Std.ExtTreeMap.mem_iff_isSome_getElem?, hnone]
    simp
  · rw [hsame]
    refine ⟨fun hmem => ⟨?_, hmem⟩, And.right⟩
    have hkept : sender ∈ (sensor.prune history).flaggedAt stage := by rwa [flaggedAt, hsame]
    exact isFlagged_of_mem_flaggedAt hkept

/-- The sensor remembers that the sender was late at the stage, or the round is
gone. -/
structure IsRecorded (sensor : Sensor) (settings : SensorSettings) (stage : Stage)
    (sender : ReplicaId) : Prop where
  tidy : sensor.IsTidy settings
  recorded : sender ∈ sensor.flaggedAt stage ∨ sensor.IsBygone settings stage.round

theorem IsRecorded.of_memory {next : Sensor} (hrecorded : sensor.IsRecorded settings stage sender)
    (hsent : next.sent = sensor.sent) (hflagged : next.flagged = sensor.flagged) :
    next.IsRecorded settings stage sender := by
  refine ⟨hrecorded.tidy.of_memory hsent hflagged, ?_⟩
  rcases hrecorded.recorded with hmem | hbygone
  · left
    rw [flaggedAt, hflagged]
    exact hmem
  · right
    exact hbygone.of_sent hsent

theorem IsRecorded.noteProposal (hrecorded : sensor.IsRecorded settings stage sender)
    (round : Round) (sentAt : Nanos) :
    (sensor.noteProposal settings round sentAt).IsRecorded settings stage sender := by
  refine ⟨hrecorded.tidy.noteProposal round sentAt, ?_⟩
  rcases hrecorded.recorded with hmem | hbygone
  · by_cases hkept : (sensor.noteProposal settings round sentAt).isFlagged stage = true
    · exact Or.inl (mem_flaggedAt_prune.mpr ⟨hkept, hmem⟩)
    · exact Or.inr (hrecorded.tidy.isBygone_of_not_isFlagged (isFlagged_of_mem_flaggedAt hmem) hkept)
  · exact Or.inr (hbygone.noteProposal round sentAt)

theorem IsRecorded.flag (hrecorded : sensor.IsRecorded settings stage sender) (checked : Stage)
    (other : ReplicaId) (hround : checked.round ∈ sensor.sent) :
    (sensor.flag checked other).IsRecorded settings stage sender := by
  refine ⟨hrecorded.tidy.flag checked other hround, ?_⟩
  rcases hrecorded.recorded with hmem | hbygone
  · exact Or.inl (mem_flaggedAt_flag.mpr (Or.inr hmem))
  · exact Or.inr ⟨hbygone.full, hbygone.below⟩

theorem IsRecorded.perform (hrecorded : sensor.IsRecorded settings stage sender)
    (call : SensorCall) :
    (sensor.perform settings self call).sensor.IsRecorded settings stage sender :=
  perform_invariant IsRecorded.of_memory IsRecorded.noteProposal IsRecorded.flag hrecorded call

/-! ## Late reports -/

/-- What is known of a late report: it is about a sender that is another replica
and that the sensor flags, in a round that is not exempt.  Votes are only found
late in rounds of the window. -/
structure IsLateReport (sensor : Sensor) (settings : SensorSettings) (here : ReplicaId)
    (call : SensorCall) (report : Suspicion) : Prop where
  late : (sensor.perform settings here call).onTime = false
  made : call.report? here = some report
  kind : report.kind = .slow
  reporter : report.reporter = here
  suspect : report.suspect ≠ here
  exempt : settings.exempts report.round = false
  flagged : report.suspect ∈ (sensor.perform settings here call).sensor.flaggedAt report.stage
  kept : report.phase ≠ .propose → report.round ∈ sensor.sent

theorem isLateReport_of_eq (hlate : call.lateReport? settings self
      (sensor.perform settings self call) = some report) :
    sensor.IsLateReport settings self call report := by
  unfold SensorCall.lateReport? at hlate
  split at hlate
  · contradiction
  next honTime =>
    rw [Option.filter_eq_some_iff, Bool.not_eq_true'] at hlate
    rw [Bool.not_eq_true] at honTime
    obtain ⟨hmade, hexempt⟩ := hlate
    cases call with
    | expect expectation => contradiction
    | noteRequest time => contradiction
    | checkProposal now round sender sentAt =>
        rcases checkProposal_cases sensor settings self now round sender sentAt with
          hcheck | ⟨-, hsender, -, hcheck⟩
        · rw [perform, hcheck] at honTime
          contradiction
        · obtain rfl := Option.some.inj hmade
          refine ⟨honTime, rfl, rfl, rfl, hsender, hexempt, ?_, fun hphase => absurd rfl hphase⟩
          rw [perform, hcheck]
          exact mem_flaggedAt_flag.mpr (Or.inl ⟨rfl, rfl⟩)
    | checkVote now checked sender sentAt =>
        rcases checkVote_cases sensor settings self now checked sender sentAt with
          hcheck | ⟨-, hsender, -, -, hround, hcheck⟩
        · rw [perform, hcheck] at honTime
          contradiction
        · obtain rfl := Option.some.inj hmade
          refine ⟨honTime, rfl, rfl, rfl, hsender, hexempt, ?_, fun _ => hround⟩
          rw [perform, hcheck]
          exact mem_flaggedAt_flag.mpr (Or.inl ⟨rfl, rfl⟩)

/-- A late report is published, unless it is of a vote whose sender is flagged
already. -/
theorem accusation_perform :
    (sensor.perform settings self call).accusation =
      (call.lateReport? settings self (sensor.perform settings self call)).filter fun report =>
        report.phase = .propose || !(sensor.flaggedAt report.stage).contains report.suspect := by
  cases call with
  | expect expectation => rfl
  | noteRequest time => rfl
  | checkProposal now round sender sentAt =>
      rcases checkProposal_cases sensor settings self now round sender sentAt with
        hcheck | ⟨-, -, -, hcheck⟩
      · rw [perform, hcheck]
        rfl
      · rw [perform, hcheck, SensorCall.lateReport?, SensorCall.report?, accusation?]
        cases hexempt : settings.exempts round <;> simp [hexempt, Option.filter]
  | checkVote now checked sender sentAt =>
      rcases checkVote_cases sensor settings self now checked sender sentAt with
        hcheck | ⟨hphase, -, -, -, -, hcheck⟩
      · rw [perform, hcheck]
        rfl
      · rw [perform, hcheck, SensorCall.lateReport?, SensorCall.report?, accusation?]
        have hvote : checked.phase ≠ .propose := by
          rcases hphase with hphase | hphase <;> simp [hphase]
        cases hexempt : settings.exempts checked.round <;>
          cases hflagged : (sensor.flaggedAt checked).contains sender <;>
          simp [hexempt, hflagged, hvote, Option.filter, Suspicion.stage]

/-- Who is flagged was so before, or has just been found late. -/
theorem mem_flaggedAt_perform
    (hmem : sender ∈ (sensor.perform settings self call).sensor.flaggedAt stage) :
    sender ∈ sensor.flaggedAt stage ∨
      (sensor.perform settings self call).onTime = false ∧
        call.report? self = some ⟨stage.round, stage.phase, .slow, sender, self⟩ := by
  cases call with
  | expect expectation => exact Or.inl hmem
  | noteRequest time => exact Or.inl hmem
  | checkProposal now round sender sentAt =>
      rcases checkProposal_cases sensor settings self now round sender sentAt with
        hcheck | ⟨-, -, -, hcheck⟩
      · rw [perform, hcheck] at hmem
        exact Or.inl (mem_flaggedAt_prune.mp hmem).2
      · rw [perform, hcheck] at hmem
        rcases mem_flaggedAt_flag.mp hmem with ⟨rfl, rfl⟩ | hbefore
        · exact Or.inr ⟨by rw [perform, hcheck], rfl⟩
        · exact Or.inl (mem_flaggedAt_prune.mp hbefore).2
  | checkVote now checked sender sentAt =>
      rcases checkVote_cases sensor settings self now checked sender sentAt with
        hcheck | ⟨-, -, -, -, -, hcheck⟩
      · rw [perform, hcheck] at hmem
        exact Or.inl hmem
      · rw [perform, hcheck] at hmem
        rcases mem_flaggedAt_flag.mp hmem with ⟨rfl, rfl⟩ | hbefore
        · exact Or.inr ⟨by rw [perform, hcheck], rfl⟩
        · exact Or.inl hbefore

theorem isRecorded_of_mem_lateReports (hlate : report ∈ empty.lateReports settings self calls) :
    (empty.after settings self calls).IsRecorded settings report.stage report.suspect := by
  induction calls using List.reverseRecOn with
  | nil => contradiction
  | append_singleton calls call ih =>
      rw [lateReports_concat, List.mem_append, Option.mem_toList] at hlate
      rw [after_concat]
      rcases hlate with hbefore | hnow
      · exact (ih hbefore).perform call
      · have htidy : (empty.after settings self (calls ++ [call])).IsTidy settings :=
          (isTidy_empty settings).after (calls ++ [call])
        rw [after_concat] at htidy
        exact ⟨htidy, Or.inl (isLateReport_of_eq hnow).flagged⟩

theorem mem_lateReports_of_mem_flaggedAt (hkind : report.kind = .slow)
    (hreporter : report.reporter = self) (hexempt : settings.exempts report.round = false)
    (hmem : report.suspect ∈ (empty.after settings self calls).flaggedAt report.stage) :
    report ∈ empty.lateReports settings self calls := by
  induction calls using List.reverseRecOn with
  | nil => exact absurd hmem Std.ExtTreeSet.not_mem_empty
  | append_singleton calls call ih =>
      rw [after_concat] at hmem
      rw [lateReports_concat, List.mem_append, Option.mem_toList]
      rcases mem_flaggedAt_perform hmem with hbefore | ⟨hlate, hmade⟩
      · exact Or.inl (ih hbefore)
      · right
        have hsame : report = ⟨report.round, report.phase, .slow, report.suspect, self⟩ := by
          rw [← hkind, ← hreporter]
        rw [SensorCall.lateReport?, hlate, if_neg Bool.false_ne_true, hmade]
        simp [← hsame, Suspicion.stage, hexempt]

/-- When a vote is found late, its sender is flagged already exactly if it was
found late before: had the sensor forgotten the flag, it would not check the
round any more. -/
theorem IsLateReport.mem_flaggedAt_iff
    (hreport : (empty.after settings self calls).IsLateReport settings self call report)
    (hvote : report.phase ≠ .propose) :
    report.suspect ∈ (empty.after settings self calls).flaggedAt report.stage ↔
      report ∈ empty.lateReports settings self calls := by
  constructor
  · exact mem_lateReports_of_mem_flaggedAt hreport.kind hreport.reporter hreport.exempt
  · intro hbefore
    rcases (isRecorded_of_mem_lateReports hbefore).recorded with hmem | hbygone
    · exact hmem
    · exact absurd (hreport.kept hvote) hbygone.not_mem_sent

theorem count_accusation (sensor : Sensor) (settings : SensorSettings) (self : ReplicaId)
    (call : SensorCall) (report : Suspicion) :
    (sensor.perform settings self call).accusation.toList.count report =
      if report.phase = .propose ∨ report.suspect ∉ sensor.flaggedAt report.stage then
        (call.lateReport? settings self (sensor.perform settings self call)).toList.count report
      else 0 := by
  rw [accusation_perform, Option.toList_filter]
  split
  next hkept =>
    apply List.count_filter
    simpa [← Std.ExtTreeSet.contains_iff_mem] using hkept
  next hsilent =>
    refine List.count_eq_zero_of_not_mem fun hmem => hsilent ?_
    simpa [← Std.ExtTreeSet.contains_iff_mem] using (List.mem_filter.mp hmem).2

/-- A proposal is reported as often as it is found late, a vote once if it is
found late at all. -/
theorem count_published (settings : SensorSettings) (self : ReplicaId) (calls : List SensorCall)
    (report : Suspicion) :
    (empty.published settings self calls).count report =
      if report.phase = .propose then (empty.lateReports settings self calls).count report
      else min 1 ((empty.lateReports settings self calls).count report) := by
  induction calls using List.reverseRecOn with
  | nil => simp [published, lateReports, trace]
  | append_singleton calls call ih =>
      rw [published_concat, lateReports_concat, List.count_append, List.count_append, ih,
        count_accusation]
      by_cases hpropose : report.phase = .propose
      · simp [hpropose]
      · rw [if_neg hpropose, if_neg hpropose]
        by_cases hlate : call.lateReport? settings self
            ((empty.after settings self calls).perform settings self call) = some report
        · have hheld := (isLateReport_of_eq hlate).mem_flaggedAt_iff hpropose
          rw [hlate]
          by_cases hbefore : report ∈ empty.lateReports settings self calls
          · simp [hpropose, hheld, hbefore]
          · have hcount := List.count_eq_zero_of_not_mem hbefore
            simp [hpropose, hheld, hbefore, hcount]
        · have hnone := List.count_eq_zero_of_not_mem (mt Option.mem_toList.mp hlate)
          rw [hnone, ite_self, Nat.add_zero, Nat.add_zero]

/-- The reports that a run submits are all of slowness and about other replicas,
and each is made by a check that finds its sender late outside the exempt
rounds.  A vote is reported once if it is found late at all, but a proposal each
time that it is.  So a run repeats a report exactly if it finds a proposal of
one round and one sender late again. -/
theorem repeats_only_reports_of_proposals (settings : SensorSettings) (self : ReplicaId)
    (calls : List SensorCall) :
    let published := empty.published settings self calls
    let late := empty.lateReports settings self calls
    (empty.watch settings self calls).submissions =
        published.map (fun report => ⟨self, .suspicion, report.encode⟩) ∧
      (∀ entry ∈ empty.trace settings self calls, ∀ report, entry.2.accusation = some report →
        entry.2.onTime = false ∧ entry.1.report? self = some report ∧ report.kind = .slow ∧
          report.reporter = self ∧ report.suspect ≠ self ∧
          settings.exempts report.round = false) ∧
      (∀ report, published.count report =
        if report.phase = .propose then late.count report else min 1 (late.count report)) ∧
      (published.Nodup ↔ (late.filter fun report => report.phase = .propose).Nodup) := by
  intro published late
  have hcount := count_published settings self calls
  refine ⟨submissions_watch empty settings self calls, ?_, hcount, ?_⟩
  · intro entry hentry report haccusation
    obtain ⟨before, hcheck⟩ := exists_perform_of_mem_trace hentry
    rw [hcheck, accusation_perform, Option.filter_eq_some_iff] at haccusation
    have hreport := isLateReport_of_eq haccusation.1
    refine ⟨?_, hreport.made, hreport.kind, hreport.reporter, hreport.suspect, hreport.exempt⟩
    rw [hcheck]
    exact hreport.late
  · rw [List.nodup_iff_count_le_one, List.nodup_iff_count_le_one]
    refine forall_congr' fun report => ?_
    rw [hcount]
    by_cases hpropose : report.phase = .propose
    · rw [if_pos hpropose, List.count_filter (by simpa using hpropose)]
    · have hnone : (late.filter fun report => report.phase = .propose).count report = 0 :=
        List.count_eq_zero_of_not_mem fun hmem =>
          hpropose (by simpa using (List.mem_filter.mp hmem).2)
      rw [if_neg hpropose, hnone]
      exact iff_of_true (Nat.min_le_left _ _) (Nat.zero_le _)

/-- The proposal of the second round arrives late, and once more. -/
theorem proposal_found_late_again_is_reported_again :
    let calls := impatientCalls ++ [.checkProposal 100 2 1 0, .checkProposal 100 2 1 0]
    empty.published .standard 0 calls = [⟨2, .propose, .slow, 1, 0⟩, ⟨2, .propose, .slow, 1, 0⟩] ∧
      ¬ (empty.published .standard 0 calls).Nodup := by
  decide +kernel

end Sensor

end SuspicionMonitor
