import SuspicionMonitor.Proofs.Reconfiguration
import SuspicionMonitor.Proofs.Settling

/-!
# Suspicions that the ledger refuses

A ledger refuses a suspicion that it holds or whose round it has collected, and
goes on refusing it until the view changes.  Such a suspicion changes nothing.
The sensor, however, keeps no account of its answers: the replica disputes an
accusation that nothing it has seen explains as often as it is repeated.  No
harm comes of it, since nobody answers an answer.
-/

namespace SuspicionMonitor

namespace Ledger

variable {ledger : Ledger} {suspicion : Suspicion}

theorem isNew_eq_false_iff :
    ledger.isNew suspicion = false ↔
      suspicion ∈ ledger.held ∨ ledger.admits suspicion = false := by
  unfold isNew
  rw [Bool.and_eq_false_iff, Bool.not_eq_false', Std.ExtTreeSet.mem_iff_contains]
  exact or_comm

theorem store_of_refused (hrefused : ledger.isNew suspicion = false) :
    ledger.store suspicion = ledger := by
  unfold store
  rw [hrefused]
  exact if_neg Bool.false_ne_true

/-- No call takes back a refusal.  Collection removes what is held only together
with its round, which is not admitted afterwards. -/
theorem isNew_perform_eq_false (hrefused : ledger.isNew suspicion = false)
    (settings : LedgerSettings) (call : LedgerCall) :
    (ledger.perform settings call).value.isNew suspicion = false := by
  rw [isNew_eq_false_iff] at hrefused ⊢
  cases call with
  | store suspicions =>
      rw [value_perform_store, mem_held_foldl_store, admits_foldl_store]
      exact hrefused.imp_left Or.inl
  | build =>
      rw [value_perform_build_of_due]
      exact hrefused
  | decay round =>
      rw [value_perform_decay]
      split
      · exact hrefused
      · exact hrefused
  | collect low =>
      have hcollect : (ledger.perform settings (.collect low)).value =
          (ledger.collect low).value.1 := rfl
      rw [hcollect, mem_held_collect, ← Bool.not_eq_true, admits_collect]
      by_cases hlow : low ≤ suspicion.round
      · simpa [hlow] using hrefused
      · exact Or.inr fun hadmits => hlow hadmits.2

theorem isNew_run_eq_false (hrefused : ledger.isNew suspicion = false)
    (settings : LedgerSettings) (calls : List LedgerCall) :
    (ledger.run settings calls).value.isNew suspicion = false := by
  induction calls generalizing ledger with
  | nil => exact hrefused
  | cons call calls ih => exact ih (isNew_perform_eq_false hrefused settings call)

theorem isNew_notify_eq_false (hrefused : ledger.isNew suspicion = false) (sender : ReplicaId)
    (payload : Bytes) : (ledger.notify sender payload).value.isNew suspicion = false := by
  unfold notify
  cases Suspicion.decode payload sender with
  | error cause => exact hrefused
  | ok stored => exact isNew_perform_eq_false hrefused .standard (.store [stored])

end Ledger

/-- Whatever comes out of total order, short of a change of view. -/
theorem OrderedState.isNew_foldl_apply_eq_false {state : OrderedState} {suspicion : Suspicion}
    (hrefused : state.ledger.isNew suspicion = false) {calls : List ReplicaCall}
    (hkept : ∀ view, .reconfigure view ∉ calls) :
    (calls.foldl OrderedState.apply state).ledger.isNew suspicion = false := by
  induction calls generalizing state with
  | nil => exact hrefused
  | cons call calls ih =>
      refine ih ?_ fun view hlater => hkept view (List.mem_cons_of_mem call hlater)
      cases call with
      | deliver round values =>
          change (state.ledger.deliver state.settings.ledger round values).isNew suspicion = false
          rw [Ledger.deliver_eq_run]
          exact Ledger.isNew_run_eq_false hrefused _ _
      | notify sender payload => exact Ledger.isNew_notify_eq_false hrefused sender payload
      | reconfigure view => exact absurd List.mem_cons_self (hkept view)
      | _ => exact hrefused

/-! ## What a replica disputes -/

theorem Sensor.corroborates_eq_false_iff {sensor : Sensor} {stage : Stage} :
    sensor.corroborates stage = false ↔
      ∀ phase : Phase, phase.rank < stage.phase.rank →
        sensor.isFlagged ⟨stage.round, phase⟩ = false := by
  have hearlier : ∀ phase, phase ∈ stage.phase.earlier ↔ phase.rank < stage.phase.rank := by
    intro phase
    cases phase <;> cases stage.phase <;> decide
  simp only [corroborates, List.any_eq_false, hearlier, Bool.not_eq_true]

namespace Replica

/-- The suspicion accuses this replica of slowness, comes from another one, and
the armed sensor has seen nothing late that would explain it. -/
structure Disputes (replica : Replica) (suspicion : Suspicion) : Prop where
  armed : replica.sensor.isArmed = true
  accused : suspicion.suspect = replica.id
  accuser : suspicion.reporter ≠ replica.id
  slow : suspicion.kind = .slow
  unexplained : ∀ phase : Phase, phase.rank < suspicion.phase.rank →
    replica.sensor.isFlagged ⟨suspicion.round, phase⟩ = false

variable {replica : Replica} {suspicion : Suspicion} {sender : ReplicaId} {payload : Bytes}

theorem disputes_iff :
    replica.Disputes suspicion ↔
      (replica.sensor.isArmed && suspicion.suspect == replica.id &&
        suspicion.reporter != replica.id && suspicion.kind = .slow &&
        !replica.sensor.corroborates ⟨suspicion.round, suspicion.phase⟩) = true := by
  simp only [Bool.and_eq_true, beq_iff_eq, bne_iff_ne, decide_eq_true_eq, Bool.not_eq_true',
    Sensor.corroborates_eq_false_iff]
  constructor
  · rintro ⟨harmed, haccused, haccuser, hslow, hunexplained⟩
    exact ⟨⟨⟨⟨harmed, haccused⟩, haccuser⟩, hslow⟩, hunexplained⟩
  · rintro ⟨⟨⟨⟨harmed, haccused⟩, haccuser⟩, hslow⟩, hunexplained⟩
    exact ⟨harmed, haccused, haccuser, hslow, hunexplained⟩

theorem Disputes.reply?_eq (hdisputes : replica.Disputes suspicion) :
    replica.sensor.reply? replica.id suspicion = some suspicion.answer := by
  unfold Sensor.reply?
  rw [if_pos (disputes_iff.mp hdisputes), Suspicion.answer, hdisputes.accused]

theorem reply?_eq_none (hdisputes : ¬ replica.Disputes suspicion) :
    replica.sensor.reply? replica.id suspicion = none := by
  unfold Sensor.reply?
  exact if_neg fun hunexplained => hdisputes (disputes_iff.mpr hunexplained)

theorem submissions_notify_of_disputes (hread : Suspicion.decode payload sender = .ok suspicion)
    (hdisputes : replica.Disputes suspicion) :
    (replica.notify sender payload).submissions =
      [⟨replica.id, .suspicion, suspicion.answer.encode⟩] := by
  rw [submissions_notify, hread]
  dsimp only
  rw [hdisputes.reply?_eq]

theorem submissions_notify_of_not_disputes
    (hread : Suspicion.decode payload sender = .ok suspicion)
    (hdisputes : ¬ replica.Disputes suspicion) :
    (replica.notify sender payload).submissions = [] := by
  rw [submissions_notify, hread]
  dsimp only
  rw [reply?_eq_none hdisputes]

theorem value_notify_of_refused (hread : Suspicion.decode payload sender = .ok suspicion)
    (hrefused : replica.ledger.isNew suspicion = false) :
    (replica.notify sender payload).value = replica := by
  have hledger : (replica.ledger.notify sender payload).value = replica.ledger := by
    unfold Ledger.notify
    rw [hread]
    exact Ledger.store_of_refused hrefused
  rw [value_notify, hledger]

/-- An answer is not answered, whoever receives it and however it is read. -/
theorem submissions_receive_answer (receiver : Replica) (self : ReplicaId)
    (haccused : suspicion.suspect = self) :
    (receiver.receive ⟨self, .suspicion, suspicion.answer.encode⟩).submissions = [] := by
  have hunanswered : Submission.answer? ⟨self, .suspicion, suspicion.answer.encode⟩ = none :=
    Submission.answer?_eq_none_of_isFalseAccusation ⟨suspicion.answer, rfl, by rw [← haccused]; rfl⟩
  rw [submissions_receive]
  cases hanswer : receiver.answer? ⟨self, .suspicion, suspicion.answer.encode⟩ with
  | none => rfl
  | some answer =>
      rw [(answer?_eq_some hanswer).1] at hunanswered
      contradiction

/-- A suspicion that is refused now changes nothing, now and at the end of every
run without a change of view.  The replica publishes nothing when it is
repeated, unless it disputes the suspicion: then it publishes its one answer,
which nobody answers. -/
theorem refused_suspicion_is_at_most_disputed {replica : Replica} {suspicion : Suspicion}
    {sender : ReplicaId} {payload : Bytes} (hread : Suspicion.decode payload sender = .ok suspicion)
    (hrefused : replica.ledger.isNew suspicion = false) {calls : List ReplicaCall}
    (hkept : ∀ view, .reconfigure view ∉ replica.orderedCalls calls) :
    let reached := (replica.run calls).value.1
    let repeated := reached.notify sender payload
    repeated.value = reached ∧
      (¬ reached.Disputes suspicion → repeated.submissions = []) ∧
      (reached.Disputes suspicion →
        repeated.submissions = [⟨reached.id, .suspicion, suspicion.answer.encode⟩]) ∧
      ∀ answer ∈ repeated.submissions, ∀ receiver : Replica,
        (receiver.receive answer).submissions = [] := by
  intro reached repeated
  have hstill : reached.ledger.isNew suspicion = false := by
    have hstate := replica.orderedState_run calls
    have hledger : reached.ledger =
        ((replica.orderedCalls calls).foldl OrderedState.apply replica.orderedState).ledger :=
      congrArg OrderedState.ledger hstate
    rw [hledger]
    exact OrderedState.isNew_foldl_apply_eq_false hrefused hkept
  refine ⟨value_notify_of_refused hread hstill, submissions_notify_of_not_disputes hread,
    submissions_notify_of_disputes hread, ?_⟩
  intro answer hanswer receiver
  by_cases hdisputes : reached.Disputes suspicion
  · rw [submissions_notify_of_disputes hread hdisputes] at hanswer
    rw [List.mem_singleton.mp hanswer]
    exact submissions_receive_answer receiver reached.id hdisputes.accused
  · rw [submissions_notify_of_not_disputes hread hdisputes] at hanswer
    contradiction

/-- An accusation that was stored is still disputed long after its round has
been collected. -/
theorem collected_accusation_is_disputed_among_four :
    let view : View := ⟨4, 1, by decide⟩
    let accusation : Suspicion := ⟨7, .write, .slow, 1, 3⟩
    let accused : Replica :=
      { fresh 1 view .standard with
        sensor := Sensor.empty.expect (.missing 4)
        ledger := (Ledger.empty view).store accusation }
    let calls : List ReplicaCall :=
      [.reconfigure ⟨1, 0, by decide⟩, .notify 3 accusation.encode, .deliver 2000 [], .setLeader 2]
    let reached := (accused.run calls).value.1
    let repeated := reached.notify 3 accusation.encode
    (Suspicion.decode accusation.encode 3 = .ok accusation ∧
      accused.ledger.isNew accusation = false ∧
      ∀ view, .reconfigure view ∉ accused.orderedCalls calls) ∧
    (accusation ∉ reached.ledger.held ∧ reached.Disputes accusation) ∧
    repeated.value = reached ∧
      (¬ reached.Disputes accusation → repeated.submissions = []) ∧
      (reached.Disputes accusation →
        repeated.submissions = [⟨reached.id, .suspicion, accusation.answer.encode⟩]) ∧
      ∀ answer ∈ repeated.submissions, ∀ receiver : Replica,
        (receiver.receive answer).submissions = [] := by
  intro view accusation accused calls reached repeated
  have hread : Suspicion.decode accusation.encode 3 = .ok accusation := by decide +kernel
  have hrefused : accused.ledger.isNew accusation = false := by decide +kernel
  have hordered : accused.orderedCalls calls =
      [.notify 3 accusation.encode, .deliver 2000 []] := rfl
  have hkept : ∀ view, .reconfigure view ∉ accused.orderedCalls calls := by
    intro view
    rw [hordered]
    simp
  have hdisputes : reached.Disputes accusation := disputes_iff.mpr (by decide +kernel)
  refine ⟨⟨hread, hrefused, hkept⟩, ⟨by decide +kernel, hdisputes⟩, ?_⟩
  exact refused_suspicion_is_at_most_disputed hread hrefused hkept

/-- A replica that has armed its sensor among four answers an accusation, and
answers it again when it is repeated, although its ledger holds it. -/
theorem held_accusation_is_answered_among_four :
    let view : View := ⟨4, 1, by decide⟩
    let report := (LatencyVector.ofWrite [5, 6, 7, 8]).encode
    let accusation : Suspicion := ⟨7, .write, .slow, 1, 3⟩
    ∃ first, ofSettings 1 view .simulation = .ok first ∧
      let reached := (first.run
        [.deliver 1 [⟨0, .latency, report⟩, ⟨1, .latency, report⟩, ⟨2, .latency, report⟩],
          .refreshExpectation 0, .notify 3 accusation.encode]).value.1
      Suspicion.decode accusation.encode 3 = .ok accusation ∧
        accusation ∈ reached.ledger.held ∧ reached.ledger.isNew accusation = false ∧
        (reached.notify 3 accusation.encode).submissions ≠ [] := by
  intro view report accusation
  refine ⟨fresh 1 view .simulation, ?_, ?_⟩
  · rw [ofSettings, show Settings.simulation.invalid? = none by decide +kernel]
    rfl
  · intro reached
    exact ⟨by decide +kernel, by decide +kernel, by decide +kernel, by decide +kernel⟩

end Replica

end SuspicionMonitor
