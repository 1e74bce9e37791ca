import SuspicionMonitor.Proofs.CandidateFloor
import SuspicionMonitor.Proofs.Deliveries
import SuspicionMonitor.Proofs.SuspicionCodec
import SuspicionMonitor.Simulation.Scenario

/-!
# Settling

What replicas submit during a delivery waits for the next one, so settling ends
only if they stop answering each other.  They do at once: a value is answered
by its suspect alone, with a report of another kind, and such reports are not
answered at all.
-/

namespace SuspicionMonitor

/-- What the suspect answers an accusation with, if it does. -/
def Suspicion.answer (suspicion : Suspicion) : Suspicion where
  round := suspicion.round
  phase := suspicion.phase
  kind := .falseAccusation
  suspect := suspicion.reporter
  reporter := suspicion.suspect

theorem Sensor.reply?_eq_some_iff {sensor : Sensor} {self : ReplicaId}
    {incoming reply : Suspicion} :
    sensor.reply? self incoming = some reply ↔
      sensor.isArmed = true ∧ incoming.suspect = self ∧ incoming.reporter ≠ self ∧
        incoming.kind = .slow ∧
        sensor.corroborates ⟨incoming.round, incoming.phase⟩ = false ∧
        reply = { round := incoming.round
                  phase := incoming.phase
                  kind := .falseAccusation
                  suspect := incoming.reporter
                  reporter := self } := by
  unfold reply?
  rw [Option.ite_none_right_eq_some]
  simp only [Bool.and_eq_true, beq_iff_eq, bne_iff_ne, decide_eq_true_eq, Bool.not_eq_true',
    Option.some.injEq, and_assoc, eq_comm (b := reply)]

theorem Sensor.reply?_eq_some {sensor : Sensor} {self : ReplicaId} {incoming reply : Suspicion}
    (hreply : sensor.reply? self incoming = some reply) :
    incoming.kind = .slow ∧ incoming.suspect = self ∧ reply = incoming.answer := by
  obtain ⟨-, hsuspect, -, hslow, -, hanswer⟩ := reply?_eq_some_iff.mp hreply
  refine ⟨hslow, hsuspect, ?_⟩
  rw [hanswer, Suspicion.answer, hsuspect]

namespace Submission

def isSlowness (value : Submission) : Bool := value.suspicion?.any (·.kind = .slow)

/-- A report of a false accusation, as some replica submits it. -/
def IsFalseAccusation (value : Submission) : Prop :=
  ∃ suspicion : Suspicion, suspicion.kind = .falseAccusation ∧
    value = ⟨suspicion.reporter, .suspicion, suspicion.encode⟩

/-- The one answer that the value can get: a value that accuses somebody of
slowness may be answered by its suspect. -/
def answer? (value : Submission) : Option Submission :=
  value.suspicion?.bind fun suspicion =>
    if suspicion.kind = .slow then
      some ⟨suspicion.suspect, .suspicion, suspicion.answer.encode⟩
    else
      none

variable {value answer : Submission}

theorem answer?_eq_some : value.answer? = some answer ↔
    ∃ suspicion, value.suspicion? = some suspicion ∧ suspicion.kind = .slow ∧
      answer = ⟨suspicion.suspect, .suspicion, suspicion.answer.encode⟩ := by
  simp only [answer?, Option.bind_eq_some_iff, Option.ite_none_right_eq_some, Option.some.injEq,
    eq_comm (a := answer)]

theorem length_answers (values : List Submission) :
    (values.filterMap answer?).length = values.countP isSlowness := by
  rw [List.length_filterMap_eq_countP]
  congr 1
  funext value
  unfold answer? isSlowness
  cases value.suspicion? with
  | none => rfl
  | some suspicion => by_cases hslow : suspicion.kind = .slow <;> simp [hslow]

theorem isFalseAccusation_of_answer? (hanswer : value.answer? = some answer) :
    answer.IsFalseAccusation := by
  obtain ⟨suspicion, -, -, rfl⟩ := answer?_eq_some.mp hanswer
  exact ⟨suspicion.answer, rfl, rfl⟩

/-- Reading may lose the suspect of a report, but not what it claims. -/
theorem answer?_eq_none_of_isFalseAccusation (hvalue : value.IsFalseAccusation) :
    value.answer? = none := by
  obtain ⟨suspicion, hkind, rfl⟩ := hvalue
  unfold answer? suspicion?
  dsimp only
  rw [Suspicion.decode_encode]
  split
  · simp [Except.toOption, hkind]
  · rfl

end Submission

/-- Whether a value comes from somebody or from one of the others. -/
theorem Submission.filter_sender_perm {id : ReplicaId} {ids : List ReplicaId} (hfresh : id ∉ ids)
    (values : List Submission) :
    (values.filter (·.sender == id) ++ values.filter fun value => value.sender ∈ ids).Perm
      (values.filter fun value => value.sender ∈ id :: ids) := by
  refine List.Perm.trans (List.Perm.of_eq ?_) (List.filter_append_perm (·.sender == id) _)
  rw [List.filter_filter, List.filter_filter]
  congr 1
  · apply List.filter_congr
    intro value _
    by_cases hsender : value.sender = id <;> simp [hsender]
  · apply List.filter_congr
    intro value _
    by_cases hsender : value.sender = id
    · simp only [hsender, hfresh, beq_self_eq_true, Bool.not_true, Bool.false_and, decide_false]
    · simp [hsender]

namespace Replica

theorem answer?_eq_some {replica : Replica} {value answer : Submission}
    (hanswer : replica.answer? value = some answer) :
    value.answer? = some answer ∧ answer.sender = replica.id := by
  simp only [answer?, Option.bind_eq_some_iff, Option.map_eq_some_iff] at hanswer
  obtain ⟨suspicion, hvalue, reply, hreply, rfl⟩ := hanswer
  obtain ⟨hslow, hsuspect, rfl⟩ := Sensor.reply?_eq_some hreply
  exact ⟨Submission.answer?_eq_some.mpr ⟨suspicion, hvalue, hslow, by rw [hsuspect]⟩, rfl⟩

theorem answers_sublist (replica : Replica) (values : List Submission) :
    (values.filterMap replica.answer?).Sublist
      ((values.filterMap Submission.answer?).filter (·.sender == replica.id)) := by
  induction values with
  | nil => exact List.Sublist.refl _
  | cons value values ih =>
      cases hanswer : replica.answer? value with
      | none =>
          rw [List.filterMap_cons_none hanswer]
          exact ih.trans (((List.sublist_cons_self value values).filterMap _).filter _)
      | some answer =>
          obtain ⟨hvalue, hsender⟩ := answer?_eq_some hanswer
          rw [List.filterMap_cons_some hanswer, List.filterMap_cons_some hvalue,
            List.filter_cons_of_pos (by simp [hsender])]
          exact ih.cons_cons answer

/-- Replicas with different ids answer different values, each at most once. -/
theorem answers_subperm {replicas : List Replica} (hids : (replicas.map Replica.id).Nodup)
    (values : List Submission) :
    (replicas.flatMap fun replica => values.filterMap replica.answer?).Subperm
      (values.filterMap Submission.answer?) := by
  let answers := values.filterMap Submission.answer?
  suffices hmembers : (replicas.flatMap fun replica => values.filterMap replica.answer?).Subperm
      (answers.filter fun answer => answer.sender ∈ replicas.map Replica.id) from
    hmembers.trans List.filter_sublist.subperm
  induction replicas with
  | nil => exact List.nil_subperm
  | cons replica replicas ih =>
      rw [List.map_cons, List.nodup_cons] at hids
      have hsplit := Submission.filter_sender_perm hids.1 answers
      rw [List.flatMap_cons]
      exact ((replica.answers_sublist values).subperm.append (ih hids.2)).trans hsplit.subperm

theorem id_deliver (replica : Replica) (round : Round) (values : List Submission) :
    (replica.deliver round values).value.id = replica.id := by
  rw [value_deliver]

theorem id_respond (replica : Replica) (call : ReplicaCall) :
    (replica.respond call).value.1.id = replica.id := by
  cases call with
  | deliver round values => exact replica.id_deliver round values
  | notify sender payload =>
      have hnext : (replica.respond (.notify sender payload)).value.1 =
          (replica.notify sender payload).value := rfl
      rw [hnext, value_notify]
  | reconfigure view =>
      rw [value_respond_reconfigure]
      by_cases hmember : view.contains replica.id = true
      · rw [value_reconfigure_of_contains hmember]
      · rw [value_reconfigure_of_not_contains hmember]
  | refreshExpectation leader =>
      simp only [respond, refreshExpectation, Logged.value_bind]
      split <;> rfl
  | checkProposal | checkVote | noteRequest | recordPropose | recordWrite | disseminate
  | setLeader | candidateSet | checkInitialized | predict => rfl

end Replica

/-! ## Clusters -/

/-- Another entry that looks the same through `f` makes no difference to `f`. -/
theorem map_set_eq_map {α β : Type} {f : α → β} {entries : List α} {position : Nat} {entry next : α}
    (hentry : entries[position]? = some entry) (hsame : f next = f entry) :
    (entries.set position next).map f = entries.map f := by
  obtain ⟨hlt, rfl⟩ := List.getElem?_eq_some_iff.mp hentry
  have hplace : position < (entries.map f).length := by rwa [List.length_map]
  have hlisted : f entries[position] = (entries.map f)[position] := by rw [List.getElem_map]
  rw [List.map_set, hsame, hlisted, List.set_getElem_self]

namespace Cluster

def ids (cluster : Cluster) : List ReplicaId := cluster.replicas.map Replica.id

theorem ids_deliver (cluster : Cluster) : cluster.deliver.value.1.ids = cluster.ids := by
  unfold ids
  rw [value_deliver, List.map_map]
  exact List.map_congr_left fun replica _ =>
    replica.id_deliver cluster.nextRound cluster.pending

theorem value_settleWithin_succ (cluster : Cluster) (limit : Nat) :
    (cluster.settleWithin (limit + 1)).value =
      if cluster.pending.isEmpty then (cluster, 0)
      else
        ((cluster.deliver.value.1.settleWithin limit).value.1,
          (cluster.deliver.value.1.settleWithin limit).value.2 + 1) := by
  rw [settleWithin]
  split <;> rfl

theorem value_settleWithin_of_pending {cluster : Cluster} (hpending : cluster.pending = [])
    (limit : Nat) : (cluster.settleWithin limit).value = (cluster, 0) := by
  cases limit with
  | zero => rfl
  | succ limit => rw [value_settleWithin_succ, hpending, List.isEmpty_nil, if_pos rfl]

variable {cluster : Cluster}

theorem pending_deliver_subperm (hids : cluster.ids.Nodup) :
    cluster.deliver.value.1.pending.Subperm (cluster.pending.filterMap Submission.answer?) := by
  rw [value_deliver]
  exact Replica.answers_subperm hids cluster.pending

theorem isFalseAccusation_of_mem_pending_deliver (hids : cluster.ids.Nodup)
    {value : Submission} (hvalue : value ∈ cluster.deliver.value.1.pending) :
    value.IsFalseAccusation := by
  obtain ⟨earlier, -, hanswer⟩ :=
    List.mem_filterMap.mp ((pending_deliver_subperm hids).subset hvalue)
  exact Submission.isFalseAccusation_of_answer? hanswer

/-- The second delivery brings answers only, and these are not answered. -/
theorem pending_deliver_deliver (hids : cluster.ids.Nodup) :
    cluster.deliver.value.1.deliver.value.1.pending = [] := by
  have hnext : cluster.deliver.value.1.ids.Nodup := by rwa [cluster.ids_deliver]
  have hnone : cluster.deliver.value.1.pending.filterMap Submission.answer? = [] := by
    rw [List.filterMap_eq_nil_iff]
    intro value hvalue
    exact Submission.answer?_eq_none_of_isFalseAccusation
      (isFalseAccusation_of_mem_pending_deliver hids hvalue)
  have hanswers := pending_deliver_subperm hnext
  rw [hnone] at hanswers
  exact List.subperm_nil.mp hanswers

theorem settleWithin_two (hids : cluster.ids.Nodup) (limit : Nat) :
    (cluster.settleWithin (limit + 2)).value.1.pending = [] ∧
      (cluster.settleWithin (limit + 2)).value.2 ≤ 2 := by
  rw [value_settleWithin_succ]
  split
  next hempty => exact ⟨List.isEmpty_iff.mp hempty, Nat.zero_le 2⟩
  rw [value_settleWithin_succ]
  split
  next hempty => exact ⟨List.isEmpty_iff.mp hempty, Nat.le_succ 1⟩
  rw [value_settleWithin_of_pending (pending_deliver_deliver hids)]
  exact ⟨pending_deliver_deliver hids, le_refl 2⟩

end Cluster

namespace Cluster

variable {view : View} {settings : Settings}

theorem eq_map_fresh_of_mapM {ids : List ReplicaId} {replicas : List Replica}
    (hreplicas : ids.mapM (Replica.ofSettings · view settings) = .ok replicas) :
    replicas = ids.map fun id => Replica.fresh id view settings := by
  induction ids generalizing replicas with
  | nil => exact (Except.ok.inj hreplicas).symm
  | cons id ids ih =>
      rw [List.mapM_cons] at hreplicas
      cases hfirst : Replica.ofSettings id view settings with
      | error error => simp [hfirst, bind, Except.bind] at hreplicas
      | ok replica =>
          cases hrest : ids.mapM (Replica.ofSettings · view settings) with
          | error error => simp [hfirst, hrest, bind, Except.bind] at hreplicas
          | ok rest =>
              simp only [hfirst, hrest, bind, Except.bind, pure, Except.pure,
                Except.ok.injEq] at hreplicas
              rw [← hreplicas, ih hrest, Replica.eq_fresh_of_ofSettings hfirst, List.map_cons]

theorem eq_of_ofSettings {cluster : Cluster}
    (hcluster : ofSettings view settings = .ok cluster) :
    cluster = { replicas := view.replicas.map fun id => Replica.fresh id view settings } := by
  unfold ofSettings at hcluster
  cases hreplicas : view.replicas.mapM (Replica.ofSettings · view settings) with
  | error error => simp [hreplicas, bind, Except.bind] at hcluster
  | ok replicas =>
      simp only [hreplicas, bind, Except.bind, pure, Except.pure, Except.ok.injEq] at hcluster
      rw [← hcluster, eq_map_fresh_of_mapM hreplicas]

theorem mapM_ofSettings {ids : List ReplicaId} (hvalid : settings.invalid? = none)
    (hids : ∀ id ∈ ids, view.contains id = true) :
    ids.mapM (Replica.ofSettings · view settings) =
      .ok (ids.map fun id => Replica.fresh id view settings) := by
  induction ids with
  | nil => rfl
  | cons id ids ih =>
      have hfirst : Replica.ofSettings id view settings = .ok (.fresh id view settings) := by
        rw [Replica.ofSettings, hvalid]
        exact if_pos (hids id List.mem_cons_self)
      have hrest := ih fun other hother => hids other (List.mem_cons_of_mem id hother)
      rw [List.mapM_cons, hfirst, hrest]
      rfl

theorem ofSettings_of_valid (hvalid : settings.invalid? = none) :
    ofSettings view settings =
      .ok { replicas := view.replicas.map fun id => Replica.fresh id view settings } := by
  rw [ofSettings, mapM_ofSettings hvalid fun _ => View.contains_of_mem_replicas]
  rfl

theorem nodup_ids_of_ofSettings {cluster : Cluster}
    (hcluster : ofSettings view settings = .ok cluster) : cluster.ids.Nodup := by
  have hids : cluster.ids = view.replicas := by
    rw [eq_of_ofSettings hcluster, ids, List.map_map]
    exact List.map_id view.replicas
  rw [hids]
  exact view.nodup_replicas

end Cluster

/-! ## Scenarios -/

/-- What may happen to a scenario: its own steps, values that anybody submits,
and calls to single replicas. -/
inductive ScenarioCall (σ : Type) where
  | arm
  | accuse (liars : Nat) (source : σ)
  | submit (value : Submission)
  | deliver
  | settle
  | ask (position : Nat) (call : ReplicaCall)

namespace Scenario

variable {σ : Type} [WordSource σ]

def withPending (scenario : Scenario) (pending : List Submission) : Scenario :=
  { scenario with cluster := { scenario.cluster with pending } }

def perform (scenario : Scenario) : ScenarioCall σ → Scenario
  | .arm => scenario.arm.value.1
  | .accuse liars source => (scenario.accuse liars source).value.1
  | .submit value => scenario.withPending (scenario.cluster.pending ++ [value])
  | .deliver => { scenario with cluster := scenario.cluster.deliver.value.1 }
  | .settle => scenario.settle.value.1
  | .ask position call =>
      { scenario with
        cluster := (scenario.cluster.onReplica position fun replica =>
          replica.respond call).value.1 }

def after (scenario : Scenario) (calls : List (ScenarioCall σ)) : Scenario :=
  calls.foldl perform scenario

/-- What a liar submits. -/
def Accusation.submission (accusation : Accusation) : Submission :=
  ⟨accusation.liar, .suspicion, (Accusation.suspicion accusation).encode⟩

theorem value_foldlM_publish (accusations : List Accusation) (cluster : Cluster) :
    (accusations.foldlM (fun (cluster : Cluster) accusation =>
      cluster.publish accusation.liar (Accusation.suspicion accusation)) cluster).value =
      { cluster with pending := cluster.pending ++ accusations.map Accusation.submission } := by
  induction accusations generalizing cluster with
  | nil => simp
  | cons accusation accusations ih =>
      have hnext : (cluster.publish accusation.liar (Accusation.suspicion accusation)).value =
          { cluster with
            pending := cluster.pending ++ [Accusation.submission accusation] } := rfl
      rw [List.foldlM_cons, Logged.value_bind, ih, hnext, List.map_cons, List.append_assoc,
        List.singleton_append]

theorem value_accuse (scenario : Scenario) (liars : Nat) (source : σ) :
    (scenario.accuse liars source).value =
      let accusations := (drawAccusations scenario.view.n liars source).1
      (scenario.withPending
        (scenario.cluster.pending ++ accusations.map Accusation.submission), accusations) := by
  unfold accuse
  obtain ⟨accusations, rest⟩ := drawAccusations scenario.view.n liars source
  simp only [Logged.value_bind, Logged.value_pure, value_foldlM_publish]
  rfl

theorem id_recordUniform (write propose : Nanos) (replica : Replica) (peers : List ReplicaId) :
    (Cluster.recordUniform write propose replica peers).id = replica.id := by
  unfold Cluster.recordUniform
  induction peers generalizing replica with
  | nil => rfl
  | cons peer peers ih =>
      rw [List.foldl_cons]
      exact ih _

theorem ids_onEach {α : Type} (cluster : Cluster) {action : Replica → Logged (Replica × α)}
    (haction : ∀ replica, (action replica).value.1.id = replica.id) :
    (cluster.onEach action).value.1.ids = cluster.ids := by
  rw [Cluster.value_onEach, Cluster.ids, List.map_map]
  exact List.map_congr_left fun replica _ => haction replica

theorem ids_onReplica {α : Type} (cluster : Cluster) (position : Nat)
    {action : Replica → Logged (Replica × α)}
    (haction : ∀ replica, (action replica).value.1.id = replica.id) :
    (cluster.onReplica position action).value.1.ids = cluster.ids := by
  unfold Cluster.onReplica
  cases hreplica : cluster.replicas[position]? with
  | none => rfl
  | some replica => exact map_set_eq_map hreplica (haction replica)

theorem ids_armReplicas (replicas : List Replica) :
    (armReplicas replicas).value.1.map Replica.id = replicas.map Replica.id := by
  induction replicas with
  | nil => rfl
  | cons replica replicas ih =>
      have hid : (replica.refreshExpectation 0).value.1.id = replica.id :=
        replica.id_respond (.refreshExpectation 0)
      simp only [armReplicas, Logged.value_bind]
      split
      · simp only [Logged.value_bind, Logged.value_pure, List.map_cons, ih, hid]
      · simp only [Logged.value_pure, List.map_cons, hid]

theorem ids_settleWithin (cluster : Cluster) (limit : Nat) :
    (cluster.settleWithin limit).value.1.ids = cluster.ids := by
  induction limit generalizing cluster with
  | zero => rfl
  | succ limit ih =>
      rw [Cluster.value_settleWithin_succ]
      split
      · rfl
      · exact (ih _).trans cluster.ids_deliver

theorem ids_perform (scenario : Scenario) (call : ScenarioCall σ) :
    (scenario.perform call).cluster.ids = scenario.cluster.ids := by
  cases call with
  | arm =>
      simp only [perform, arm, Logged.value_bind, Logged.value_pure]
      unfold Cluster.ids
      rw [ids_armReplicas]
      exact (Cluster.ids_deliver _).trans
        (ids_onEach scenario.cluster fun replica => id_recordUniform _ _ replica _)
  | accuse liars source =>
      rw [perform, value_accuse]
      rfl
  | submit value => rfl
  | deliver => exact scenario.cluster.ids_deliver
  | settle => exact ids_settleWithin scenario.cluster Cluster.settleLimit
  | ask position call =>
      exact ids_onReplica scenario.cluster position fun replica => replica.id_respond call

theorem ids_after (scenario : Scenario) (calls : List (ScenarioCall σ)) :
    (scenario.after calls).cluster.ids = scenario.cluster.ids := by
  induction calls generalizing scenario with
  | nil => rfl
  | cons call calls ih => exact (ih _).trans (scenario.ids_perform call)

theorem value_settle (scenario : Scenario) :
    scenario.settle.value =
      ({ scenario with cluster := scenario.cluster.settle.value.1 },
        if scenario.cluster.settle.value.1.pending.isEmpty then .ok () else .error .unsettled) :=
  rfl

theorem cluster_of_ofSettings {n f : Nat} {settings : Settings} {scenario : Scenario}
    (hscenario : ofSettings n f settings = .ok scenario) :
    Cluster.ofSettings scenario.view settings = .ok scenario.cluster := by
  unfold ofSettings at hscenario
  cases hview : View.ofCounts n f with
  | error error => simp [hview, Except.mapError, bind, Except.bind] at hscenario
  | ok view =>
      cases hcluster : Cluster.ofSettings view settings with
      | error error => simp [hview, hcluster, Except.mapError, bind, Except.bind] at hscenario
      | ok cluster =>
          simp only [hview, hcluster, Except.mapError, bind, Except.bind, pure, Except.pure,
            Except.ok.injEq] at hscenario
          rw [← hscenario, hcluster]

/-- Whatever has happened to a scenario before and whatever waits to be ordered
then, a delivery publishes nothing but answers, each to another report of
slowness among the values, and settling succeeds after at most two deliveries. -/
theorem settles_after_two_deliveries {n f : Nat} {settings : Settings} {scenario : Scenario}
    (hscenario : ofSettings n f settings = .ok scenario) (calls : List (ScenarioCall σ))
    (pending : List Submission) :
    let waiting := (scenario.after calls).withPending pending
    let published := waiting.cluster.deliver.value.1.pending
    published.Subperm (pending.filterMap Submission.answer?) ∧
      published.length ≤ pending.countP Submission.isSlowness ∧
      (∀ value ∈ published, value.IsFalseAccusation) ∧
      waiting.settle.value.2 = .ok () ∧
      waiting.settle.value.1.cluster.pending = [] ∧
      waiting.cluster.settle.value.2 ≤ 2 := by
  intro waiting published
  have hids : waiting.cluster.ids.Nodup := by
    have hsame : waiting.cluster.ids = scenario.cluster.ids := ids_after scenario calls
    rw [hsame]
    exact Cluster.nodup_ids_of_ofSettings (cluster_of_ofSettings hscenario)
  have hanswers : published.Subperm (pending.filterMap Submission.answer?) :=
    Cluster.pending_deliver_subperm hids
  obtain ⟨hsettled, hdeliveries⟩ :
      waiting.cluster.settle.value.1.pending = [] ∧ waiting.cluster.settle.value.2 ≤ 2 :=
    Cluster.settleWithin_two hids 62
  refine ⟨hanswers, ?_, ?_, ?_, hsettled, hdeliveries⟩
  · rw [← Submission.length_answers]
    exact hanswers.length_le
  · intro value hvalue
    exact Cluster.isFalseAccusation_of_mem_pending_deliver hids hvalue
  · rw [value_settle, hsettled, List.isEmpty_nil, if_pos rfl]

theorem ofSettings_of_valid {n f : Nat} {settings : Settings} {view : View}
    (hview : View.ofCounts n f = .ok view) (hvalid : settings.invalid? = none) :
    ofSettings n f settings =
      .ok ⟨view, { replicas := view.replicas.map fun id => Replica.fresh id view settings }⟩ := by
  rw [ofSettings, hview]
  have hcluster : Cluster.ofSettings view settings = _ := Cluster.ofSettings_of_valid hvalid
  simp only [Except.mapError, bind, Except.bind, hcluster]
  rfl

/-- Of six values, one of which cannot be read, armed replicas answer two.
One of the answers goes to an id that cannot be read in it. -/
theorem four_answer_two_of_six_values :
    ∃ scenario, ofSettings 4 1 .simulation = .ok scenario ∧
      let slow (suspect : ReplicaId) : Bytes :=
        Suspicion.encode ⟨5, .write, .slow, suspect, 0⟩
      let calls : List (ScenarioCall ChaCha.Generator) :=
        [.arm, .ask 2 (.noteRequest 7), .deliver, .ask 3 .disseminate]
      let pending : List Submission :=
        [⟨3, .suspicion, slow 1⟩, ⟨2, .suspicion, [1, 2, 3]⟩, ⟨2147483653, .suspicion, slow 0⟩,
          ⟨2, .suspicion, slow 2⟩, ⟨9, .suspicion, slow 9⟩, ⟨1, .latency, slow 3⟩]
      let waiting := (scenario.after calls).withPending pending
      let published := waiting.cluster.deliver.value.1.pending
      published.map Submission.sender = [0, 1] ∧
        published.Subperm (pending.filterMap Submission.answer?) ∧
        published.length ≤ pending.countP Submission.isSlowness ∧
        (∀ value ∈ published, value.IsFalseAccusation) ∧
        waiting.settle.value.2 = .ok () ∧
        waiting.settle.value.1.cluster.pending = [] ∧
        waiting.cluster.settle.value.2 ≤ 2 := by
  have hscenario := ofSettings_of_valid (show View.ofCounts 4 1 = .ok ⟨4, 1, by decide⟩ from rfl)
    (show Settings.simulation.invalid? = none by decide +kernel)
  refine ⟨_, hscenario, ?_⟩
  intro slow calls pending waiting published
  refine ⟨by decide +kernel, ?_⟩
  with_reducible exact settles_after_two_deliveries hscenario calls pending

end Scenario

end SuspicionMonitor
