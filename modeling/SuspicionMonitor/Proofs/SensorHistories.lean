import SuspicionMonitor.Proofs.OrderedSets
import SuspicionMonitor.Proofs.Silencing

/-!
# Histories of a sensor

What a sensor remembers is determined by the calls since it was last cleared:
the expectation installed last, the latest request, the highest rounds proposed
with the times of their latest proposals, and which stages of these rounds were
late.
-/

namespace SuspicionMonitor

inductive SensorEvent where
  | clear
  | call (call : SensorCall)

/-- The round whose proposal the stage is. -/
def Stage.proposal? (stage : Stage) : Option Round :=
  if stage.phase = .propose then some stage.round else none

namespace SensorCall

def expectation? : SensorCall → Option Expectation
  | .expect expectation => some expectation
  | _ => none

def request? : SensorCall → Option Nanos
  | .noteRequest time => some time
  | _ => none

/-- The round of a proposal and the time it was sent at. -/
def proposal? : SensorCall → Option (Round × Nanos)
  | .checkProposal _ round _ sentAt => some (round, sentAt)
  | _ => none

/-- The stage that the call checks. -/
def stage? : SensorCall → Option Stage
  | .checkProposal _ round _ _ => some ⟨round, .propose⟩
  | .checkVote _ stage _ _ => some stage
  | _ => none

end SensorCall

namespace Sensor

def afterEvents (sensor : Sensor) (settings : SensorSettings) (self : ReplicaId)
    (events : List SensorEvent) : Sensor :=
  events.foldl (fun sensor event => match event with
    | .clear => empty
    | .call call => (sensor.perform settings self call).sensor) sensor

def sinceClear (events : List SensorEvent) : List SensorCall :=
  events.foldl (fun calls event => match event with
    | .clear => []
    | .call call => calls ++ [call]) []

/-- The expectation installed last. -/
def expected? (calls : List SensorCall) : Option Expectation :=
  (calls.filterMap SensorCall.expectation?).getLast?

def latestRequest? (calls : List SensorCall) : Option Nanos :=
  (calls.filterMap SensorCall.request?).max?

def proposals (calls : List SensorCall) : List (Round × Nanos) :=
  calls.filterMap SensorCall.proposal?

def proposedRounds (calls : List SensorCall) : List Round := (proposals calls).map Prod.fst

/-- The time that the latest proposal of the round was sent at. -/
def sending? (calls : List SensorCall) (round : Round) : Option Nanos :=
  (proposals calls).reverse.lookup round

/-- Whether the round is among the `history` highest of the rounds. -/
def IsRecent (history : Nat) (rounds : List Round) (round : Round) : Prop :=
  round ∈ rounds ∧ (rounds.toFinset.filter (round < ·)).card < history

/-- The stage that the call finds late. -/
def lateStage? (sensor : Sensor) (settings : SensorSettings) (self : ReplicaId)
    (call : SensorCall) : Option Stage :=
  if (sensor.perform settings self call).onTime then none else call.stage?

/-- The stages that are found late in a run. -/
def lateStages (sensor : Sensor) (settings : SensorSettings) (self : ReplicaId) :
    List SensorCall → List Stage
  | [] => []
  | call :: calls =>
      (sensor.lateStage? settings self call).toList ++
        (sensor.perform settings self call).sensor.lateStages settings self calls

variable {sensor : Sensor} {settings : SensorSettings} {self : ReplicaId} {stage : Stage}
  {round : Round} {sentAt : Nanos} {call : SensorCall} {calls : List SensorCall}

theorem after_concat (sensor : Sensor) (settings : SensorSettings) (self : ReplicaId)
    (calls : List SensorCall) (call : SensorCall) :
    sensor.after settings self (calls ++ [call]) =
      ((sensor.after settings self calls).perform settings self call).sensor := by
  simp [after]

theorem lateStages_concat (sensor : Sensor) (settings : SensorSettings) (self : ReplicaId)
    (calls : List SensorCall) (call : SensorCall) :
    sensor.lateStages settings self (calls ++ [call]) =
      sensor.lateStages settings self calls ++
        ((sensor.after settings self calls).lateStage? settings self call).toList := by
  induction calls generalizing sensor with
  | nil => simp [lateStages, after]
  | cons first calls ih =>
      rw [List.cons_append, lateStages, ih, lateStages, List.append_assoc]
      rfl

/-- Clearing leaves nothing of what came before. -/
theorem afterEvents_eq (settings : SensorSettings) (self : ReplicaId)
    (events : List SensorEvent) :
    empty.afterEvents settings self events = empty.after settings self (sinceClear events) := by
  induction events using List.reverseRecOn with
  | nil => rfl
  | append_singleton events event ih =>
      rw [afterEvents, sinceClear, List.foldl_concat, List.foldl_concat]
      cases event with
      | clear => rfl
      | call call =>
          rw [after_concat]
          exact congrArg (fun sensor => (perform sensor settings self call).sensor) ih

/-- Pruning changes the window and the flags alone. -/
theorem prune_eq (sensor : Sensor) (history : Nat) :
    sensor.prune history =
      { sensor with
        sent := (sensor.prune history).sent
        flagged := (sensor.prune history).flagged } := by
  unfold prune
  dsimp only
  split <;> rfl

@[simp] theorem expectation_noteProposal :
    (sensor.noteProposal settings round sentAt).expectation = sensor.expectation := by
  rw [noteProposal, prune_eq]

@[simp] theorem lastRequest_noteProposal :
    (sensor.noteProposal settings round sentAt).lastRequest = sensor.lastRequest := by
  rw [noteProposal, prune_eq]

@[simp] theorem lastDelayed_noteProposal :
    (sensor.noteProposal settings round sentAt).lastDelayed = sensor.lastDelayed := by
  rw [noteProposal, prune_eq]

theorem expectation_perform :
    (sensor.perform settings self call).sensor.expectation =
      call.expectation?.or sensor.expectation := by
  cases call with
  | expect expectation => rfl
  | noteRequest time => rfl
  | checkProposal now round sender sentAt =>
      rcases checkProposal_cases sensor settings self now round sender sentAt with
        hcheck | ⟨-, -, -, hcheck⟩ <;>
      simp [perform, hcheck, fine, flag, SensorCall.expectation?]
  | checkVote now stage sender sentAt =>
      rcases checkVote_cases sensor settings self now stage sender sentAt with
        hcheck | ⟨-, -, -, -, -, hcheck⟩ <;>
      simp [perform, hcheck, fine, flag, SensorCall.expectation?]

theorem lastRequest_perform :
    (sensor.perform settings self call).sensor.lastRequest =
      (sensor.lastRequest.toList ++ call.request?.toList).max? := by
  have hkept : sensor.lastRequest = (sensor.lastRequest.toList ++ []).max? := by
    cases sensor.lastRequest <;> rfl
  cases call with
  | expect expectation => exact hkept
  | noteRequest time =>
      change some _ = (sensor.lastRequest.toList ++ [time]).max?
      cases sensor.lastRequest <;> rfl
  | checkProposal now round sender sentAt =>
      rcases checkProposal_cases sensor settings self now round sender sentAt with
        hcheck | ⟨-, -, -, hcheck⟩ <;>
      simpa [perform, hcheck, fine, flag, SensorCall.request?] using hkept
  | checkVote now stage sender sentAt =>
      rcases checkVote_cases sensor settings self now stage sender sentAt with
        hcheck | ⟨-, -, -, -, -, hcheck⟩ <;>
      simpa [perform, hcheck, fine, flag, SensorCall.request?] using hkept

/-- A round is remembered as late if its proposal is. -/
theorem lastDelayed_perform :
    (sensor.perform settings self call).sensor.lastDelayed =
      ((sensor.lateStage? settings self call).bind Stage.proposal?).or sensor.lastDelayed := by
  cases call with
  | expect expectation => rfl
  | noteRequest time => rfl
  | checkProposal now round sender sentAt =>
      rcases checkProposal_cases sensor settings self now round sender sentAt with
        hcheck | ⟨-, -, -, hcheck⟩ <;>
      simp [perform, lateStage?, hcheck, fine, SensorCall.stage?, Stage.proposal?]
  | checkVote now stage sender sentAt =>
      rcases checkVote_cases sensor settings self now stage sender sentAt with
        hcheck | ⟨hphase | hphase, -, -, -, -, hcheck⟩ <;>
      simp [perform, lateStage?, fine, flag, SensorCall.stage?, Stage.proposal?, *]

theorem expectation_after (settings : SensorSettings) (self : ReplicaId)
    (calls : List SensorCall) :
    (empty.after settings self calls).expectation = expected? calls := by
  induction calls using List.reverseRecOn with
  | nil => rfl
  | append_singleton calls call ih =>
      rw [after_concat, expectation_perform, ih, expected?, expected?, List.filterMap_append,
        List.getLast?_append]
      cases call <;> rfl

theorem lastRequest_after (settings : SensorSettings) (self : ReplicaId)
    (calls : List SensorCall) :
    (empty.after settings self calls).lastRequest = latestRequest? calls := by
  have hconcat : ∀ times later : List Nanos,
      (times.max?.toList ++ later).max? = (times ++ later).max? := by
    intro times later
    cases times with
    | nil => rfl
    | cons time times =>
        rw [List.cons_append, List.max?_cons', List.max?_cons', List.foldl_append,
          Option.toList_some, List.singleton_append, List.max?_cons']
  induction calls using List.reverseRecOn with
  | nil => rfl
  | append_singleton calls call ih =>
      rw [after_concat, lastRequest_perform, ih, latestRequest?, latestRequest?, hconcat,
        List.filterMap_append]
      cases call <;> rfl

theorem lastDelayed_after (settings : SensorSettings) (self : ReplicaId)
    (calls : List SensorCall) :
    (empty.after settings self calls).lastDelayed =
      ((empty.lateStages settings self calls).filterMap Stage.proposal?).getLast? := by
  induction calls using List.reverseRecOn with
  | nil => rfl
  | append_singleton calls call ih =>
      rw [after_concat, lastDelayed_perform, ih, lateStages_concat, List.filterMap_append,
        List.getLast?_append]
      cases (empty.after settings self calls).lateStage? settings self call with
      | none => rfl
      | some stage => cases hproposal : stage.proposal? <;> simp [hproposal]

/-! ## The window -/

theorem getElem?_dropOldest {count : Nat} {sent : Std.ExtTreeMap Round Nanos}
    (hkept : round ∈ dropOldest count sent) : (dropOldest count sent)[round]? = sent[round]? := by
  induction count generalizing sent with
  | zero => rfl
  | succ count ih =>
      unfold dropOldest at hkept ⊢
      split at hkept
      · rfl
      · have hmem := mem_of_mem_dropOldest hkept
        rw [ih hkept, Std.ExtTreeMap.getElem?_erase, if_neg (Std.ExtTreeMap.mem_erase.mp hmem).1]

/-- The window holds rounds of the list with their latest times, and those of
the list that it does not hold are gone. -/
structure Keeps (sensor : Sensor) (settings : SensorSettings)
    (sendings : List (Round × Nanos)) : Prop where
  size : sensor.sent.size ≤ settings.history.toNat
  latest : ∀ (round : Round) (sentAt : Nanos), sensor.sent[round]? = some sentAt →
    sendings.reverse.lookup round = some sentAt
  gone : ∀ round ∈ sendings.map Prod.fst, round ∉ sensor.sent → sensor.IsBygone settings round

theorem keeps_empty (settings : SensorSettings) : empty.Keeps settings [] := by
  constructor <;> simp [empty]

variable {sendings : List (Round × Nanos)}

theorem Keeps.of_sent {next : Sensor} (hkeeps : sensor.Keeps settings sendings)
    (hsent : next.sent = sensor.sent) : next.Keeps settings sendings := by
  constructor
  · rw [hsent]
    exact hkeeps.size
  · rw [hsent]
    exact hkeeps.latest
  · intro round hround hdropped
    rw [hsent] at hdropped
    exact (hkeeps.gone round hround hdropped).of_sent hsent

theorem Keeps.noteProposal (hkeeps : sensor.Keeps settings sendings) (next : Round)
    (sentAt : Nanos) :
    (sensor.noteProposal settings next sentAt).Keeps settings (sendings ++ [(next, sentAt)]) := by
  constructor
  · rw [size_sent_noteProposal]
    exact Nat.min_le_right _ _
  · intro round time hround
    rw [Sensor.noteProposal, sent_prune] at hround
    have hkept := Std.ExtTreeMap.mem_iff_isSome_getElem?.mpr (Option.isSome_of_eq_some hround)
    rw [getElem?_dropOldest hkept, Std.ExtTreeMap.getElem?_insert] at hround
    rw [List.reverse_concat, List.lookup_cons]
    by_cases hsame : next = round
    · simpa [hsame] using hround
    · have hother : (round == next) = false := by simpa using Ne.symm hsame
      rw [if_neg (by simpa using hsame)] at hround
      simpa [hother] using hkeeps.latest round time hround
  · intro round hround hdropped
    by_cases hinserted : round ∈ sensor.sent.insert next sentAt
    · exact isBygone_of_dropped hinserted hdropped
    · rw [Std.ExtTreeMap.mem_insert, not_or, Std.LawfulEqOrd.compare_eq_iff_eq] at hinserted
      have hold : round ∈ sendings.map Prod.fst := by
        rw [List.map_append, List.mem_append] at hround
        simpa [Ne.symm hinserted.1] using hround
      exact (hkeeps.gone round hold hinserted.2).noteProposal next sentAt

/-- Only the check of a proposal moves the window. -/
theorem sent_perform (sensor : Sensor) (settings : SensorSettings) (self : ReplicaId)
    (call : SensorCall) :
    (sensor.perform settings self call).sensor.sent =
      match call.proposal? with
      | none => sensor.sent
      | some (round, sentAt) => (sensor.noteProposal settings round sentAt).sent := by
  cases call with
  | expect expectation => rfl
  | noteRequest time => rfl
  | checkProposal now round sender sentAt =>
      rcases checkProposal_cases sensor settings self now round sender sentAt with
        hcheck | ⟨-, -, -, hcheck⟩ <;>
      simp [perform, hcheck, fine, flag, SensorCall.proposal?]
  | checkVote now stage sender sentAt =>
      rcases checkVote_cases sensor settings self now stage sender sentAt with
        hcheck | ⟨-, -, -, -, -, hcheck⟩ <;>
      simp [perform, hcheck, fine, flag, SensorCall.proposal?]

theorem keeps_after (settings : SensorSettings) (self : ReplicaId) (calls : List SensorCall) :
    (empty.after settings self calls).Keeps settings (proposals calls) := by
  induction calls using List.reverseRecOn with
  | nil => exact keeps_empty settings
  | append_singleton calls call ih =>
      have hsent := (empty.after settings self calls).sent_perform settings self call
      have hlist : proposals (calls ++ [call]) = proposals calls ++ call.proposal?.toList := by
        rw [proposals, List.filterMap_append, List.filterMap_cons]
        cases call.proposal? <;> rfl
      rw [after_concat, hlist]
      cases hproposal : call.proposal? with
      | none =>
          rw [hproposal] at hsent
          simpa using ih.of_sent hsent
      | some proposal =>
          rw [hproposal] at hsent
          exact (ih.noteProposal proposal.1 proposal.2).of_sent hsent

theorem Keeps.mem_sendings (hkeeps : sensor.Keeps settings sendings)
    (hsent : sensor.sent[round]? = some sentAt) : (round, sentAt) ∈ sendings := by
  obtain ⟨before, after, hsplit, -⟩ :=
    List.lookup_eq_some_iff.mp (hkeeps.latest round sentAt hsent)
  rw [← List.mem_reverse, hsplit]
  exact List.mem_append_right _ List.mem_cons_self

/-- Every round of the list above one of the window is in the window itself, and
below a full window there is nothing recent. -/
theorem Keeps.mem_sent_iff (hkeeps : sensor.Keeps settings sendings) :
    round ∈ sensor.sent ↔ IsRecent settings.history.toNat (sendings.map Prod.fst) round := by
  have hlisted : ∀ kept ∈ sensor.sent, kept ∈ sendings.map Prod.fst := by
    intro kept hkept
    obtain ⟨sentAt, hsentAt⟩ :=
      Option.isSome_iff_exists.mp (Std.ExtTreeMap.mem_iff_isSome_getElem?.mp hkept)
    exact List.mem_map_of_mem (hkeeps.mem_sendings hsentAt)
  have hcard := OrderedSet.card_toFinset_keys sensor.sent
  constructor
  · intro hround
    refine ⟨hlisted round hround, ?_⟩
    have hsubset : (sendings.map Prod.fst).toFinset.filter (round < ·) ⊆
        sensor.sent.keys.toFinset := by
      intro later hlater
      rw [Finset.mem_filter, List.mem_toFinset] at hlater
      rw [List.mem_toFinset, Std.ExtTreeMap.mem_keys]
      by_contra hdropped
      have hbelow := (hkeeps.gone later hlater.1 hdropped).below round hround
      exact Int32.lt_irrefl (Int32.lt_trans hbelow hlater.2)
    have habove : (sendings.map Prod.fst).toFinset.filter (round < ·) ⊂
        sensor.sent.keys.toFinset := by
      refine (Finset.ssubset_iff_of_subset hsubset).mpr ⟨round, ?_, ?_⟩
      · rwa [List.mem_toFinset, Std.ExtTreeMap.mem_keys]
      · simp
    have hsize := hkeeps.size
    rw [← hcard] at hsize
    exact (Finset.card_lt_card habove).trans_le hsize
  · rintro ⟨hlist, hfew⟩
    by_contra hdropped
    have hbygone := hkeeps.gone round hlist hdropped
    have hall : sensor.sent.keys.toFinset ⊆
        (sendings.map Prod.fst).toFinset.filter (round < ·) := by
      intro kept hkept
      have hmem := Std.ExtTreeMap.mem_keys.mp (List.mem_toFinset.mp hkept)
      simpa [hbygone.below kept hmem] using hlisted kept hmem
    have hmany := Finset.card_le_card hall
    rw [hcard, hbygone.full] at hmany
    omega

theorem Keeps.getElem?_sent (hkeeps : sensor.Keeps settings sendings)
    (hrecent : IsRecent settings.history.toNat (sendings.map Prod.fst) round) :
    sensor.sent[round]? = sendings.reverse.lookup round := by
  have hmem := hkeeps.mem_sent_iff.mpr hrecent
  obtain ⟨sentAt, hsentAt⟩ :=
    Option.isSome_iff_exists.mp (Std.ExtTreeMap.mem_iff_isSome_getElem?.mp hmem)
  rw [hsentAt, hkeeps.latest round sentAt hsentAt]

/-! ## Late stages -/

/-- A flag is an old one, or that of a stage just found late. -/
theorem isFlagged_perform
    (hflagged : (sensor.perform settings self call).sensor.isFlagged stage = true) :
    sensor.isFlagged stage = true ∨ sensor.lateStage? settings self call = some stage := by
  cases call with
  | expect expectation => exact Or.inl hflagged
  | noteRequest time => exact Or.inl hflagged
  | checkProposal now round sender sentAt =>
      rcases checkProposal_cases sensor settings self now round sender sentAt with
        hcheck | ⟨-, -, -, hcheck⟩
      · rw [perform, hcheck] at hflagged
        exact Or.inl (isFlagged_prune.mp hflagged).1
      · rw [perform, hcheck] at hflagged
        rcases isFlagged_flag.mp hflagged with rfl | hbefore
        · simp [lateStage?, perform, hcheck, SensorCall.stage?]
        · exact Or.inl (isFlagged_prune.mp hbefore).1
  | checkVote now checked sender sentAt =>
      rcases checkVote_cases sensor settings self now checked sender sentAt with
        hcheck | ⟨-, -, -, -, -, hcheck⟩
      · rw [perform, hcheck] at hflagged
        exact Or.inl hflagged
      · rw [perform, hcheck] at hflagged
        rcases isFlagged_flag.mp hflagged with rfl | hbefore
        · simp [lateStage?, perform, hcheck, SensorCall.stage?]
        · exact Or.inl hbefore

theorem isSpent_of_lateStage? (htidy : sensor.IsTidy settings)
    (hlate : sensor.lateStage? settings self call = some stage) :
    (sensor.perform settings self call).sensor.IsSpent settings stage := by
  unfold lateStage? at hlate
  split at hlate
  · contradiction
  · next honTime =>
      rw [Bool.not_eq_true] at honTime
      cases call with
      | expect expectation => contradiction
      | noteRequest time => contradiction
      | checkProposal now round sender sentAt =>
          rw [← Option.some.inj hlate]
          exact isSpent_checkProposal htidy honTime
      | checkVote now checked sender sentAt =>
          rw [← Option.some.inj hlate]
          exact isSpent_checkVote htidy honTime

theorem isSpent_of_mem_lateStages (hlate : stage ∈ empty.lateStages settings self calls) :
    (empty.after settings self calls).IsSpent settings stage := by
  induction calls using List.reverseRecOn with
  | nil => contradiction
  | append_singleton calls call ih =>
      rw [lateStages_concat, List.mem_append, Option.mem_toList] at hlate
      rw [after_concat]
      rcases hlate with hbefore | hnow
      · exact (ih hbefore).after [call]
      · exact isSpent_of_lateStage? ((isTidy_empty settings).after calls) hnow

theorem mem_lateStages_of_isFlagged
    (hflagged : (empty.after settings self calls).isFlagged stage = true) :
    stage ∈ empty.lateStages settings self calls := by
  induction calls using List.reverseRecOn with
  | nil => simp [after, empty, isFlagged] at hflagged
  | append_singleton calls call ih =>
      rw [after_concat] at hflagged
      rw [lateStages_concat, List.mem_append, Option.mem_toList]
      exact (isFlagged_perform hflagged).imp_left ih

/-- A stage is flagged if it was late and its round is one of the highest. -/
theorem isFlagged_after_iff (settings : SensorSettings) (self : ReplicaId)
    (calls : List SensorCall) (stage : Stage) :
    (empty.after settings self calls).isFlagged stage = true ↔
      stage ∈ empty.lateStages settings self calls ∧
        IsRecent settings.history.toNat (proposedRounds calls) stage.round := by
  have hwindow : stage.round ∈ (empty.after settings self calls).sent ↔ _ :=
    (keeps_after settings self calls).mem_sent_iff
  constructor
  · intro hflagged
    have htidy : (empty.after settings self calls).IsTidy settings :=
      (isTidy_empty settings).after calls
    exact ⟨mem_lateStages_of_isFlagged hflagged, hwindow.mp (htidy.flagged stage hflagged)⟩
  · rintro ⟨hlate, hrecent⟩
    rcases (isSpent_of_mem_lateStages hlate).spent with hflagged | hbygone
    · exact hflagged
    · exact absurd (hwindow.mpr hrecent) hbygone.not_mem_sent

end Sensor

end SuspicionMonitor
