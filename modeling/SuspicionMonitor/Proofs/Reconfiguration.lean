import SuspicionMonitor.Proofs.LatencyBoards
import SuspicionMonitor.Proofs.LedgerRuns
import SuspicionMonitor.Proofs.ReplicaRuns

/-!
# Starting afresh in another view

A replica that moves to another view is to forget all it has seen in the old
one.  It does, but for the matrices of its latency board, which stay until
their next use finds that they have another size than the view.  So it goes on
like a fresh replica of the new view exactly if no latency was known to it,
and is one from the next use on if the matrices had another size as well.
-/

namespace SuspicionMonitor
namespace Replica

/-- The identity and the sizes of a replica that has been fresh once. -/
structure IsWired (replica : Replica) (id : ReplicaId) (settings : Settings) : Prop where
  identity : replica.id = id
  setUp : replica.settings = settings
  member : replica.view.contains id = true
  boardView : replica.board.view = replica.view
  /-- The matrices were made for the present view or for an earlier one. -/
  boardSize : ∃ earlier : View, earlier.contains id = true ∧
    replica.board.write.size = earlier.n ∧ replica.board.propose.size = earlier.n
  proposeCapacity :
    replica.proposeWindows.capacity = settings.latency.monitoringWindow.toNat
  writeCapacity : replica.writeWindows.capacity = settings.latency.monitoringWindow.toNat

theorem isWired_fresh {id : ReplicaId} {view : View} (hmember : view.contains id = true)
    (settings : Settings) : (fresh id view settings).IsWired id settings := by
  refine ⟨rfl, rfl, hmember, rfl, ⟨view, hmember, ?_⟩, rfl, rfl⟩
  simp [fresh, LatencyBoard.empty, LatencyMatrix.size_missing]

variable {replica : Replica} {id : ReplicaId} {settings : Settings}

theorem IsWired.withBoard (hwired : replica.IsWired id settings) {board : LatencyBoard}
    (hview : board.view = replica.board.view)
    (hboard : board = replica.board ∨ board.fits = true) :
    { replica with board }.IsWired id settings := by
  refine ⟨hwired.identity, hwired.setUp, hwired.member, hview.trans hwired.boardView, ?_,
    hwired.proposeCapacity, hwired.writeCapacity⟩
  rcases hboard with rfl | hfits
  · exact hwired.boardSize
  · obtain ⟨hwrite, hpropose⟩ := LatencyBoard.fits_iff.mp hfits
    rw [hview, hwired.boardView] at hwrite hpropose
    exact ⟨replica.view, hwired.member, hwrite, hpropose⟩

theorem IsWired.withSensor (hwired : replica.IsWired id settings) (sensor : Sensor) :
    { replica with sensor }.IsWired id settings :=
  { hwired with }

theorem IsWired.withLedger (hwired : replica.IsWired id settings) (ledger : Ledger) :
    { replica with ledger }.IsWired id settings :=
  { hwired with }

theorem IsWired.checkInitialized (hwired : replica.IsWired id settings) :
    replica.checkInitialized.value.1.IsWired id settings :=
  hwired.withBoard replica.board.view_fitted (Or.inr replica.board.fits_fitted)

theorem IsWired.predict (hwired : replica.IsWired id settings) (leader self : ReplicaId) :
    (replica.predict leader self).value.1.IsWired id settings :=
  hwired.withBoard replica.board.view_fitted (Or.inr replica.board.fits_fitted)

theorem IsWired.refreshExpectation (hwired : replica.IsWired id settings)
    (leader : ReplicaId) : (replica.refreshExpectation leader).value.1.IsWired id settings := by
  unfold Replica.refreshExpectation
  simp only [Logged.value_bind]
  split
  · exact (hwired.checkInitialized.predict leader _).withSensor _
  · exact hwired.checkInitialized

theorem IsWired.receive (hwired : replica.IsWired id settings) (value : Submission) :
    (replica.receive value).value.IsWired id settings := by
  unfold Replica.receive
  cases value.kind with
  | latency =>
      simp only [Logged.value_bind, Logged.value_pure]
      rcases replica.board.notify_cases value.sender value.payload with hkept | ⟨vector, hstored⟩
      · rw [hkept]
        exact hwired
      · obtain ⟨hfits, hview⟩ := replica.board.fits_store value.sender vector
        rw [hstored]
        exact hwired.withBoard hview (Or.inr hfits)
  | suspicion =>
      rw [value_notify]
      exact hwired.withLedger _

theorem IsWired.foldlM_receive (hwired : replica.IsWired id settings)
    (values : List Submission) :
    (values.foldlM Replica.receive replica).value.IsWired id settings := by
  induction values generalizing replica with
  | nil => exact hwired
  | cons value values ih => exact ih (hwired.receive value)

theorem IsWired.reconfigure (hwired : replica.IsWired id settings) {view : View}
    {next : Replica} (hnext : (replica.reconfigure view).value = .ok next) :
    next.IsWired id settings := by
  by_cases hmember : view.contains replica.id = true
  · rw [value_reconfigure_of_contains hmember] at hnext
    obtain rfl := Except.ok.inj hnext
    rw [hwired.identity] at hmember
    exact { hwired with member := hmember, boardView := rfl }
  · rw [value_reconfigure_of_not_contains hmember] at hnext
    contradiction

theorem IsWired.respond (hwired : replica.IsWired id settings) (call : ReplicaCall) :
    (replica.respond call).value.1.IsWired id settings := by
  cases call with
  | deliver round values => exact (hwired.foldlM_receive values).withLedger _
  | notify sender payload =>
      have hnext : (replica.respond (.notify sender payload)).value.1 =
          (replica.notify sender payload).value := rfl
      rw [hnext, value_notify]
      exact hwired.withLedger _
  | reconfigure view =>
      rw [value_respond_reconfigure]
      cases hnext : (replica.reconfigure view).value with
      | ok next => exact hwired.reconfigure hnext
      | error error => exact hwired
  | checkProposal now round sender sentAt => exact hwired.withSensor _
  | checkVote now stage sender sentAt => exact hwired.withSensor _
  | noteRequest time => exact hwired.withSensor _
  | recordPropose peer latency => exact { hwired with }
  | recordWrite peer latency => exact { hwired with }
  | disseminate => exact hwired
  | refreshExpectation leader => exact hwired.refreshExpectation leader
  | setLeader leader => exact { hwired with }
  | candidateSet => exact hwired
  | checkInitialized => exact hwired.checkInitialized
  | predict leader self => exact hwired.predict leader self

theorem IsWired.run (hwired : replica.IsWired id settings) (calls : List ReplicaCall) :
    (replica.run calls).value.1.IsWired id settings := by
  induction calls generalizing replica with
  | nil => exact hwired
  | cons call calls ih => exact ih (hwired.respond call)

/-! ## Replicas that differ in their boards -/

def withBoard (replica : Replica) (board : LatencyBoard) : Replica := { replica with board }

/-- Two replicas that are the same up to boards which look alike. -/
def Matches (first second : Replica) : Prop :=
  ∃ board, board.LooksLike second.board ∧ first = second.withBoard board

variable {first second : Replica}

theorem submissions_notify (replica : Replica) (sender : ReplicaId) (payload : Bytes) :
    (replica.notify sender payload).submissions =
      match Suspicion.decode payload sender with
      | .error _ => []
      | .ok suspicion =>
          match replica.sensor.reply? replica.id suspicion with
          | none => []
          | some reply => [⟨replica.id, .suspicion, reply.encode⟩] := by
  unfold notify
  cases Suspicion.decode payload sender with
  | error cause => rfl
  | ok suspicion =>
      dsimp only
      cases replica.sensor.reply? replica.id suspicion with
      | none => rfl
      | some reply => rfl

theorem Matches.notify (hmatch : first.Matches second) (sender : ReplicaId)
    (payload : Bytes) :
    (first.notify sender payload).submissions = (second.notify sender payload).submissions ∧
      (first.notify sender payload).value.Matches (second.notify sender payload).value := by
  obtain ⟨board, hlike, rfl⟩ := hmatch
  rw [submissions_notify, submissions_notify, value_notify, value_notify]
  exact ⟨rfl, board, hlike, rfl⟩

theorem Matches.receive (hmatch : first.Matches second) (value : Submission) :
    (first.receive value).submissions = (second.receive value).submissions ∧
      (first.receive value).value.Matches (second.receive value).value := by
  unfold Replica.receive
  cases value.kind with
  | latency =>
      obtain ⟨board, hlike, rfl⟩ := hmatch
      simp only [Logged.submissions_bind, LatencyBoard.submissions_notify]
      exact ⟨rfl, _, hlike.notify value.sender value.payload, rfl⟩
  | suspicion => exact hmatch.notify value.sender value.payload

theorem Matches.foldlM_receive (hmatch : first.Matches second) (values : List Submission) :
    (values.foldlM Replica.receive first).submissions =
        (values.foldlM Replica.receive second).submissions ∧
      (values.foldlM Replica.receive first).value.Matches
        (values.foldlM Replica.receive second).value := by
  induction values generalizing first second with
  | nil => exact ⟨rfl, hmatch⟩
  | cons value values ih =>
      obtain ⟨hsubmissions, hnext⟩ := hmatch.receive value
      obtain ⟨hrest, hend⟩ := ih hnext
      simp only [List.foldlM_cons, Logged.submissions_bind, Logged.value_bind]
      exact ⟨by rw [hsubmissions, hrest], hend⟩

theorem Matches.deliver (hmatch : first.Matches second) (round : Round)
    (values : List Submission) :
    (first.deliver round values).submissions = (second.deliver round values).submissions ∧
      (first.deliver round values).value.Matches (second.deliver round values).value := by
  obtain ⟨hsubmissions, board, hlike, hreceived⟩ := hmatch.foldlM_receive values
  unfold Replica.deliver
  simp only [Logged.submissions_bind, Logged.value_bind, hsubmissions, hreceived]
  exact ⟨rfl, board, hlike, rfl⟩

theorem submissions_reconfigure (replica : Replica) (view : View) :
    (replica.reconfigure view).submissions = [] := by
  unfold reconfigure
  split <;> rfl

theorem Matches.reconfigure (hmatch : first.Matches second) (view : View) :
    (first.respond (.reconfigure view)).value.2 =
        (second.respond (.reconfigure view)).value.2 ∧
      (first.respond (.reconfigure view)).value.1.Matches
        (second.respond (.reconfigure view)).value.1 := by
  obtain ⟨board, hlike, rfl⟩ := hmatch
  rw [value_respond_reconfigure, value_respond_reconfigure]
  by_cases hmember : view.contains second.id = true
  · have hother : view.contains (second.withBoard board).id = true := hmember
    rw [value_reconfigure_of_contains hmember, value_reconfigure_of_contains hother]
    exact ⟨rfl, _, hlike.setView view, rfl⟩
  · have hother : view.contains (second.withBoard board).id ≠ true := hmember
    rw [value_reconfigure_of_not_contains hmember, value_reconfigure_of_not_contains hother]
    exact ⟨rfl, board, hlike, rfl⟩

theorem value_checkInitialized (replica : Replica) :
    replica.checkInitialized.value =
      (replica.withBoard replica.board.checkInitialized.value.1,
        replica.board.checkInitialized.value.2) := rfl

theorem value_predict (replica : Replica) (leader self : ReplicaId) :
    (replica.predict leader self).value =
      (replica.withBoard (replica.board.predict leader self).value.1,
        (replica.board.predict leader self).value.2) := rfl

theorem Matches.checkInitialized (hmatch : first.Matches second) :
    first.checkInitialized.value = second.checkInitialized.value := by
  obtain ⟨board, hlike, rfl⟩ := hmatch
  rw [value_checkInitialized, value_checkInitialized, ← hlike.checkInitialized]
  rfl

theorem Matches.predict (hmatch : first.Matches second) (leader self : ReplicaId) :
    (first.predict leader self).value = (second.predict leader self).value := by
  obtain ⟨board, hlike, rfl⟩ := hmatch
  rw [value_predict, value_predict, ← hlike.predict]
  rfl

theorem submissions_checkInitialized (replica : Replica) :
    replica.checkInitialized.submissions = [] := by
  unfold checkInitialized
  rw [Logged.submissions_bind, LatencyBoard.submissions_checkInitialized]
  rfl

theorem submissions_predict (replica : Replica) (leader self : ReplicaId) :
    (replica.predict leader self).submissions = [] := by
  unfold predict
  rw [Logged.submissions_bind, LatencyBoard.submissions_predict]
  rfl

theorem Matches.refreshExpectation (hmatch : first.Matches second) (leader : ReplicaId) :
    (first.refreshExpectation leader).value = (second.refreshExpectation leader).value := by
  unfold Replica.refreshExpectation
  rw [Logged.value_bind, Logged.value_bind, hmatch.checkInitialized]

theorem submissions_refreshExpectation (replica : Replica) (leader : ReplicaId) :
    (replica.refreshExpectation leader).submissions = [] := by
  unfold refreshExpectation
  simp only [Logged.submissions_bind, submissions_checkInitialized, List.nil_append]
  split
  · rw [Logged.submissions_bind, submissions_predict]
    rfl
  · rfl

theorem matches_of_eq (hsame : first = second) : first.Matches second :=
  ⟨second.board, ⟨rfl, Or.inl rfl⟩, hsame⟩

theorem Matches.respond (hmatch : first.Matches second) (call : ReplicaCall) :
    (first.respond call).value.2 = (second.respond call).value.2 ∧
      (first.respond call).submissions = (second.respond call).submissions ∧
      (first.respond call).value.1.Matches (second.respond call).value.1 := by
  cases call with
  | deliver round values =>
      obtain ⟨hsubmissions, hnext⟩ := hmatch.deliver round values
      simp only [Replica.respond, Logged.submissions_bind, hsubmissions]
      exact ⟨rfl, rfl, hnext⟩
  | notify sender payload =>
      obtain ⟨hsubmissions, hnext⟩ := hmatch.notify sender payload
      simp only [Replica.respond, Logged.submissions_bind, hsubmissions]
      exact ⟨rfl, rfl, hnext⟩
  | reconfigure view =>
      obtain ⟨hanswer, hnext⟩ := hmatch.reconfigure view
      refine ⟨hanswer, ?_, hnext⟩
      simp only [Replica.respond, Logged.submissions_bind, submissions_reconfigure]
      split <;> split <;> rfl
  | checkProposal | checkVote | noteRequest | recordPropose | recordWrite | disseminate
  | setLeader | candidateSet =>
      obtain ⟨board, hlike, rfl⟩ := hmatch
      exact ⟨rfl, rfl, board, hlike, rfl⟩
  | refreshExpectation leader =>
      have hvalue := hmatch.refreshExpectation leader
      simp only [Replica.respond, Logged.submissions_bind, Logged.value_bind, hvalue,
        submissions_refreshExpectation, true_and]
      exact matches_of_eq rfl
  | checkInitialized =>
      have hvalue := hmatch.checkInitialized
      simp only [Replica.respond, Logged.submissions_bind, Logged.value_bind, hvalue,
        submissions_checkInitialized, true_and]
      exact matches_of_eq rfl
  | predict leader self =>
      have hvalue := hmatch.predict leader self
      simp only [Replica.respond, Logged.submissions_bind, Logged.value_bind, hvalue,
        submissions_predict, true_and]
      exact matches_of_eq rfl

theorem Matches.run (hmatch : first.Matches second) (calls : List ReplicaCall) :
    (first.run calls).value.2 = (second.run calls).value.2 ∧
      (first.run calls).submissions = (second.run calls).submissions ∧
      (first.run calls).value.1.Matches (second.run calls).value.1 := by
  induction calls generalizing first second with
  | nil => exact ⟨rfl, rfl, hmatch⟩
  | cons call calls ih =>
      obtain ⟨hanswer, hsubmitted, hnext⟩ := hmatch.respond call
      obtain ⟨hanswers, hrest, hend⟩ := ih hnext
      simp only [run_cons, hanswer, hanswers, true_and]
      refine ⟨?_, hend⟩
      simp only [Replica.run, Logged.submissions_bind, hsubmitted, hrest]
      rfl

/-! ## What a change of view leaves -/

def inUse (replica : Replica) : Replica := replica.checkInitialized.value.1

/-- Whatever is asked of the two, they give the same answers, submit the same
and are the same in the end, as soon as their latency matrices are used. -/
structure BehavesLike (first second : Replica) : Prop where
  answers : ∀ calls, (first.run calls).value.2 = (second.run calls).value.2
  submissions : ∀ calls, (first.run calls).submissions = (second.run calls).submissions
  inUse : ∀ calls, (first.run calls).value.1.inUse = (second.run calls).value.1.inUse

theorem Matches.behavesLike (hmatch : first.Matches second) : first.BehavesLike second := by
  constructor
  · exact fun calls => (hmatch.run calls).1
  · exact fun calls => (hmatch.run calls).2.1
  · intro calls
    exact congrArg Prod.fst (hmatch.run calls).2.2.checkInitialized

theorem BehavesLike.initialized (hbehaves : first.BehavesLike second) :
    first.checkInitialized.value.2 = second.checkInitialized.value.2 := by
  have hanswers : [ReplicaAnswer.flag first.checkInitialized.value.2] =
      [.flag second.checkInitialized.value.2] := hbehaves.answers [.checkInitialized]
  injection hanswers with hflag
  injection hflag

structure HasForgotten (replica : Replica) : Prop where
  noEdges : replica.ledger.graph.edges = []
  noSuspicions : replica.ledger.suspicions = []
  disarmed : replica.sensor.isArmed = false
  noSamples : replica.latencies =
    LatencyVector.ofWrite (List.replicate replica.view.n Nanos.missing)

theorem hasForgotten_fresh (id : ReplicaId) (view : View) (settings : Settings) :
    (fresh id view settings).HasForgotten := by
  have hmedian : LatencyWindows.median [] = Nanos.missing := by simp [LatencyWindows.median]
  constructor
  · simp [fresh, Ledger.empty, SuspicionGraph.edges, SuspicionGraph.empty]
  · simp [fresh, Ledger.empty, Ledger.suspicions]
  · rfl
  · simp [fresh, latencies, LatencyVector.ofWrite, LatencyWindows.medians,
      LatencyWindows.empty, hmedian]

/-- A fresh replica that keeps the leader of another one, if the view has
him. -/
def freshUnder (leader : ReplicaId) (id : ReplicaId) (view : View) (settings : Settings) :
    Replica :=
  (fresh id view settings).setLeader (if view.contains leader then leader else 0)

theorem IsWired.value_reconfigure (hwired : replica.IsWired id settings) {view : View}
    (hmember : view.contains id = true) :
    (replica.reconfigure view).value =
      .ok ((freshUnder replica.leader id view settings).withBoard
        (replica.board.setView view)) := by
  have hself : view.contains replica.id = true := by rwa [hwired.identity]
  rw [value_reconfigure_of_contains hself]
  simp [freshUnder, fresh, setLeader, Replica.withBoard, LatencyWindows.reset, hwired.identity,
    hwired.setUp, hwired.proposeCapacity, hwired.writeCapacity, Ledger.value_reset]

theorem board_run_reconfigure {view : View} (hmember : view.contains replica.id = true) :
    (replica.run [.reconfigure view]).value.1.board = replica.board.setView view := by
  have hnext : (replica.run [.reconfigure view]).value.1 =
      (replica.respond (.reconfigure view)).value.1 := rfl
  rw [hnext, value_respond_reconfigure, value_reconfigure_of_contains hmember]

/-- A latency that survives comes to light in a view of the size it was
reported in. -/
theorem isBlank_of_behavesLike {board : LatencyBoard} {earlier : View}
    (hbehaves : (replica.withBoard board).BehavesLike replica)
    (hblank : replica.board.IsBlank) (hmember : earlier.contains replica.id = true)
    (hwrite : board.write.size = earlier.n) (hpropose : board.propose.size = earlier.n) :
    board.IsBlank := by
  have hother : earlier.contains (replica.withBoard board).id = true := hmember
  have hsame : ((replica.withBoard board).run [.reconfigure earlier]).value.1.board.fitted.value =
      (replica.run [.reconfigure earlier]).value.1.board.fitted.value :=
    congrArg Replica.board (hbehaves.inUse [.reconfigure earlier])
  rw [board_run_reconfigure hmember, board_run_reconfigure hother,
    (LatencyBoard.isBlank_setView.mpr hblank).value_fitted] at hsame
  exact (LatencyBoard.value_fitted_setView_iff (hpropose.trans hwrite.symm) earlier).mp hsame
    hwrite

/-- A run leads to a replica which, moved to another view, is a fresh one but
for the matrices of its board.  It goes on like the fresh one exactly if no
latency was known to it, and is the fresh one from the next use of the
matrices on exactly if none was known in matrices of the size of the view. -/
theorem reconfigured_behaves_like_fresh_iff {id : ReplicaId} {start view : View}
    (hstart : start.contains id = true) (hview : view.contains id = true)
    (settings : Settings) (calls : List ReplicaCall) :
    let old := ((fresh id start settings).run calls).value.1
    let afresh := freshUnder old.leader id view settings
    ∃ next, (old.reconfigure view).value = .ok next ∧ next.HasForgotten ∧
      next = afresh.withBoard (old.board.setView view) ∧
      (next.BehavesLike afresh ↔ old.board.IsBlank) ∧
      (next.checkInitialized.value = (afresh, false) ↔
        (old.board.write.size = view.n → old.board.IsBlank)) := by
  intro old afresh
  have hwired : old.IsWired id settings := (isWired_fresh hstart settings).run calls
  obtain ⟨earlier, hearlier, hwrite, hpropose⟩ := hwired.boardSize
  have hafresh : afresh.board = LatencyBoard.empty view := rfl
  have hforgotten := hasForgotten_fresh id view settings
  have hnothing : afresh.board.IsBlank := by
    rw [hafresh]
    exact LatencyBoard.isBlank_empty view
  refine ⟨_, hwired.value_reconfigure hview, ?_, rfl, ?_, ?_⟩
  · exact { hforgotten with }
  · constructor
    · intro hbehaves
      exact LatencyBoard.isBlank_setView.mp (isBlank_of_behavesLike hbehaves
        hnothing hearlier hwrite hpropose)
    · intro hblank
      have hlike : (old.board.setView view).LooksLike afresh.board :=
        ⟨rfl, Or.inr ⟨LatencyBoard.isBlank_setView.mpr hblank, hnothing⟩⟩
      exact Matches.behavesLike ⟨_, hlike, rfl⟩
  · rw [← LatencyBoard.value_fitted_setView_iff (hpropose.trans hwrite.symm) view]
    constructor
    · intro hvalue
      exact congrArg (fun result : Replica × Bool => result.1.board) hvalue
    · intro hempty
      have hchecked := LatencyBoard.value_checkInitialized_of_empty hempty
      rw [value_checkInitialized]
      change ((afresh.withBoard (old.board.setView view)).withBoard
        (old.board.setView view).checkInitialized.value.1,
        (old.board.setView view).checkInitialized.value.2) = _
      rw [hchecked]
      rfl

/-- What one of four replicas has reported is forgotten among seven. -/
theorem latency_among_four_is_forgotten_among_seven :
    let start : View := ⟨4, 1, by decide⟩
    let view : View := ⟨7, 2, by decide⟩
    let old := ((fresh 2 start .standard).run
      [.deliver 1 [⟨0, .latency, (LatencyVector.ofWrite [0, 5, 6, 7]).encode⟩],
        .setLeader 3]).value.1
    (start.contains 2 = true ∧ view.contains 2 = true) ∧ old.board.write.entry 0 1 = 5 ∧
      ∃ next, (old.reconfigure view).value = .ok next ∧ next.HasForgotten ∧
        next.checkInitialized.value = (freshUnder 3 2 view .standard, false) := by
  intro start view old
  have hstart : start.contains 2 = true := by decide
  have hview : view.contains 2 = true := by decide
  have hsize : old.board.write.size = 4 := by decide +kernel
  obtain ⟨next, hnext, hforgotten, -, -, hchecked⟩ :=
    reconfigured_behaves_like_fresh_iff hstart hview .standard
      [.deliver 1 [⟨0, .latency, (LatencyVector.ofWrite [0, 5, 6, 7]).encode⟩], .setLeader 3]
  refine ⟨⟨hstart, hview⟩, by decide +kernel, next, hnext, hforgotten, hchecked.mpr ?_⟩
  intro hseven
  exact absurd (hsize.symm.trans hseven) (by decide)

/-- Among four replicas again, what a quorum has reported is still known. -/
theorem latencies_survive_among_four :
    let view : View := ⟨4, 0, by decide⟩
    let report := (LatencyVector.ofWrite [5, 6, 7, 8]).encode
    let old := ((fresh 2 ⟨4, 1, by decide⟩ .standard).run
      [.deliver 1 [⟨0, .latency, report⟩, ⟨1, .latency, report⟩, ⟨2, .latency, report⟩,
        ⟨3, .latency, report⟩]]).value.1
    ∃ next, (old.reconfigure view).value = .ok next ∧ next.checkInitialized.value.2 = true ∧
      ¬ next.BehavesLike (freshUnder old.leader 2 view .standard) := by
  intro view report old
  have hwired : old.IsWired 2 .standard := (isWired_fresh (by decide) _).run _
  let next := (freshUnder old.leader 2 view .standard).withBoard (old.board.setView view)
  have hknown : next.checkInitialized.value.2 = true := by decide +kernel
  have hunknown : (freshUnder old.leader 2 view .standard).checkInitialized.value.2 = false := by
    decide +kernel
  refine ⟨next, hwired.value_reconfigure (by decide), hknown, ?_⟩
  intro hbehaves
  have hinitialized := hbehaves.initialized
  rw [hknown, hunknown] at hinitialized
  exact Bool.false_ne_true hinitialized.symm

end Replica
end SuspicionMonitor
