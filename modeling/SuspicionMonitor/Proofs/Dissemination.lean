import SuspicionMonitor.Proofs.Arming

/-!
# Latencies that have been disseminated

What a replica publishes comes back in total order to every replica of its
view, and becomes a row of their latency boards, the publisher's own.  Views
may have any size, but vectors for more than `maxReplicas` replicas are not
read: in a larger view nothing that is published reaches a board.
-/

namespace SuspicionMonitor

theorem View.contains_zero (view : View) : view.contains 0 = true := by
  simpa [contains] using view.n_pos

namespace LatencyBoard

/-- The rows of `sender` hold the vector, and every other row is as before. -/
structure HasStored (after before : LatencyBoard) (sender : ReplicaId)
    (vector : LatencyVector) : Prop where
  write : after.write[sender.toNat]? = some vector.write.toArray
  propose : after.propose[sender.toNat]? = some vector.propose.toArray
  otherWrites : ∀ i, i ≠ sender.toNat → after.write[i]? = before.write[i]?
  otherProposes : ∀ i, i ≠ sender.toNat → after.propose[i]? = before.propose[i]?

variable {board : LatencyBoard} {sender : ReplicaId} {vector : LatencyVector}

theorem hasStored_store (hsize : vector.size = board.view.n)
    (hsender : board.view.contains sender = true) :
    (board.store sender vector).value.HasStored board.fitted.value sender vector := by
  obtain ⟨hwrite, hpropose⟩ := fits_iff.mp board.fits_fitted
  have hplace : sender.toNat < board.fitted.value.view.n := by
    rw [view_fitted]
    simpa [View.contains] using hsender
  have haccepted : vector.size = board.fitted.value.view.n ∧
      board.fitted.value.view.contains sender = true := by
    rw [view_fitted]
    exact ⟨hsize, hsender⟩
  have hstore : (board.store sender vector).value = { board.fitted.value with
      write := board.fitted.value.write.setIfInBounds sender.toNat vector.write.toArray
      propose := board.fitted.value.propose.setIfInBounds sender.toNat
        vector.propose.toArray } := by
    unfold store
    rw [Logged.value_bind, if_pos (by simpa using haccepted)]
    rfl
  rw [hstore]
  refine ⟨?_, ?_, fun i hi => ?_, fun i hi => ?_⟩
  · rw [Array.getElem?_setIfInBounds_self, hwrite, if_pos hplace]
  · rw [Array.getElem?_setIfInBounds_self, hpropose, if_pos hplace]
  · exact Array.getElem?_setIfInBounds_ne hi.symm
  · exact Array.getElem?_setIfInBounds_ne hi.symm

theorem hasStored_notify (hlength : vector.propose.length = vector.write.length)
    (hsize : vector.size = board.view.n) (hview : board.view.n ≤ maxReplicas)
    (hsender : board.view.contains sender = true) :
    (board.notify sender vector.encode).value.HasStored board.fitted.value sender vector := by
  have hread := LatencyVector.decode_encode hlength (by rwa [hsize])
  unfold notify
  rw [hread]
  exact hasStored_store hsize hsender

theorem notify_of_large (hlength : vector.propose.length = vector.write.length)
    (hsize : maxReplicas < vector.size) : (board.notify sender vector.encode).value = board := by
  obtain ⟨cause, hunread⟩ := LatencyVector.decode_encode_of_large hlength hsize
  unfold notify
  rw [hunread]
  rfl

theorem not_hasStored_empty {before : LatencyBoard} {view : View}
    (hsender : view.contains sender = true) {latency : Nanos} (hlatency : latency ∈ vector.write)
    (hknown : latency.isMissing = false) : ¬ (empty view).HasStored before sender vector := by
  intro hstored
  have hplace : sender.toNat < view.n := by simpa [View.contains] using hsender
  have hrow : (empty view).write[sender.toNat]? =
      some (Array.replicate view.n Nanos.missing) := by
    rw [empty, LatencyMatrix.missing, Array.getElem?_replicate, if_pos hplace]
  have hvector : Array.replicate view.n Nanos.missing = vector.write.toArray :=
    Option.some.inj (hrow.symm.trans hstored.write)
  have hmissing : latency = Nanos.missing := by
    refine Array.eq_of_mem_replicate (n := view.n) ?_
    rw [hvector]
    exact List.mem_toArray.mpr hlatency
  rw [hmissing] at hknown
  contradiction

end LatencyBoard

namespace Replica

/-- There is a window for each replica of the view. -/
structure CoversView (replica : Replica) : Prop where
  write : replica.writeWindows.windows.size = replica.view.n
  propose : replica.proposeWindows.windows.size = replica.view.n

theorem coversView_fresh (id : ReplicaId) (view : View) (settings : Settings) :
    (fresh id view settings).CoversView := by
  constructor <;> simp [fresh, LatencyWindows.empty]

variable {replica : Replica}

theorem CoversView.refreshExpectation (hcovers : replica.CoversView) (leader : ReplicaId) :
    (replica.refreshExpectation leader).value.1.CoversView := by
  unfold Replica.refreshExpectation
  simp only [Logged.value_bind]
  split
  · exact { hcovers with }
  · exact { hcovers with }

theorem CoversView.reconfigure (hcovers : replica.CoversView) (view : View) :
    (replica.respond (.reconfigure view)).value.1.CoversView := by
  rw [value_respond_reconfigure]
  by_cases hmember : view.contains replica.id = true
  · rw [value_reconfigure_of_contains hmember]
    constructor <;> simp [LatencyWindows.reset, LatencyWindows.empty]
  · rw [value_reconfigure_of_not_contains hmember]
    exact hcovers

theorem CoversView.respond (hcovers : replica.CoversView) (call : ReplicaCall) :
    (replica.respond call).value.1.CoversView := by
  cases call with
  | deliver round values =>
      have hnext : (replica.respond (.deliver round values)).value.1 =
          (replica.deliver round values).value := rfl
      rw [hnext, value_deliver]
      exact { hcovers with }
  | notify sender payload =>
      have hnext : (replica.respond (.notify sender payload)).value.1 =
          (replica.notify sender payload).value := rfl
      rw [hnext, value_notify]
      exact { hcovers with }
  | reconfigure view => exact hcovers.reconfigure view
  | recordPropose peer latency =>
      exact ⟨hcovers.write, Array.size_modify.trans hcovers.propose⟩
  | recordWrite peer latency =>
      exact ⟨Array.size_modify.trans hcovers.write, hcovers.propose⟩
  | refreshExpectation leader => exact hcovers.refreshExpectation leader
  | checkProposal | checkVote | noteRequest | disseminate | setLeader | candidateSet
  | checkInitialized | predict => exact { hcovers with }

theorem CoversView.run (hcovers : replica.CoversView) (calls : List ReplicaCall) :
    (replica.run calls).value.1.CoversView := by
  induction calls generalizing replica with
  | nil => exact hcovers
  | cons call calls ih => exact ih (hcovers.respond call)

theorem CoversView.length_latencies (hcovers : replica.CoversView) :
    replica.latencies.write.length = replica.view.n ∧
      replica.latencies.propose.length = replica.view.n := by
  simp [latencies, LatencyWindows.medians, hcovers.write, hcovers.propose]

/-! ## Publishers and receivers -/

/-- A replica of the view, whatever has happened to it so far. -/
structure BelongsTo (replica : Replica) (view : View) : Prop where
  reached : ∃ id start settings first calls, ofSettings id start settings = .ok first ∧
    replica = (first.run calls).value.1
  sameView : replica.view = view

variable {publisher receiver : Replica} {view : View}

theorem contains_of_ofSettings {id : ReplicaId} {settings : Settings}
    (hreplica : ofSettings id view settings = .ok replica) : view.contains id = true := by
  unfold ofSettings at hreplica
  split at hreplica
  · contradiction
  · split at hreplica
    next hmember => exact hmember
    next => contradiction

theorem BelongsTo.isWired (hbelongs : replica.BelongsTo view) :
    ∃ settings, replica.IsWired replica.id settings := by
  obtain ⟨⟨id, start, settings, first, calls, hfirst, rfl⟩, -⟩ := hbelongs
  have hmember := contains_of_ofSettings hfirst
  obtain rfl := eq_fresh_of_ofSettings hfirst
  have hwired := (isWired_fresh hmember settings).run calls
  refine ⟨settings, ?_⟩
  rwa [hwired.identity]

theorem BelongsTo.coversView (hbelongs : replica.BelongsTo view) : replica.CoversView := by
  obtain ⟨⟨id, start, settings, first, calls, hfirst, rfl⟩, -⟩ := hbelongs
  obtain rfl := eq_fresh_of_ofSettings hfirst
  exact (coversView_fresh id start settings).run calls

/-- Whoever is sent what a replica has disseminated takes it to the board. -/
theorem board_deliver_disseminate (publisher receiver : Replica) (round : Round) :
    (receiver.deliver round publisher.disseminate.submissions).value.board =
      (receiver.board.notify publisher.id publisher.latencies.encode).value := by
  rw [value_deliver, submissions_disseminate]
  rfl

theorem hasStored_deliver_disseminate (hpublisher : publisher.BelongsTo view)
    (hreceiver : receiver.BelongsTo view) (hview : view.n ≤ maxReplicas) (round : Round) :
    (receiver.deliver round publisher.disseminate.submissions).value.board.HasStored
      receiver.board.fitted.value publisher.id publisher.latencies := by
  obtain ⟨settings, hwired⟩ := hpublisher.isWired
  obtain ⟨settings', hwired'⟩ := hreceiver.isWired
  obtain ⟨hwrite, hpropose⟩ := hpublisher.coversView.length_latencies
  have hboard : receiver.board.view = publisher.view := by
    rw [hwired'.boardView, hreceiver.sameView, hpublisher.sameView]
  rw [board_deliver_disseminate]
  apply LatencyBoard.hasStored_notify (hpropose.trans hwrite.symm)
  · rw [hboard]
    exact hwrite
  · rw [hboard, hpublisher.sameView]
    exact hview
  · rw [hboard]
    exact hwired.member

theorem board_deliver_disseminate_of_large (hpublisher : publisher.BelongsTo view)
    (hview : maxReplicas < view.n) (receiver : Replica) (round : Round) :
    (receiver.deliver round publisher.disseminate.submissions).value.board =
      receiver.board := by
  obtain ⟨hwrite, hpropose⟩ := hpublisher.coversView.length_latencies
  rw [hpublisher.sameView] at hwrite hpropose
  rw [board_deliver_disseminate]
  apply LatencyBoard.notify_of_large (hpropose.trans hwrite.symm)
  rw [LatencyVector.size, hwrite]
  exact hview

/-- Replica 0 of the view, once it has observed a link to itself. -/
def firstObserver (view : View) : Replica :=
  ((fresh 0 view .standard).run [.recordWrite 0 5]).value.1

theorem belongsTo_of_run {id : ReplicaId} {start : View} (hmember : start.contains id = true)
    {calls : List ReplicaCall} (hreplica : replica = ((fresh id start .standard).run calls).value.1)
    (hview : replica.view = view) : replica.BelongsTo view := by
  have hvalid : Settings.standard.invalid? = none := by decide
  have hfirst : ofSettings id start .standard = .ok (fresh id start .standard) := by
    rw [ofSettings, hvalid]
    exact if_pos hmember
  exact ⟨⟨id, start, .standard, _, calls, hfirst, hreplica⟩, hview⟩

theorem belongsTo_firstObserver (view : View) : (firstObserver view).BelongsTo view :=
  belongsTo_of_run view.contains_zero rfl rfl

theorem mem_write_firstObserver (view : View) : 5 ∈ (firstObserver view).latencies.write :=
  LatencyWindows.mem_medians_recordAll (fun _ => 5) (List.nodup_singleton 0)
    (List.mem_singleton_self 0) view.n_pos

/-- Its observation is lost on itself if the view is too large. -/
theorem firstObserver_not_stored (hview : maxReplicas < view.n) (round : Round) :
    ¬ ((firstObserver view).deliver round
        (firstObserver view).disseminate.submissions).value.board.HasStored
      (firstObserver view).board.fitted.value (firstObserver view).id
      (firstObserver view).latencies := by
  rw [board_deliver_disseminate_of_large (belongsTo_firstObserver view) hview]
  exact LatencyBoard.not_hasStored_empty view.contains_zero (mem_write_firstObserver view) rfl

/-- What a replica disseminates is stored by every replica of its view exactly
if vectors for so many replicas are read.  Otherwise it changes no board. -/
theorem disseminated_latencies_land_iff (view : View) :
    ((∀ publisher receiver : Replica, publisher.BelongsTo view → receiver.BelongsTo view →
        ∀ round, (receiver.deliver round publisher.disseminate.submissions).value.board.HasStored
          receiver.board.fitted.value publisher.id publisher.latencies) ↔
      view.n ≤ maxReplicas) ∧
    (maxReplicas < view.n → ∀ publisher receiver : Replica, publisher.BelongsTo view →
      ∀ round, (receiver.deliver round publisher.disseminate.submissions).value.board =
        receiver.board) := by
  refine ⟨⟨?_, ?_⟩, ?_⟩
  · intro hstored
    by_contra hlarge
    have hbelongs := belongsTo_firstObserver view
    exact firstObserver_not_stored (Nat.lt_of_not_le hlarge) 1 (hstored _ _ hbelongs hbelongs 1)
  · intro hview publisher receiver hpublisher hreceiver round
    exact hasStored_deliver_disseminate hpublisher hreceiver hview round
  · intro hview publisher receiver hpublisher round
    exact board_deliver_disseminate_of_large hpublisher hview receiver round

/-- Replica 2 is heard by a replica that has come from a larger view. -/
theorem replica_two_lands_among_four :
    let view : View := ⟨4, 1, by decide⟩
    let publisher := ((fresh 2 view .standard).run [.recordWrite 0 5, .recordPropose 1 7]).value.1
    let receiver :=
      ((fresh 0 ⟨7, 2, by decide⟩ .standard).run [.reconfigure view, .setLeader 3]).value.1
    (receiver.deliver 1 publisher.disseminate.submissions).value.board.HasStored
      receiver.board.fitted.value publisher.id publisher.latencies := by
  intro view publisher receiver
  have hpublisher : publisher.BelongsTo view := belongsTo_of_run (by decide) rfl rfl
  have hreceiver : receiver.BelongsTo view := belongsTo_of_run (by decide) rfl rfl
  exact (disseminated_latencies_land_iff view).1.mpr (by decide) publisher receiver hpublisher
    hreceiver 1

/-- Among 1025 replicas, replica 0 does not even hear itself. -/
theorem replica_zero_is_lost_among_1025 :
    let view : View := ⟨1025, 0, by decide⟩
    let publisher := ((fresh 0 view .standard).run [.recordWrite 0 5]).value.1
    ¬ (publisher.deliver 1 publisher.disseminate.submissions).value.board.HasStored
      publisher.board.fitted.value publisher.id publisher.latencies :=
  firstObserver_not_stored (by decide) 1

end Replica
end SuspicionMonitor
