import SuspicionMonitor.Proofs.Deliveries

/-!
# The order within a batch

A batch is handed to a replica value by value, so its order could matter.  It
does to a sender that reports its latencies twice: the last report stays.  If
nobody does, the order makes no difference.  The rows of different senders are
written independently, also when the first of them finds that the board has to
start anew; the ledger holds a set, which it feeds to its graph in an order of
its own; and what the replica answers depends on each value alone.
-/

namespace SuspicionMonitor

namespace LatencyBoard

/-- The board with the vector in the rows of its sender, if it has its place
there. -/
def withRows (board : LatencyBoard) (sender : ReplicaId) (vector : LatencyVector) :
    LatencyBoard :=
  if vector.size = board.view.n && board.view.contains sender then
    { board with
      write := board.write.setIfInBounds sender.toNat vector.write.toArray
      propose := board.propose.setIfInBounds sender.toNat vector.propose.toArray }
  else
    board

theorem value_store (board : LatencyBoard) (sender : ReplicaId) (vector : LatencyVector) :
    (board.store sender vector).value = board.fitted.value.withRows sender vector := by
  unfold store withRows
  rw [Logged.value_bind]
  split <;> rfl

theorem withRows_comm (board : LatencyBoard) {sender other : ReplicaId} (hne : sender ≠ other)
    (vector report : LatencyVector) :
    (board.withRows sender vector).withRows other report =
      (board.withRows other report).withRows sender vector := by
  have hplaces : sender.toNat ≠ other.toNat := fun hsame => hne (UInt32.toNat_inj.mp hsame)
  by_cases hvector : (vector.size = board.view.n && board.view.contains sender) = true
  · by_cases hreport : (report.size = board.view.n && board.view.contains other) = true
    · simp only [withRows, hvector, hreport, if_true]
      rw [Array.setIfInBounds_comm _ _ hplaces, Array.setIfInBounds_comm _ _ hplaces]
    · simp [withRows, hvector, hreport]
  · by_cases hreport : (report.size = board.view.n && board.view.contains other) = true
    · simp [withRows, hvector, hreport]
    · simp [withRows, hvector, hreport]

/-- A board that has been stored to is in use, so only the first of several
vectors can find it of another size than the view. -/
theorem value_store_store (board : LatencyBoard) (sender other : ReplicaId)
    (vector report : LatencyVector) :
    ((board.store sender vector).value.store other report).value =
      (board.fitted.value.withRows sender vector).withRows other report := by
  have hused := (board.fits_store sender vector).1
  rw [value_store, value_fitted, if_pos hused, value_store]

theorem value_notify_comm (board : LatencyBoard) {sender other : ReplicaId}
    (hne : sender ≠ other) (payload bytes : Bytes) :
    ((board.notify sender payload).value.notify other bytes).value =
      ((board.notify other bytes).value.notify sender payload).value := by
  unfold notify
  cases LatencyVector.decode payload with
  | error cause =>
      cases LatencyVector.decode bytes <;> rfl
  | ok vector =>
      cases LatencyVector.decode bytes with
      | error cause => rfl
      | ok report =>
          dsimp only
          rw [value_store_store, value_store_store, withRows_comm _ hne]

end LatencyBoard

/-- Who sends latencies in a batch, once for each value. -/
def latencySenders (values : List Submission) : List ReplicaId :=
  (values.filter fun value => value.kind = .latency).map Submission.sender

theorem eq_of_mem_latencies {values : List Submission} (hsenders : (latencySenders values).Nodup)
    {value other : Submission} (hvalue : value ∈ values) (hother : other ∈ values)
    (hlatency : value.kind = .latency) (hlatency' : other.kind = .latency)
    (hsame : value.sender = other.sender) : value = other :=
  List.inj_on_of_nodup_map hsenders (List.mem_filter.mpr ⟨hvalue, by simpa using hlatency⟩)
    (List.mem_filter.mpr ⟨hother, by simpa using hlatency'⟩) hsame

theorem LatencyBoard.foldl_receive_perm {values permuted : List Submission}
    (hperm : values.Perm permuted) (hsenders : (latencySenders values).Nodup)
    (board : LatencyBoard) :
    permuted.foldl LatencyBoard.receive board = values.foldl LatencyBoard.receive board := by
  symm
  apply hperm.foldl_eq'
  intro value hvalue other hother board
  unfold LatencyBoard.receive
  cases hkind : value.kind with
  | suspicion => rfl
  | latency =>
      cases hkind' : other.kind with
      | suspicion => rfl
      | latency =>
          dsimp only
          by_cases hsame : value.sender = other.sender
          · rw [eq_of_mem_latencies hsenders hvalue hother hkind hkind' hsame]
          · exact board.value_notify_comm hsame value.payload other.payload

namespace Ledger

theorem foldl_store_congr (ledger : Ledger) {suspicions reordered : List Suspicion}
    (hmem : ∀ suspicion, suspicion ∈ suspicions ↔ suspicion ∈ reordered) :
    suspicions.foldl store ledger = reordered.foldl store ledger := by
  have hheld : (suspicions.foldl store ledger).held = (reordered.foldl store ledger).held := by
    apply Std.ExtTreeSet.ext_mem
    intro suspicion
    rw [mem_held_foldl_store, mem_held_foldl_store, hmem]
  rw [foldl_store_eq ledger suspicions, foldl_store_eq ledger reordered, hheld]

theorem deliver_perm (ledger : Ledger) (settings : LedgerSettings) (round : Round)
    {values permuted : List Submission} (hperm : values.Perm permuted) :
    ledger.deliver settings round permuted = ledger.deliver settings round values := by
  have hsuspicions := hperm.filterMap Submission.suspicion?
  have hreceived : permuted.foldl receive ledger = values.foldl receive ledger := by
    rw [foldl_receive, foldl_receive]
    exact (ledger.foldl_store_congr fun _ => hsuspicions.mem_iff).symm
  unfold deliver
  rw [hreceived]

end Ledger

namespace Replica

/-- A permutation of a batch in which no sender reports its latencies twice
leaves the replica in the same state, with the same ledger, board and
candidates, and makes it publish the same answers. -/
theorem delivery_ignores_order (replica : Replica) (round : Round)
    {values permuted : List Submission} (hperm : values.Perm permuted)
    (hsenders : (latencySenders values).Nodup) :
    let delivered := replica.deliver round values
    let reordered := replica.deliver round permuted
    reordered.value = delivered.value ∧
      reordered.value.candidateSet?.value = delivered.value.candidateSet?.value ∧
      reordered.submissions.Perm delivered.submissions := by
  intro delivered reordered
  have hvalue : reordered.value = delivered.value := by
    calc
      reordered.value =
          { replica with
            board := permuted.foldl LatencyBoard.receive replica.board
            ledger := replica.ledger.deliver replica.settings.ledger round permuted } :=
        replica.value_deliver round permuted
      _ = { replica with
            board := values.foldl LatencyBoard.receive replica.board
            ledger := replica.ledger.deliver replica.settings.ledger round values } := by
        rw [LatencyBoard.foldl_receive_perm hperm hsenders, Ledger.deliver_perm _ _ _ hperm]
      _ = delivered.value := (replica.value_deliver round values).symm
  refine ⟨hvalue, by rw [hvalue], ?_⟩
  rw [submissions_deliver, submissions_deliver]
  exact (hperm.filterMap replica.answer?).symm

/-- A replica that has moved from four peers to seven starts its board anew
with the first vector it can read, whichever that is, and answers an accusation
as often as it occurs. -/
theorem reversed_batch_among_seven :
    let moved : Replica :=
      { fresh 2 ⟨7, 2, by decide⟩ .standard with
        board := (LatencyBoard.empty ⟨4, 1, by decide⟩).setView ⟨7, 2, by decide⟩
        sensor := Sensor.empty.expect (.missing 7) }
    let slow (phase : Phase) (suspect : ReplicaId) : Bytes :=
      Suspicion.encode ⟨5, phase, .slow, suspect, 0⟩
    let values : List Submission :=
      [⟨0, .latency, (LatencyVector.ofWrite [1, 2, 3, 4, 5, 6, 7]).encode⟩,
        ⟨4, .suspicion, slow .write 2⟩, ⟨1, .latency, [1, 2, 3]⟩, ⟨6, .suspicion, slow .accept 2⟩,
        ⟨3, .latency, (LatencyVector.ofWrite [1, 2, 3, 4]).encode⟩, ⟨4, .suspicion, slow .write 2⟩,
        ⟨5, .latency, (LatencyVector.ofWrite [7, 6, 5, 4, 3, 2, 1]).encode⟩,
        ⟨5, .suspicion, slow .propose 6⟩, ⟨9, .suspicion, [0]⟩]
    let delivered := moved.deliver 6 values
    let reordered := moved.deliver 6 values.reverse
    (values.Perm values.reverse ∧ (latencySenders values).Nodup) ∧
      (delivered.submissions.length = 3 ∧ delivered.value.board.write.entry 5 1 = 6) ∧
      reordered.value = delivered.value ∧
      reordered.value.candidateSet?.value = delivered.value.candidateSet?.value ∧
      reordered.submissions.Perm delivered.submissions := by
  intro moved slow values delivered reordered
  have hperm : values.Perm values.reverse := values.reverse_perm.symm
  have hsenders : (latencySenders values).Nodup := by decide
  refine ⟨⟨hperm, hsenders⟩, ⟨by decide +kernel, by decide +kernel⟩, ?_⟩
  exact delivery_ignores_order moved 6 hperm hsenders

end Replica

end SuspicionMonitor
