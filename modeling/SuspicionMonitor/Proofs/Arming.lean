import SuspicionMonitor.Proofs.LatencyCodec
import SuspicionMonitor.Proofs.Reconfiguration
import SuspicionMonitor.Proofs.Settling

/-!
# Arming a fresh scenario

Every replica records latencies towards its peers and publishes them.  One
delivery brings the reports of all replicas to the board of each, which is more
than a quorum, so all sensors are armed.  Nobody has been late by then, and
nobody has been suspected.
-/

namespace SuspicionMonitor

namespace LatencyWindows

def recordAll (windows : LatencyWindows) (latencyTo : ReplicaId → Nanos)
    (peers : List ReplicaId) : LatencyWindows :=
  peers.foldl (fun windows peer => windows.record peer (latencyTo peer)) windows

theorem size_recordAll (windows : LatencyWindows) (latencyTo : ReplicaId → Nanos)
    (peers : List ReplicaId) :
    (windows.recordAll latencyTo peers).windows.size = windows.windows.size := by
  induction peers generalizing windows with
  | nil => rfl
  | cons peer peers ih =>
      exact (ih _).trans Array.size_modify

theorem getElem?_record (windows : LatencyWindows) (peer id : ReplicaId) (latency : Nanos) :
    (windows.record peer latency).windows[id.toNat]? =
      if id = peer then windows.windows[id.toNat]?.map (slide windows.capacity · latency)
      else windows.windows[id.toNat]? := by
  simp only [record, Array.getElem?_modify, UInt32.toNat_inj, eq_comm (a := peer)]

theorem getElem?_recordAll (windows : LatencyWindows) (latencyTo : ReplicaId → Nanos)
    {peers : List ReplicaId} (hpeers : peers.Nodup) (id : ReplicaId) :
    (windows.recordAll latencyTo peers).windows[id.toNat]? =
      if id ∈ peers then
        windows.windows[id.toNat]?.map (slide windows.capacity · (latencyTo id))
      else
        windows.windows[id.toNat]? := by
  induction peers generalizing windows with
  | nil => rfl
  | cons peer peers ih =>
      obtain ⟨hfresh, hrest⟩ := List.nodup_cons.mp hpeers
      have hnext := ih (windows.record peer (latencyTo peer)) hrest
      rw [getElem?_record] at hnext
      refine Eq.trans hnext ?_
      by_cases hid : id = peer
      · subst hid
        simp [hfresh]
      · simp only [hid, if_false, List.mem_cons, false_or]
        rfl

theorem slide_nil (capacity : Nat) (latency : Nanos) : slide capacity [] latency = [latency] := by
  unfold slide
  split <;> rfl

theorem median_singleton (latency : Nanos) : median [latency] = latency := by
  simp [median]

theorem length_medians_recordAll (peers capacity : Nat) (latencyTo : ReplicaId → Nanos)
    (ids : List ReplicaId) :
    ((empty peers capacity).recordAll latencyTo ids).medians.length = peers := by
  simp [medians, size_recordAll, empty]

/-- Each peer that has been observed once is reported with what was observed. -/
theorem mem_medians_recordAll {peers capacity : Nat} (latencyTo : ReplicaId → Nanos)
    {ids : List ReplicaId} (hids : ids.Nodup) {id : ReplicaId} (hid : id ∈ ids)
    (hpeer : id.toNat < peers) :
    latencyTo id ∈ ((empty peers capacity).recordAll latencyTo ids).medians := by
  have hwindow : ((empty peers capacity).recordAll latencyTo ids).windows[id.toNat]? =
      some [latencyTo id] := by
    rw [getElem?_recordAll _ _ hids, if_pos hid]
    simp [empty, hpeer, slide_nil]
  refine List.mem_map.mpr ⟨[latencyTo id], ?_, median_singleton _⟩
  exact Array.mem_toList_iff.mpr (Array.mem_of_getElem? hwindow)

end LatencyWindows

namespace Cluster

/-- What a replica records towards a peer in a scenario with uniform links. -/
def latencyTowards (self : ReplicaId) (latency : Nanos) (peer : ReplicaId) : Nanos :=
  if peer == self then 0 else latency

theorem recordUniform_eq (write propose : Nanos) (replica : Replica) (peers : List ReplicaId) :
    recordUniform write propose replica peers =
      { replica with
        writeWindows := replica.writeWindows.recordAll (latencyTowards replica.id write) peers
        proposeWindows :=
          replica.proposeWindows.recordAll (latencyTowards replica.id propose) peers } := by
  unfold recordUniform
  induction peers generalizing replica with
  | nil => rfl
  | cons peer peers ih =>
      rw [List.foldl_cons, ih]
      rfl

end Cluster

/-- Latencies that a replica of the view has published.  At least one of them
is known. -/
structure Submission.IsReport (view : View) (value : Submission) : Prop where
  member : view.contains value.sender = true
  vector : ∃ vector : LatencyVector, value = ⟨value.sender, .latency, vector.encode⟩ ∧
    vector.write.length = view.n ∧ vector.propose.length = view.n ∧
    ∃ latency ∈ vector.write, latency.isMissing = false

theorem Submission.IsReport.suspicion?_eq_none {view : View} {value : Submission}
    (hreport : value.IsReport view) : value.suspicion? = none := by
  obtain ⟨vector, hvalue, -⟩ := hreport.vector
  rw [hvalue]
  rfl

namespace LatencyBoard

variable {board : LatencyBoard} {view : View}

/-- Whether the replica is known to have reported a latency. -/
def Knows (board : LatencyBoard) (id : ReplicaId) : Prop :=
  ∃ row, board.write[id.toNat]? = some row ∧ ∃ latency ∈ row, latency.isMissing = false

/-- The matrices have been made for the view. -/
structure IsFor (board : LatencyBoard) (view : View) : Prop where
  sameView : board.view = view
  write : board.write.size = view.n
  propose : board.propose.size = view.n

theorem isFor_empty (view : View) : (empty view).IsFor view := by
  constructor <;> simp [empty, LatencyMatrix.size_missing]

theorem IsFor.value_fitted (hfor : board.IsFor view) : board.fitted.value = board := by
  rw [LatencyBoard.value_fitted, if_pos]
  rw [fits_iff, hfor.sameView]
  exact ⟨hfor.write, hfor.propose⟩

theorem IsFor.receive_report (hfor : board.IsFor view) (hview : view.n ≤ maxReplicas)
    {value : Submission} (hreport : value.IsReport view) :
    (board.receive value).IsFor view ∧
      ∀ id, board.Knows id ∨ value.sender = id → (board.receive value).Knows id := by
  obtain ⟨hmember, vector, hvalue, hwrite, hpropose, hknown⟩ := hreport
  have hdecode : LatencyVector.decode vector.encode = .ok vector :=
    LatencyVector.decode_encode (hpropose.trans hwrite.symm) (by
      rw [LatencyVector.size, hwrite]
      exact hview)
  have hreceive : board.receive value = { board with
      write := board.write.setIfInBounds value.sender.toNat vector.write.toArray
      propose := board.propose.setIfInBounds value.sender.toNat vector.propose.toArray } := by
    have hrow : vector.size = board.view.n ∧ board.view.contains value.sender = true := by
      rw [hfor.sameView]
      exact ⟨hwrite, hmember⟩
    rw [hvalue]
    simp only [receive, notify, hdecode, store, Logged.value_bind, hfor.value_fitted]
    rw [if_pos (by simpa using hrow)]
    rfl
  have hplace : value.sender.toNat < board.write.size := by
    rw [hfor.write]
    simpa [View.contains] using hmember
  rw [hreceive]
  refine ⟨⟨hfor.sameView, by simp [hfor.write], by simp [hfor.propose]⟩, ?_⟩
  intro id hid
  by_cases hsender : value.sender = id
  · subst hsender
    refine ⟨vector.write.toArray, ?_, by simpa using hknown⟩
    simp [hplace]
  · obtain ⟨row, hrow, hlatency⟩ := hid.resolve_right hsender
    refine ⟨row, ?_, hlatency⟩
    rw [Array.getElem?_setIfInBounds_ne (fun hsame => hsender (UInt32.toNat_inj.mp hsame))]
    exact hrow

theorem IsFor.foldl_receive (hfor : board.IsFor view) (hview : view.n ≤ maxReplicas)
    {values : List Submission} (hreports : ∀ value ∈ values, value.IsReport view) :
    (values.foldl receive board).IsFor view ∧
      ∀ id, board.Knows id ∨ id ∈ values.map Submission.sender →
        (values.foldl receive board).Knows id := by
  induction values generalizing board with
  | nil => exact ⟨hfor, fun id hid => hid.resolve_right List.not_mem_nil⟩
  | cons value values ih =>
      obtain ⟨hfirst, hrest⟩ := List.forall_mem_cons.mp hreports
      obtain ⟨hnext, hknows⟩ := hfor.receive_report hview hfirst
      obtain ⟨hend, hknown⟩ := ih hnext hrest
      refine ⟨hend, fun id hid => hknown id ?_⟩
      rw [List.map_cons, List.mem_cons, ← or_assoc, eq_comm (a := id)] at hid
      exact hid.imp_left (hknows id)

/-- A quorum has reported if everybody has. -/
theorem IsFor.isInitialized (hfor : board.IsFor view) (hview : view.n < UInt32.size)
    (hknown : ∀ id ∈ view.replicas, board.Knows id) :
    board.checkInitialized.value.2 = true := by
  have hall : board.reporters = view.n := by
    unfold reporters
    rw [List.countP_eq_length.mpr]
    · simp [hfor.write, hfor.propose]
    rintro ⟨write, propose⟩ hrow
    obtain ⟨i, hlisted, hplace⟩ := List.getElem_of_mem (List.of_mem_zip hrow).1
    have hi : i < view.n := by simpa [hfor.write] using hlisted
    have hid : (UInt32.ofNat i).toNat = i := UInt32.toNat_ofNat_of_lt' (hi.trans hview)
    obtain ⟨row, hrow, latency, hlatency, hpresent⟩ := hknown (UInt32.ofNat i) (by
      rw [View.mem_replicas, hid, Nat.mod_eq_of_lt hview]
      exact hi)
    rw [hid, ← Array.getElem?_toList, List.getElem?_eq_getElem hlisted, hplace,
      Option.some.injEq] at hrow
    subst hrow
    simp only [Array.any_eq_true', Array.mem_append]
    exact ⟨latency, Or.inl hlatency, by rw [hpresent]; rfl⟩
  have hquorum : view.quorum ≤ view.n := Nat.sub_le _ _
  simp only [checkInitialized, Logged.value_bind, Logged.value_pure, hfor.value_fitted, hall,
    hfor.sameView, hquorum, decide_true]

end LatencyBoard

/-! ## Replicas that stand by -/

/-- The replica is armed, has seen nobody late, and holds the ledger. -/
structure Replica.StandsBy (replica : Replica) (settings : Settings) (ledger : Ledger) : Prop where
  setUp : replica.settings = settings
  holds : replica.ledger = ledger
  armed : replica.sensor.isArmed = true
  unflagged : replica.sensor.flagged = ∅

/-- All replicas of the view stand by with the same ledger. -/
structure Cluster.StandsBy (cluster : Cluster) (view : View) (settings : Settings)
    (ledger : Ledger) : Prop where
  ids : cluster.ids = view.replicas
  replicas : ∀ replica ∈ cluster.replicas, replica.StandsBy settings ledger

namespace Replica

theorem refreshExpectation_of_initialized {replica : Replica}
    (hinitialized : replica.board.checkInitialized.value.2 = true) (leader : ReplicaId) :
    ∃ expectation, (replica.refreshExpectation leader).value =
      ({ replica with
        board := (replica.refreshExpectation leader).value.1.board
        sensor := replica.sensor.expect expectation }, true) := by
  have hchecked : replica.checkInitialized.value.2 = true := hinitialized
  unfold refreshExpectation
  simp only [Logged.value_bind, hchecked, if_true, Logged.value_pure]
  exact ⟨_, rfl⟩

theorem submissions_disseminate (replica : Replica) :
    replica.disseminate.submissions = [⟨replica.id, .latency, replica.latencies.encode⟩] := by
  simp only [disseminate, LatencyVector.publish, Logged.submissions_bind, Logged.count,
    Logged.submit]
  rfl

theorem isReport_latencies {id : ReplicaId} {view : View} (hid : id ∈ view.replicas)
    (settings : Settings) (write propose : Nanos) :
    (Submission.mk id .latency
      (Cluster.recordUniform write propose (fresh id view settings)).latencies.encode).IsReport
        view := by
  have hmember := View.contains_of_mem_replicas hid
  have hplace : id.toNat < view.n := by simpa [View.contains] using hmember
  refine ⟨hmember, _, rfl, ?_, ?_, 0, ?_, rfl⟩
  · rw [Cluster.recordUniform_eq]
    exact LatencyWindows.length_medians_recordAll _ _ _ _
  · rw [Cluster.recordUniform_eq]
    exact LatencyWindows.length_medians_recordAll _ _ _ _
  · have hself : Cluster.latencyTowards id write id = 0 := if_pos (beq_self_eq_true id)
    rw [Cluster.recordUniform_eq, ← hself]
    exact LatencyWindows.mem_medians_recordAll _ view.nodup_replicas hid hplace

end Replica

namespace Scenario

theorem value_armReplicas {replicas : List Replica}
    (hinitialized : ∀ replica ∈ replicas, replica.board.checkInitialized.value.2 = true) :
    (armReplicas replicas).value =
      (replicas.map fun replica => (replica.refreshExpectation 0).value.1, .ok ()) := by
  induction replicas with
  | nil => rfl
  | cons replica replicas ih =>
      obtain ⟨hfirst, hrest⟩ := List.forall_mem_cons.mp hinitialized
      obtain ⟨expectation, hvalue⟩ := Replica.refreshExpectation_of_initialized hfirst 0
      have harmed : (replica.refreshExpectation 0).value.2 = true := by rw [hvalue]
      simp only [armReplicas, Logged.value_bind, harmed, if_true, ih hrest, Logged.value_pure,
        List.map_cons]

/-- The scenario in which no replica has seen anything yet. -/
def fresh (view : View) (settings : Settings) : Scenario :=
  ⟨view, { replicas := view.replicas.map fun id => Replica.fresh id view settings }⟩

def firstReports (view : View) (settings : Settings) : List Submission :=
  view.replicas.map fun id => ⟨id, .latency,
    (Cluster.recordUniform writeLatency proposeLatency
      (Replica.fresh id view settings)).latencies.encode⟩

variable {view : View} {settings : Settings}

theorem isReport_of_mem_firstReports {value : Submission}
    (hvalue : value ∈ firstReports view settings) : value.IsReport view := by
  obtain ⟨id, hid, rfl⟩ := List.mem_map.mp hvalue
  exact Replica.isReport_latencies hid settings writeLatency proposeLatency

theorem senders_firstReports (view : View) (settings : Settings) :
    (firstReports view settings).map Submission.sender = view.replicas := by
  rw [firstReports, List.map_map]
  exact List.map_id view.replicas

/-- A replica of a fresh scenario once it has received all first reports. -/
def informed (view : View) (settings : Settings) (id : ReplicaId) : Replica :=
  ((Cluster.recordUniform writeLatency proposeLatency (Replica.fresh id view settings)).deliver 1
    (firstReports view settings)).value

theorem informed_eq (view : View) (settings : Settings) (id : ReplicaId) :
    informed view settings id =
      { Replica.fresh id view settings with
        board := (firstReports view settings).foldl LatencyBoard.receive (.empty view)
        ledger := (Ledger.empty view).deliver settings.ledger 1 (firstReports view settings)
        proposeWindows := (informed view settings id).proposeWindows
        writeWindows := (informed view settings id).writeWindows } := by
  unfold informed
  rw [Replica.value_deliver, Cluster.recordUniform_eq]
  rfl

theorem isInitialized_informed (hview : view.n ≤ maxReplicas) (id : ReplicaId) :
    (informed view settings id).board.checkInitialized.value.2 = true := by
  have hreports : ∀ value ∈ firstReports view settings, value.IsReport view :=
    fun _ => isReport_of_mem_firstReports
  obtain ⟨hfor, hknown⟩ := (LatencyBoard.isFor_empty view).foldl_receive hview hreports
  have hsize : view.n < UInt32.size := lt_of_le_of_lt hview (by decide)
  rw [informed_eq]
  refine hfor.isInitialized hsize fun other hother => hknown other (Or.inr ?_)
  rwa [senders_firstReports]

theorem value_onEach_fresh (view : View) (settings : Settings) :
    ((fresh view settings).cluster.onEach fun replica => do
      let replica := Cluster.recordUniform writeLatency proposeLatency replica view.replicas
      replica.disseminate
      return (replica, ())).value.1 =
      { replicas := view.replicas.map fun id =>
          Cluster.recordUniform writeLatency proposeLatency (Replica.fresh id view settings)
        pending := firstReports view settings } := by
  have hreports : firstReports view settings = view.replicas.flatMap fun id =>
      [⟨id, .latency, (Cluster.recordUniform writeLatency proposeLatency
        (Replica.fresh id view settings)).latencies.encode⟩] := List.map_eq_flatMap
  rw [Cluster.value_onEach, fresh, List.map_map, List.flatMap_map, List.nil_append, hreports]
  simp only [Logged.submissions_bind, Logged.submissions_pure, Replica.submissions_disseminate,
    List.append_nil, id_recordUniform]
  rfl

theorem deliver_firstReports (view : View) (settings : Settings) :
    (Ledger.empty view).deliver settings.ledger 1 (firstReports view settings) =
      (Ledger.empty view).deliver settings.ledger 1 [] := by
  have hnone : (firstReports view settings).filterMap Submission.suspicion? = [] := by
    rw [List.filterMap_eq_nil_iff]
    exact fun value hvalue => (isReport_of_mem_firstReports hvalue).suspicion?_eq_none
  unfold Ledger.deliver
  rw [Ledger.foldl_receive, hnone]
  rfl

/-- An informed replica, once armed, has neither changed places nor suspected
anybody. -/
theorem standsBy_refreshExpectation_informed (hview : view.n ≤ maxReplicas) (id : ReplicaId) :
    let armed := ((informed view settings id).refreshExpectation 0).value.1
    armed.id = id ∧
      armed.StandsBy settings ((Ledger.empty view).deliver settings.ledger 1 []) := by
  intro armed
  have hinitialized : (informed view settings id).board.checkInitialized.value.2 = true :=
    isInitialized_informed hview id
  obtain ⟨expectation, hvalue⟩ := Replica.refreshExpectation_of_initialized hinitialized 0
  have harmed : armed = _ := congrArg Prod.fst hvalue
  rw [harmed, informed_eq, deliver_firstReports]
  exact ⟨rfl, rfl, rfl, rfl, rfl⟩

/-- The scenario after its first delivery. -/
theorem value_arm_fresh (view : View) (settings : Settings) :
    (fresh view settings).arm.value =
      let armed := (armReplicas (view.replicas.map (informed view settings))).value
      (⟨view, { replicas := armed.1, nextRound := 2 }⟩, armed.2) := by
  have hunanswered : ∀ replicas : List Replica, (replicas.flatMap fun replica =>
      (firstReports view settings).filterMap replica.answer?) = [] := by
    intro replicas
    rw [List.flatMap_eq_nil_iff]
    intro replica _
    rw [List.filterMap_eq_nil_iff]
    intro value hvalue
    rw [Replica.answer?, (isReport_of_mem_firstReports hvalue).suspicion?_eq_none]
    rfl
  have hround : Round.plus 1 1 = 2 := by decide
  have hview : (fresh view settings).view = view := rfl
  simp only [arm, hview, Logged.value_bind, Logged.value_pure, value_onEach_fresh,
    Cluster.value_deliver, hunanswered, List.map_map, hround]
  rfl

/-- All sensors of the scenario are armed, and all ledgers are as after a
delivery of nothing. -/
theorem arm_fresh {view : View} (hview : view.n ≤ maxReplicas) (settings : Settings) :
    ∃ cluster, (fresh view settings).arm.value = (⟨view, cluster⟩, .ok ()) ∧
      cluster.StandsBy view settings ((Ledger.empty view).deliver settings.ledger 1 []) ∧
      cluster.pending = [] ∧ cluster.nextRound = 2 := by
  have hinitialized : ∀ replica ∈ view.replicas.map (informed view settings),
      replica.board.checkInitialized.value.2 = true := by
    intro replica hreplica
    obtain ⟨id, -, rfl⟩ := List.mem_map.mp hreplica
    exact isInitialized_informed hview id
  rw [value_arm_fresh, value_armReplicas hinitialized]
  refine ⟨_, rfl, ⟨?_, ?_⟩, rfl, rfl⟩
  · unfold Cluster.ids
    rw [List.map_map, List.map_map]
    refine (List.map_congr_left fun id _ => ?_).trans (List.map_id view.replicas)
    exact (standsBy_refreshExpectation_informed hview id).1
  · intro replica hreplica
    obtain ⟨before, hbefore, rfl⟩ := List.mem_map.mp hreplica
    obtain ⟨id, -, rfl⟩ := List.mem_map.mp hbefore
    exact (standsBy_refreshExpectation_informed hview id).2

end Scenario

end SuspicionMonitor
