import SuspicionMonitor.Latency.Windows
import SuspicionMonitor.Proofs.DelayOrder
import Mathlib.Data.List.DropRight

/-!
# Medians of the latest latencies

A run of recordings and resets leaves, for each peer, the last latencies that
were recorded towards it since the last reset, as many as a window holds.  The
invariant says this of every window at once, so a recording towards one peer is
seen to leave all others alone.  The reported median is the latency in the
middle of those when they are put in ascending order.
-/

namespace SuspicionMonitor

inductive WindowCall where
  | record (peer : ReplicaId) (latency : Nanos)
  | reset (peers : Nat)

namespace WindowCall

def peers? : WindowCall → Option Nat
  | record _ _ => none
  | reset peers => some peers

/-- The latency that the call records towards this peer, if it does. -/
def latencyTo? (peer : Nat) : WindowCall → Option Nanos
  | record id latency => if id.toNat = peer then some latency else none
  | reset _ => none

end WindowCall

namespace LatencyWindows

def perform (windows : LatencyWindows) : WindowCall → LatencyWindows
  | .record peer latency => windows.record peer latency
  | .reset peers => windows.reset peers

def run (windows : LatencyWindows) (calls : List WindowCall) : LatencyWindows :=
  calls.foldl perform windows

/-- How many peers there are in the end. -/
def peersAfter (peers : Nat) (calls : List WindowCall) : Nat :=
  (calls.filterMap WindowCall.peers?).getLast?.getD peers

def sinceReset (calls : List WindowCall) : List WindowCall :=
  calls.rtakeWhile fun call => call.peers?.isNone

/-- What was recorded towards a peer since the last reset, the newest last. -/
def recordedTo (peer : Nat) (calls : List WindowCall) : List Nanos :=
  (sinceReset calls).filterMap (WindowCall.latencyTo? peer)

/-- The latency at half the length when the latencies are put in ascending
order. -/
def IsMiddle (latencies : List Nanos) (middle : Nanos) : Prop :=
  ∃ sorted : List Nanos, sorted.Perm latencies ∧ sorted.Pairwise (· ≤ ·) ∧
    sorted[latencies.length / 2]? = some middle

variable {windows : LatencyWindows} {peers capacity peer : Nat} {calls : List WindowCall}

theorem run_concat (windows : LatencyWindows) (calls : List WindowCall) (call : WindowCall) :
    windows.run (calls ++ [call]) = (windows.run calls).perform call := by
  simp [run]

theorem peersAfter_concat_record (id : ReplicaId) (latency : Nanos) :
    peersAfter peers (calls ++ [.record id latency]) = peersAfter peers calls := by
  simp [peersAfter, WindowCall.peers?]

theorem peersAfter_concat_reset (next : Nat) :
    peersAfter peers (calls ++ [.reset next]) = next := by
  simp [peersAfter, WindowCall.peers?]

theorem recordedTo_concat_record (id : ReplicaId) (latency : Nanos) :
    recordedTo peer (calls ++ [.record id latency]) =
      if id.toNat = peer then recordedTo peer calls ++ [latency] else recordedTo peer calls := by
  rw [recordedTo, sinceReset, List.rtakeWhile_concat_pos _ _ _ rfl, List.filterMap_append,
    ← sinceReset, ← recordedTo]
  by_cases hid : id.toNat = peer <;> simp [WindowCall.latencyTo?, hid]

theorem recordedTo_concat_reset (next : Nat) :
    recordedTo peer (calls ++ [.reset next]) = [] := by
  rw [recordedTo, sinceReset, List.rtakeWhile_concat_neg _ _ _ (by simp [WindowCall.peers?])]
  rfl

/-! ## What the windows hold -/

/-- A full window loses its oldest latency, at the front. -/
theorem slide_rtake (hcapacity : 1 ≤ capacity) (recorded : List Nanos) (latency : Nanos) :
    slide capacity (recorded.rtake capacity) latency =
      (recorded ++ [latency]).rtake capacity := by
  obtain ⟨room, rfl⟩ := Nat.exists_eq_add_of_le' hcapacity
  rw [List.rtake_concat_succ, slide]
  congr 1
  unfold List.rtake
  split
  next hfull =>
    rw [List.length_drop] at hfull
    rw [List.drop_drop]
    congr 1
    omega
  next hpartial =>
    rw [List.length_drop] at hpartial
    congr 1
    omega

theorem capacity_run (windows : LatencyWindows) (calls : List WindowCall) :
    (windows.run calls).capacity = windows.capacity := by
  induction calls using List.reverseRecOn with
  | nil => rfl
  | append_singleton calls call ih =>
      rw [run_concat]
      cases call with
      | record id latency => exact ih
      | reset next => exact ih

/-- There is one window for each of the peers, with the last of what was
recorded towards it. -/
structure Holds (windows : LatencyWindows) (peers : Nat) (recorded : Nat → List Nanos) :
    Prop where
  size : windows.windows.size = peers
  window : ∀ peer < peers, windows.windows[peer]? = some ((recorded peer).rtake windows.capacity)

theorem holds_empty (peers capacity : Nat) : (empty peers capacity).Holds peers fun _ => [] where
  size := Array.size_replicate
  window := by
    intro peer hpeer
    simp [empty, hpeer]

theorem Holds.record {recorded : Nat → List Nanos} (hcapacity : 1 ≤ windows.capacity)
    (hholds : windows.Holds peers recorded) (id : ReplicaId) (latency : Nanos) :
    (windows.record id latency).Holds peers fun peer =>
      if id.toNat = peer then recorded peer ++ [latency] else recorded peer where
  size := Array.size_modify.trans hholds.size
  window := by
    intro peer hpeer
    simp only [LatencyWindows.record, Array.getElem?_modify, hholds.window peer hpeer]
    split
    · rw [Option.map_some, slide_rtake hcapacity]
    · rfl

/-- A reset starts new histories, a recording prolongs that of one peer. -/
theorem holds_run (hcapacity : 1 ≤ capacity) (peers : Nat) (calls : List WindowCall) :
    ((empty peers capacity).run calls).Holds (peersAfter peers calls) fun peer =>
      recordedTo peer calls := by
  induction calls using List.reverseRecOn with
  | nil => exact holds_empty peers capacity
  | append_singleton calls call ih =>
      rw [run_concat]
      cases call with
      | record id latency =>
          simp only [peersAfter_concat_record, recordedTo_concat_record]
          have hroom : 1 ≤ ((empty peers capacity).run calls).capacity := by
            rw [capacity_run]
            exact hcapacity
          exact ih.record hroom id latency
      | reset next =>
          simp only [peersAfter_concat_reset, recordedTo_concat_reset]
          exact holds_empty next _

theorem isMiddle_median {window : List Nanos} (hwindow : window ≠ []) :
    IsMiddle window (median window) := by
  have hlength : 0 < window.length := List.length_pos_iff.mpr hwindow
  have hplace :
      window.length / 2 < (window.mergeSort fun first second => first ≤ second).length := by
    rw [List.length_mergeSort]
    omega
  refine ⟨window.mergeSort fun first second => first ≤ second, List.mergeSort_perm _ _,
    Nanos.pairwise_mergeSort window, ?_⟩
  rw [median, List.getElem?_eq_getElem hplace, Option.getD_some]

theorem Holds.getElem?_medians {recorded : Nat → List Nanos} (hholds : windows.Holds peers recorded)
    (hpeer : peer < peers) :
    windows.medians[peer]? = some (median ((recorded peer).rtake windows.capacity)) := by
  rw [medians, List.getElem?_map, Array.getElem?_toList, hholds.window peer hpeer, Option.map_some]

/-- After any recordings and resets there is one report for each current peer:
the middle one of the last latencies recorded towards it since the last reset,
as many as a window holds, or a missing latency if there are none.  So two runs
in which the same was recorded towards a peer report the same about it,
whatever was recorded in between towards others. -/
theorem medians_of_last_recorded (peers : Nat) {capacity : Nat} (hcapacity : 1 ≤ capacity)
    (calls : List WindowCall) :
    ∃ windows, ofCapacity? peers capacity = some windows ∧
      (windows.run calls).medians.length = peersAfter peers calls ∧
      ∀ peer < peersAfter peers calls,
        let recorded := recordedTo peer calls
        let last := recorded.drop (recorded.length - min capacity recorded.length)
        ∃ reported, (windows.run calls).medians[peer]? = some reported ∧
          (last = [] → reported = Nanos.missing) ∧ (last ≠ [] → IsMiddle last reported) ∧
          ∀ others, peer < peersAfter peers others → recordedTo peer others = recorded →
            (windows.run others).medians[peer]? = some reported := by
  refine ⟨empty peers capacity, if_neg (by omega), ?_, ?_⟩
  · rw [medians, List.length_map, Array.length_toList, (holds_run hcapacity peers calls).size]
  · intro peer hpeer recorded last
    have hlast : last = recorded.rtake capacity := by
      change List.drop _ _ = List.drop _ _
      congr 1
      omega
    have hreport : ∀ calls, peer < peersAfter peers calls →
        ((empty peers capacity).run calls).medians[peer]? =
          some (median ((recordedTo peer calls).rtake capacity)) := by
      intro calls hpeer
      have hmedian := (holds_run hcapacity peers calls).getElem?_medians hpeer
      rwa [capacity_run] at hmedian
    refine ⟨median last, ?_, ?_, isMiddle_median, ?_⟩
    · rw [hlast]
      exact hreport calls hpeer
    · intro hnone
      simp [hnone, median]
    · intro others hothers hsame
      rw [hreport others hothers, hsame, hlast]

/-- The window of replica 1 has dropped two of its five latencies, replica 0 has
been observed less often, and replica 2 only before the number of peers has
changed. -/
theorem medians_among_three :
    let calls : List WindowCall :=
      [.record 2 7, .reset 3, .record 1 100, .record 0 8, .record 1 90, .record 1 20,
        .record 9 1, .record 1 (-5), .record 0 (-8), .record 1 30]
    1 ≤ 3 ∧ ∃ windows, ofCapacity? 4 3 = some windows ∧
      (windows.run calls).medians = [8, 20, Nanos.missing] ∧ IsMiddle [20, -5, 30] 20 := by
  intro calls
  obtain ⟨windows, hwindows, -, hreports⟩ := medians_of_last_recorded 4 (by decide : 1 ≤ 3) calls
  obtain ⟨reported, hreported, -, hmiddle, -⟩ := hreports 1 (by decide)
  have hmedians : (windows.run calls).medians = [8, 20, Nanos.missing] := by
    obtain rfl := Option.some.inj hwindows
    cbv
  rw [hmedians] at hreported
  obtain rfl := Option.some.inj hreported
  exact ⟨by decide, windows, hwindows, hmedians, hmiddle (by decide)⟩

end LatencyWindows
end SuspicionMonitor
