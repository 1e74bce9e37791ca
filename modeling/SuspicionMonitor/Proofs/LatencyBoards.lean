import SuspicionMonitor.Latency.Board
import Mathlib.Tactic

/-!
# Boards that look alike

A change of view leaves the matrices of a board as they are; only their next
use compares their size with the view and starts anew if it is another one.
So two boards of one view can be told apart neither if they are equal nor if
both are blank, of whatever sizes.
-/

namespace SuspicionMonitor

theorem LatencyMatrix.size_missing (n : Nat) : (LatencyMatrix.missing n).size = n := by
  simp [LatencyMatrix.missing]

namespace LatencyBoard

/-- No latency is known, whatever the size of the matrices. -/
structure IsBlank (board : LatencyBoard) : Prop where
  write : board.write = LatencyMatrix.missing board.write.size
  propose : board.propose = LatencyMatrix.missing board.propose.size

theorem isBlank_empty (view : View) : (empty view).IsBlank := by
  constructor <;> simp [empty, LatencyMatrix.size_missing]

theorem isBlank_setView {board : LatencyBoard} {view : View} :
    (board.setView view).IsBlank ↔ board.IsBlank :=
  ⟨fun hblank => ⟨hblank.write, hblank.propose⟩, fun hblank => ⟨hblank.write, hblank.propose⟩⟩

theorem fits_iff {board : LatencyBoard} :
    board.fits = true ↔
      board.write.size = board.view.n ∧ board.propose.size = board.view.n := by
  simp [fits]

theorem value_fitted (board : LatencyBoard) :
    board.fitted.value = if board.fits then board else empty board.view := by
  unfold fitted
  split <;> rfl

theorem submissions_fitted (board : LatencyBoard) : board.fitted.submissions = [] := by
  unfold fitted
  split <;> rfl

theorem view_fitted (board : LatencyBoard) : board.fitted.value.view = board.view := by
  rw [value_fitted]
  split <;> rfl

theorem fits_fitted (board : LatencyBoard) : board.fitted.value.fits = true := by
  rw [value_fitted]
  split
  next hfits => exact hfits
  next => simp [fits, empty, LatencyMatrix.size_missing]

theorem IsBlank.value_fitted {board : LatencyBoard} (hblank : board.IsBlank) :
    board.fitted.value = empty board.view := by
  rw [LatencyBoard.value_fitted]
  split
  next hfits =>
    obtain ⟨hwrite, hpropose⟩ := fits_iff.mp hfits
    have hrows := hblank.write
    have hcolumns := hblank.propose
    rw [hwrite] at hrows
    rw [hpropose] at hcolumns
    cases board
    simp_all [empty]
  next => rfl

theorem fits_store (board : LatencyBoard) (sender : ReplicaId) (vector : LatencyVector) :
    (board.store sender vector).value.fits = true ∧
      (board.store sender vector).value.view = board.view := by
  have hfits := board.fits_fitted
  have hview := board.view_fitted
  unfold store
  simp only [Logged.value_bind]
  split
  · simp_all [fits]
  · exact ⟨hfits, hview⟩

theorem submissions_notify (board : LatencyBoard) (sender : ReplicaId) (payload : Bytes) :
    (board.notify sender payload).submissions = [] := by
  unfold notify
  split
  next vector _ =>
    unfold store
    rw [Logged.submissions_bind, submissions_fitted]
    split <;> rfl
  next => rfl

theorem submissions_checkInitialized (board : LatencyBoard) :
    board.checkInitialized.submissions = [] := by
  unfold checkInitialized
  rw [Logged.submissions_bind, submissions_fitted]
  rfl

theorem submissions_predict (board : LatencyBoard) (leader self : ReplicaId) :
    (board.predict leader self).submissions = [] := by
  unfold predict
  rw [Logged.submissions_bind, submissions_fitted]
  rfl

theorem notify_cases (board : LatencyBoard) (sender : ReplicaId) (payload : Bytes) :
    (board.notify sender payload).value = board ∨
      ∃ vector, (board.notify sender payload).value = (board.store sender vector).value := by
  unfold notify
  split
  next vector _ => exact Or.inr ⟨vector, rfl⟩
  next => exact Or.inl rfl

/-- A board with square matrices is used as an empty one in another view
unless latencies are known to it and the size of the view is still theirs. -/
theorem value_fitted_setView_iff {board : LatencyBoard}
    (hsquare : board.propose.size = board.write.size) (view : View) :
    (board.setView view).fitted.value = empty view ↔
      (board.write.size = view.n → board.IsBlank) := by
  constructor
  · intro hempty hsize
    have hfits : (board.setView view).fits = true :=
      fits_iff.mpr ⟨hsize, hsquare.trans hsize⟩
    rw [value_fitted, if_pos hfits] at hempty
    apply isBlank_setView.mp
    rw [hempty]
    exact isBlank_empty view
  · intro hblank
    by_cases hsize : board.write.size = view.n
    · exact (isBlank_setView.mpr (hblank hsize)).value_fitted
    · have hfits : ¬ (board.setView view).fits = true := fun hfits => hsize (fits_iff.mp hfits).1
      rw [value_fitted, if_neg hfits]
      rfl

theorem reporters_empty (view : View) : (empty view).reporters = 0 := by
  unfold reporters
  rw [List.countP_eq_zero]
  rintro ⟨write, propose⟩ hrow hreported
  obtain ⟨hwrite, hpropose⟩ := List.of_mem_zip hrow
  have hwrite : write = Array.replicate view.n Nanos.missing := by
    simpa [empty, LatencyMatrix.missing, view.n_pos.ne'] using hwrite
  have hpropose : propose = Array.replicate view.n Nanos.missing := by
    simpa [empty, LatencyMatrix.missing, view.n_pos.ne'] using hpropose
  obtain ⟨latency, hlatency, hknown⟩ := Array.any_eq_true'.mp hreported
  have hmissing : latency = Nanos.missing := by
    rcases Array.mem_append.mp hlatency with hmem | hmem
    · rw [hwrite] at hmem
      exact Array.eq_of_mem_replicate hmem
    · rw [hpropose] at hmem
      exact Array.eq_of_mem_replicate hmem
  rw [hmissing] at hknown
  contradiction

theorem value_checkInitialized_of_empty {board : LatencyBoard} {view : View}
    (hempty : board.fitted.value = empty view) :
    board.checkInitialized.value = (empty view, false) := by
  have hquorum : ¬ view.quorum ≤ 0 := by
    have hbound := view.bound
    simp only [View.quorum]
    omega
  unfold checkInitialized
  rw [Logged.value_bind, hempty, Logged.value_pure, reporters_empty]
  exact congrArg _ (decide_eq_false hquorum)

structure LooksLike (first second : LatencyBoard) : Prop where
  view : first.view = second.view
  matrices : first = second ∨ first.IsBlank ∧ second.IsBlank

variable {first second : LatencyBoard}

theorem LooksLike.fitted (hlike : first.LooksLike second) :
    first.fitted.value = second.fitted.value := by
  rcases hlike.matrices with rfl | ⟨hfirst, hsecond⟩
  · rfl
  · rw [hfirst.value_fitted, hsecond.value_fitted, hlike.view]

theorem LooksLike.setView (hlike : first.LooksLike second) (view : View) :
    (first.setView view).LooksLike (second.setView view) := by
  refine ⟨rfl, ?_⟩
  rcases hlike.matrices with rfl | ⟨hfirst, hsecond⟩
  · exact Or.inl rfl
  · exact Or.inr ⟨isBlank_setView.mpr hfirst, isBlank_setView.mpr hsecond⟩

/-- What is stored depends on the matrices in use. -/
theorem value_store_congr (hused : first.fitted.value = second.fitted.value) (sender : ReplicaId)
    (vector : LatencyVector) :
    (first.store sender vector).value = (second.store sender vector).value := by
  unfold store
  rw [Logged.value_bind, Logged.value_bind, hused]

theorem LooksLike.notify (hlike : first.LooksLike second) (sender : ReplicaId)
    (payload : Bytes) :
    (first.notify sender payload).value.LooksLike (second.notify sender payload).value := by
  unfold LatencyBoard.notify
  cases LatencyVector.decode payload with
  | error cause => exact hlike
  | ok vector =>
      have hstore := value_store_congr hlike.fitted sender vector
      exact ⟨congrArg LatencyBoard.view hstore, Or.inl hstore⟩

theorem LooksLike.checkInitialized (hlike : first.LooksLike second) :
    first.checkInitialized.value = second.checkInitialized.value := by
  unfold LatencyBoard.checkInitialized
  rw [Logged.value_bind, Logged.value_bind, hlike.fitted]

theorem LooksLike.predict (hlike : first.LooksLike second) (leader self : ReplicaId) :
    (first.predict leader self).value = (second.predict leader self).value := by
  unfold LatencyBoard.predict
  rw [Logged.value_bind, Logged.value_bind, hlike.fitted]

end LatencyBoard

end SuspicionMonitor
