import SuspicionMonitor.Proofs.LyingReports
import SuspicionMonitor.Proofs.SquareBoards

/-!
# Least symmetric bounds

The links of a matrix are the least symmetric matrix in which no link is faster
than it was reported.  Reported rows may have any length: what a row lacks is
missing, and what it has beyond the number of rows is dropped.  A symmetric
matrix that bounds an entry bounds the one across the diagonal too, so it bounds
the greater of both.
-/

namespace SuspicionMonitor

namespace LatencyMatrix

/-- The square matrix that rows of any length stand for. -/
def completed (matrix : LatencyMatrix) : LatencyMatrix :=
  Array.ofFn fun i : Fin matrix.size =>
    Array.ofFn fun j : Fin matrix.size => matrix[i][j]?.getD Nanos.missing

def IsSymmetric (matrix : LatencyMatrix) : Prop :=
  ∀ i j, matrix.entry i j = matrix.entry j i

/-- A symmetric matrix of the same size, none of whose entries lies below the
completed one. -/
structure IsSymmetricBound (matrix upper : LatencyMatrix) : Prop where
  square : upper.IsSquare matrix.size
  symmetric : upper.IsSymmetric
  above : ∀ i < matrix.size, ∀ j < matrix.size, matrix.completed.entry i j ≤ upper.entry i j

variable {matrix upper : LatencyMatrix} {i j : Nat}

theorem isSquare_completed (matrix : LatencyMatrix) : matrix.completed.IsSquare matrix.size := by
  constructor
  · simp [completed]
  · intro row hrow
    obtain ⟨i, rfl⟩ := Array.mem_ofFn.mp hrow
    simp

theorem entry_completed (hi : i < matrix.size) (hj : j < matrix.size) :
    matrix.completed.entry i j = matrix.entry i j := by
  simp [completed, entry, hi, hj]

theorem IsSquare.ext {n : Nat} {first second : LatencyMatrix} (hfirst : first.IsSquare n)
    (hsecond : second.IsSquare n)
    (hentry : ∀ i < n, ∀ j < n, first.entry i j = second.entry i j) : first = second := by
  refine Array.ext (hfirst.size.trans hsecond.size.symm) fun i hi hi' => ?_
  have hrow : i < n := by rwa [hfirst.size] at hi
  refine Array.ext ((hfirst.size_getElem hi).trans (hsecond.size_getElem hi').symm)
    fun j hj hj' => ?_
  have hcolumn : j < n := by rwa [hfirst.size_getElem hi] at hj
  have hsame := hentry i hrow j hcolumn
  rw [entry, entry, Array.getElem?_eq_getElem hi, Array.getElem?_eq_getElem hi', Option.bind_some,
    Option.bind_some, Array.getElem?_eq_getElem hj, Array.getElem?_eq_getElem hj'] at hsame
  exact hsame

theorem isSymmetric_symmetrise (matrix : LatencyMatrix) : matrix.symmetrise.IsSymmetric := by
  intro i j
  rw [entry_symmetrise, entry_symmetrise, Nanos.max_comm]
  simp only [and_comm]

theorem isSymmetricBound_symmetrise (matrix : LatencyMatrix) :
    matrix.IsSymmetricBound matrix.symmetrise where
  square := matrix.isSquare_symmetrise
  symmetric := matrix.isSymmetric_symmetrise
  above := by
    intro i hi j hj
    rw [entry_completed hi hj, entry_symmetrise, if_pos ⟨hi, hj⟩]
    exact Std.left_le_max

theorem IsSymmetricBound.entry_symmetrise_le (hupper : matrix.IsSymmetricBound upper)
    (hi : i < matrix.size) (hj : j < matrix.size) :
    matrix.symmetrise.entry i j ≤ upper.entry i j := by
  have hforward := hupper.above i hi j hj
  have hbackward := hupper.above j hj i hi
  rw [entry_completed hi hj] at hforward
  rw [entry_completed hj hi, hupper.symmetric j i] at hbackward
  rw [LatencyMatrix.entry_symmetrise, if_pos ⟨hi, hj⟩]
  exact (Std.LawfulOrderSup.max_le_iff _ _ _).mpr ⟨hforward, hbackward⟩

/-- A square matrix without asymmetric links is its own least bound. -/
theorem symmetrise_eq_self (hsquare : matrix.IsSquare matrix.size)
    (hsymmetric : matrix.IsSymmetric) : matrix.symmetrise = matrix := by
  refine matrix.isSquare_symmetrise.ext hsquare fun i hi j hj => ?_
  rw [entry_symmetrise, if_pos ⟨hi, hj⟩, hsymmetric j i, Std.max_self]

/-- Whatever rows are reported, of equal lengths or not, their links are the
least symmetric matrix above the completed one, and taking the links of the
links changes nothing. -/
theorem links_are_least_symmetric_bound (matrix : LatencyMatrix) :
    matrix.completed.IsSquare matrix.size ∧ matrix.IsSymmetricBound matrix.symmetrise ∧
      (∀ upper, matrix.IsSymmetricBound upper → ∀ i < matrix.size, ∀ j < matrix.size,
        matrix.symmetrise.entry i j ≤ upper.entry i j) ∧
      matrix.symmetrise.symmetrise = matrix.symmetrise := by
  have hsquare : matrix.symmetrise.IsSquare matrix.symmetrise.size := by
    rw [matrix.isSquare_symmetrise.size]
    exact matrix.isSquare_symmetrise
  exact ⟨matrix.isSquare_completed, matrix.isSymmetricBound_symmetrise,
    fun _ hupper _ hi _ hj => hupper.entry_symmetrise_le hi hj,
    symmetrise_eq_self hsquare matrix.isSymmetric_symmetrise⟩

/-- The first row is too short and the second too long. -/
example : symmetrise #[#[1], #[7, -2, 9, 4], #[-5, 3, Int64.minValue]] =
    #[#[1, Nanos.missing, Nanos.missing], #[Nanos.missing, -2, 9],
      #[Nanos.missing, 9, Int64.minValue]] := by
  decide +kernel

end LatencyMatrix
end SuspicionMonitor
