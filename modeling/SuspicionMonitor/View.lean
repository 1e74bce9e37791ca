/-!
# Replicas and views

A view is the current replica set: `n` replicas, of which up to `f` may be
Byzantine.  The bound `3 f + 1 ≤ n` is part of the type, so every quorum and
every candidate floor computed from a view makes sense.
-/

namespace SuspicionMonitor

/-- The number of a replica within a view. -/
abbrev ReplicaId := UInt32

inductive ViewError where
  | empty
  | tooManyFaults (n f : Nat)
  deriving DecidableEq

def ViewError.message : ViewError → String
  | .empty => "view must contain at least one replica"
  | .tooManyFaults n f =>
      "view of " ++ toString n ++ " replicas cannot tolerate f=" ++ toString f ++
        " (requires n >= 3f + 1)"

structure View where
  n : Nat
  f : Nat
  bound : 3 * f + 1 ≤ n
  deriving DecidableEq

namespace View

/-- The view of `n` replicas tolerating `f` faults, if there is one. -/
def ofCounts (n f : Nat) : Except ViewError View :=
  if n = 0 then
    .error .empty
  else if h : 3 * f + 1 ≤ n then
    .ok ⟨n, f, h⟩
  else
    .error (.tooManyFaults n f)

/-- The view of `n` replicas tolerating as many faults as `n` allows. -/
def withMaxFaults (n : Nat) : Except ViewError View :=
  ofCounts n ((n - 1) / 3)

/-- A quorum is everybody but the faulty. -/
def quorum (view : View) : Nat := view.n - view.f

/-- The least size of a candidate set: at least one candidate is correct. -/
def candidateFloor (view : View) : Nat := view.f + 1

/-- The largest exclusion list that leaves `f + 1` candidates. -/
def maxExclusions (view : View) : Nat := view.n - view.f - 1

def contains (view : View) (id : ReplicaId) : Bool := id.toNat < view.n

/-- The replicas in ascending order.  Only as many are listed as the 32-bit
ids can tell apart. -/
def replicas (view : View) : List ReplicaId :=
  (List.range (view.n % UInt32.size)).map UInt32.ofNat

def text (view : View) : String :=
  "n=" ++ toString view.n ++ " f=" ++ toString view.f

theorem n_pos (view : View) : 0 < view.n := by
  have := view.bound
  omega

theorem maxExclusions_add_candidateFloor (view : View) :
    view.maxExclusions + view.candidateFloor = view.n := by
  have := view.bound
  simp only [maxExclusions, candidateFloor]
  omega

end View

end SuspicionMonitor
