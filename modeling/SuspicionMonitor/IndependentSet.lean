/-!
# Maximum independent sets

An independent set of a graph is a clique of its complement.  The search
branches over the cliques of the complement with a pivot, starts from a greedy
independent set, and keeps the largest clique it has met.  Colour classes bound
what a branch can still reach.  The search may be given a number of expansions
after which it stops with the best set so far.
-/

namespace SuspicionMonitor

/-- A graph on the vertices below `n`, kept as a table. -/
structure Adjacency (n : Nat) where
  rows : Vector (Vector Bool n) n

namespace Adjacency

variable {n : Nat}

def adjacent (graph : Adjacency n) (u v : Fin n) : Bool := graph.rows[u][v]

def ofRel (rel : Fin n → Fin n → Bool) : Adjacency n :=
  ⟨Vector.ofFn fun u => Vector.ofFn fun v => rel u v⟩

@[simp] theorem adjacent_ofRel (rel : Fin n → Fin n → Bool) (u v : Fin n) :
    (ofRel rel).adjacent u v = rel u v := by
  simp [adjacent, ofRel]

def complement (graph : Adjacency n) : Adjacency n :=
  ofRel fun u v => u != v && !graph.adjacent u v

/-- How many of the listed vertices are neighbours of `v`. -/
def degreeWithin (graph : Adjacency n) (vertices : List (Fin n)) (v : Fin n) : Nat :=
  vertices.countP (graph.adjacent v)

/-- The listed vertices that are neighbours of `v`. -/
def neighboursWithin (graph : Adjacency n) (vertices : List (Fin n)) (v : Fin n) :
    List (Fin n) :=
  vertices.filter (graph.adjacent v)

/-- Vertices with more neighbours within the list score higher; among equals
the higher index does. -/
def score (graph : Adjacency n) (vertices : List (Fin n)) (v : Fin n) : Nat :=
  graph.degreeWithin vertices v * n + v

/-- The vertex with the fewest remaining neighbours, the lowest of them. -/
def leastConnected? (graph : Adjacency n) (remaining : List (Fin n)) : Option (Fin n) :=
  ((remaining.map fun v => (graph.score remaining v, v)).minOn? Prod.fst).map Prod.snd

/-- Takes the least connected vertex and discards its neighbours, for at most
`rounds` rounds. -/
def greedyFrom (graph : Adjacency n) : (rounds : Nat) → (remaining : List (Fin n)) →
    List (Fin n)
  | 0, _ => []
  | rounds + 1, remaining =>
      match graph.leastConnected? remaining with
      | none => []
      | some v =>
          v :: graph.greedyFrom rounds
            (remaining.filter fun u => u != v && !graph.adjacent v u)

/-- A round discards at least one vertex, so `n` rounds are enough. -/
def greedyIndependentSet (graph : Adjacency n) : List (Fin n) :=
  graph.greedyFrom n (List.finRange n)

/-! ## The search -/

/-- What the search knows: the best set so far, the expansions it may still
make (`none` for any number), and whether it had to stop. -/
structure Search (n : Nat) where
  best : List (Fin n)
  allowance : Option Nat
  stopped : Bool

/-- The vertex among candidates and excluded that has the most neighbours
among the candidates, the highest of them. -/
def pivot? (graph : Adjacency n) (candidates excluded : List (Fin n)) : Option (Fin n) :=
  (((candidates ++ excluded).map fun u => (graph.score candidates u, u)).maxOn? Prod.fst).map
    Prod.snd

/-- The candidates that are no neighbours of the pivot.  Every maximal clique
within the candidates contains one of them. -/
def branches (graph : Adjacency n) (candidates excluded : List (Fin n)) : List (Fin n) :=
  match graph.pivot? candidates excluded with
  | none => candidates
  | some pivot => candidates.filter fun v => !graph.adjacent pivot v

/-- Puts a vertex into the first class without a neighbour of it. -/
def addToClasses (graph : Adjacency n) (v : Fin n) : List (List (Fin n)) → List (List (Fin n))
  | [] => [[v]]
  | colour :: classes =>
      if colour.any (graph.adjacent v) then colour :: graph.addToClasses v classes
      else (v :: colour) :: classes

/-- Classes of vertices that are no neighbours of each other.  A clique has at
most one vertex of each class. -/
def colourClasses (graph : Adjacency n) (vertices : List (Fin n)) : List (List (Fin n)) :=
  vertices.foldl (fun classes v => graph.addToClasses v classes) []

/-- Visits the cliques that extend `clique` by candidates.  `excluded` holds
the vertices whose cliques were visited before.  An extension has a neighbour
less to choose from, so the depth need not be larger than the number of
candidates plus one. -/
def expand (graph : Adjacency n) : (depth : Nat) → Search n →
    (clique candidates excluded : List (Fin n)) → Search n
  | 0, search, _, _, _ => search
  | depth + 1, search, clique, candidates, excluded =>
      if search.stopped then
        search
      else if search.allowance = some 0 then
        { search with stopped := true }
      else
        let search := { search with allowance := search.allowance.map (· - 1) }
        if candidates.isEmpty then
          if excluded.isEmpty && search.best.length < clique.length then
            { search with best := clique }
          else
            search
        else if clique.length + (graph.colourClasses candidates).length ≤ search.best.length then
          search
        else
          ((graph.branches candidates excluded).foldl
            (fun (search, candidates, excluded) v =>
              (graph.expand depth search (v :: clique)
                (graph.neighboursWithin candidates v) (graph.neighboursWithin excluded v),
                candidates.filter (· != v), v :: excluded))
            (search, candidates, excluded)).1

/-- A maximum independent set, or the best one met within the allowance. -/
def maximumIndependentSet (graph : Adjacency n) (allowance : Option Nat) : Search n :=
  graph.complement.expand (n + 1)
    { best := graph.greedyIndependentSet, allowance, stopped := false }
    [] (List.finRange n) []

end Adjacency

end SuspicionMonitor
