import SuspicionMonitor.Proofs.BatchOrder
import SuspicionMonitor.Proofs.BoardQueries
import SuspicionMonitor.Proofs.LatencyPayloads

/-!
# Square boards

Bytes, rows and entries are read by their position, and a row is overwritten by
one of the same length.  The operations here have no result if a position lies
outside or a length is another one; otherwise they are those of a board.  On
every board that a run leaves behind they have a result.  The invariant is that
both matrices are square and of one size, though not always of that of the view:
a change of view leaves them alone, and whatever reads or writes them makes them
fit the view before.
-/

namespace SuspicionMonitor

theorem mapM_eq_some_map {α β : Type} {read : α → Option β} {value : α → β} {items : List α}
    (hread : ∀ item ∈ items, read item = some (value item)) :
    items.mapM read = some (items.map value) := by
  induction items with
  | nil => rfl
  | cons item items ih =>
      rw [List.mapM_cons, hread item List.mem_cons_self,
        ih fun other hother => hread other (List.mem_cons_of_mem _ hother)]
      rfl

/-- The number in the first `width` bytes and the bytes after them, if there
are as many. -/
def Bytes.word? (width : Nat) (bytes : Bytes) : Option (Nat × Bytes) :=
  if bytes.length < width then none else some (toNat (bytes.take width), bytes.drop width)

namespace LatencyVector

def takeLatencies? : (count : Nat) → Bytes → Option (List Nanos × Bytes)
  | 0, bytes => some ([], bytes)
  | count + 1, bytes => do
      let (word, bytes) ← bytes.word? 8
      let (latencies, rest) ← takeLatencies? count bytes
      return (Int64.ofNat word :: latencies, rest)

def decode? (bytes : Bytes) : Option (Except DecodeError LatencyVector) :=
  let available := bytes.length
  if available < 4 then
    return .error (.truncated 4 available)
  else do
    let (word, bytes) ← bytes.word? 4
    let declared := (Int32.ofNat word).toInt
    if declared < 0 then
      return .error (.negativeReplicaCount declared)
    else
      let count := declared.toNat
      if maxReplicas < count then
        return .error (.tooManyReplicas count)
      else if available < wireLength count then
        return .error (.truncated (wireLength count) available)
      else if wireLength count < available then
        return .error (.trailingBytes (available - wireLength count))
      else
        let (write, rest) ← takeLatencies? count bytes
        let (propose, _) ← takeLatencies? count rest
        return .ok ⟨write, propose⟩

theorem takeLatencies?_eq {count : Nat} {bytes : Bytes} (hlength : 8 * count ≤ bytes.length) :
    takeLatencies? count bytes = some (takeLatencies count bytes) := by
  induction count generalizing bytes with
  | zero => rfl
  | succ count ih =>
      have hrest : 8 * count ≤ (bytes.drop 8).length := by
        rw [List.length_drop]
        omega
      rw [takeLatencies?, Bytes.word?, if_neg (by omega)]
      simp only [Option.bind_eq_bind, Option.bind_some, ih hrest]
      rfl

/-- The length has been compared with the count before the latencies are
read. -/
theorem decode?_eq (bytes : Bytes) : decode? bytes = some (decode bytes) := by
  unfold decode? decode
  dsimp only
  split
  · rfl
  next hfour =>
    rw [Bytes.word?, if_neg hfour]
    simp only [Option.bind_eq_bind, Option.bind_some]
    split
    · rfl
    split
    · rfl
    split
    · rfl
    split
    · rfl
    next hshort hlong =>
      unfold wireLength at hshort hlong
      have hwrite : ∀ count, bytes.length = 4 + 16 * count →
          8 * count ≤ (bytes.drop 4).length := by
        intro count hlength
        rw [List.length_drop]
        omega
      have hpropose : ∀ count, bytes.length = 4 + 16 * count →
          8 * count ≤ (takeLatencies count (bytes.drop 4)).2.length := by
        intro count hlength
        rw [takeLatencies_snd, List.length_drop, List.length_drop]
        omega
      rw [takeLatencies?_eq (hwrite _ (by omega))]
      simp only [Option.bind_some]
      rw [takeLatencies?_eq (hpropose _ (by omega))]
      rfl

theorem length_propose_of_decode {bytes : Bytes} {vector : LatencyVector}
    (hdecode : decode bytes = .ok vector) : vector.propose.length = vector.size := by
  obtain ⟨count, hpayload⟩ := exists_payload_of_decode hdecode
  rw [decode_of_payload hpayload] at hdecode
  obtain rfl := Except.ok.inj hdecode
  rw [size, length_takeLatencies, length_takeLatencies]

end LatencyVector

/-! ## Matrices -/

namespace LatencyMatrix

structure IsSquare (matrix : LatencyMatrix) (n : Nat) : Prop where
  size : matrix.size = n
  row : ∀ row ∈ matrix, row.size = n

/-- The entry at a position that has to lie within the matrix. -/
def latency? (matrix : LatencyMatrix) (i j : Nat) : Option Nanos :=
  matrix[i]?.bind (·[j]?)

/-- The entry of a row that has to be there, missing beyond its end. -/
def report? (matrix : LatencyMatrix) (i j : Nat) : Option Nanos :=
  matrix[i]?.map fun row => row[j]?.getD Nanos.missing

def symmetricRow? (matrix : LatencyMatrix) (i : Nat) : Option (Array Nanos) := do
  let row ← (List.range matrix.size).mapM fun j =>
    return max (← matrix.report? i j) (← matrix.report? j i)
  return row.toArray

def symmetrise? (matrix : LatencyMatrix) : Option LatencyMatrix := do
  let rows ← (List.range matrix.size).mapM matrix.symmetricRow?
  return rows.toArray

/-- Overwrites a row that has to be there and as long as the new one. -/
def copyRow? (matrix : LatencyMatrix) (i : Nat) (row : List Nanos) : Option LatencyMatrix := do
  let old ← matrix[i]?
  if old.size = row.length then some (matrix.setIfInBounds i row.toArray) else none

variable {matrix : LatencyMatrix} {n i j : Nat}

theorem IsSquare.size_getElem (hsquare : matrix.IsSquare n) (hi : i < matrix.size) :
    matrix[i].size = n :=
  hsquare.row _ (Array.getElem_mem hi)

theorem IsSquare.latency?_eq (hsquare : matrix.IsSquare n) (hi : i < n) (hj : j < n) :
    matrix.latency? i j = some (matrix.entry i j) := by
  have hplace : i < matrix.size := by rwa [hsquare.size]
  have hentry : j < matrix[i].size := by rwa [hsquare.size_getElem hplace]
  rw [latency?, entry, Array.getElem?_eq_getElem hplace, Option.bind_some,
    Array.getElem?_eq_getElem hentry, Option.getD_some]

theorem report?_eq (hi : i < matrix.size) (j : Nat) :
    matrix.report? i j = some (matrix.entry i j) := by
  rw [report?, entry, Array.getElem?_eq_getElem hi]
  rfl

theorem symmetricRow?_eq (hi : i < matrix.size) :
    matrix.symmetricRow? i = some
      (Array.ofFn fun j : Fin matrix.size => max (matrix.entry i j) (matrix.entry j i)) := by
  have hrow : ∀ j ∈ List.range matrix.size,
      (return max (← matrix.report? i j) (← matrix.report? j i) : Option Nanos) =
        some (max (matrix.entry i j) (matrix.entry j i)) := by
    intro j hj
    rw [report?_eq hi, report?_eq (List.mem_range.mp hj)]
    rfl
  rw [symmetricRow?, mapM_eq_some_map hrow]
  refine congrArg some (Array.ext ?_ ?_) <;> simp

theorem symmetrise?_eq (matrix : LatencyMatrix) :
    matrix.symmetrise? = some matrix.symmetrise := by
  rw [symmetrise?, mapM_eq_some_map fun i hi => symmetricRow?_eq (List.mem_range.mp hi)]
  refine congrArg some (Array.ext ?_ ?_) <;> simp [symmetrise]

theorem isSquare_symmetrise (matrix : LatencyMatrix) :
    matrix.symmetrise.IsSquare matrix.size := by
  constructor
  · simp [symmetrise]
  · intro row hrow
    obtain ⟨i, rfl⟩ := Array.mem_ofFn.mp hrow
    simp

theorem isSquare_missing (n : Nat) : (missing n).IsSquare n := by
  constructor
  · exact size_missing n
  · intro row hrow
    rw [Array.eq_of_mem_replicate hrow, Array.size_replicate]

theorem IsSquare.copyRow?_eq (hsquare : matrix.IsSquare n) (hi : i < n) {row : List Nanos}
    (hrow : row.length = n) :
    matrix.copyRow? i row = some (matrix.setIfInBounds i row.toArray) := by
  have hplace : i < matrix.size := by rwa [hsquare.size]
  rw [copyRow?, Array.getElem?_eq_getElem hplace]
  exact if_pos ((hsquare.size_getElem hplace).trans hrow.symm)

theorem IsSquare.setIfInBounds (hsquare : matrix.IsSquare n) (i : Nat) {row : List Nanos}
    (hrow : row.length = n) : LatencyMatrix.IsSquare (matrix.setIfInBounds i row.toArray) n := by
  constructor
  · rw [Array.size_setIfInBounds]
    exact hsquare.size
  · intro other hother
    rcases Array.mem_or_eq_of_mem_setIfInBounds hother with hold | rfl
    · exact hsquare.row other hold
    · exact hrow

end LatencyMatrix

namespace Expectation

def writeTime? (write propose : LatencyMatrix) (leader i j : Nat) : Option Nanos :=
  return (← propose.latency? leader i).link (← write.latency? i j)

def acceptTime? (view : View) (write propose : LatencyMatrix) (leader self j : Nat) :
    Option Nanos := do
  let writes ← (List.range view.n).mapM fun i => writeTime? write propose leader i j
  return (Nanos.kthSmallest writes view.quorum).link (← write.latency? j self)

def predict? (view : View) (write propose : LatencyMatrix) (leader self : ReplicaId) :
    Option Expectation :=
  let n := view.n
  let l := leader.toNat
  let m := self.toNat
  if n ≤ l || n ≤ m then
    return missing n
  else do
    let writeArrival ← (List.range n).mapM fun j => writeTime? write propose l j m
    let acceptArrival ← (List.range n).mapM fun j => acceptTime? view write propose l m j
    return {
      round := Nanos.kthSmallest acceptArrival view.quorum
      propose := ← propose.latency? l m
      writeArrival
      acceptArrival }

variable {view : View} {write propose : LatencyMatrix} {i j leader self : Nat}

theorem writeTime?_eq (hwrite : write.IsSquare view.n) (hpropose : propose.IsSquare view.n)
    (hleader : leader < view.n) (hi : i < view.n) (hj : j < view.n) :
    writeTime? write propose leader i j =
      some ((propose.entry leader i).link (write.entry i j)) := by
  rw [writeTime?, hpropose.latency?_eq hleader hi, hwrite.latency?_eq hi hj]
  rfl

theorem acceptTime?_eq (hwrite : write.IsSquare view.n) (hpropose : propose.IsSquare view.n)
    (hleader : leader < view.n) (hself : self < view.n) (hj : j < view.n) :
    acceptTime? view write propose leader self j =
      some ((Nanos.kthSmallest ((List.range view.n).map fun i =>
        (propose.entry leader i).link (write.entry i j)) view.quorum).link
          (write.entry j self)) := by
  rw [acceptTime?, mapM_eq_some_map fun i hi =>
    writeTime?_eq hwrite hpropose hleader (List.mem_range.mp hi) hj, hwrite.latency?_eq hj hself]
  rfl

theorem predict?_eq (hwrite : write.IsSquare view.n) (hpropose : propose.IsSquare view.n)
    (leader self : ReplicaId) :
    predict? view write propose leader self = some (predict view write propose leader self) := by
  unfold predict? predict
  dsimp only
  split
  · rfl
  next hinside =>
    simp only [Bool.or_eq_true, decide_eq_true_eq, not_or, not_le] at hinside
    obtain ⟨hleader, hself⟩ := hinside
    rw [mapM_eq_some_map fun j hj =>
        writeTime?_eq hwrite hpropose hleader (List.mem_range.mp hj) hself,
      mapM_eq_some_map fun j hj =>
        acceptTime?_eq hwrite hpropose hleader hself (List.mem_range.mp hj),
      hpropose.latency?_eq hleader hself]
    rfl

end Expectation

/-! ## Boards -/

namespace LatencyBoard

def store? (board : LatencyBoard) (sender : ReplicaId) (vector : LatencyVector) :
    Option LatencyBoard :=
  let board := board.fitted.value
  if vector.size = board.view.n && board.view.contains sender then do
    let write ← board.write.copyRow? sender.toNat vector.write
    let propose ← board.propose.copyRow? sender.toNat vector.propose
    return { board with write, propose }
  else
    return board

def notify? (board : LatencyBoard) (sender : ReplicaId) (payload : Bytes) :
    Option LatencyBoard := do
  match ← LatencyVector.decode? payload with
  | .ok vector => board.store? sender vector
  | .error _ => return board

def ask? (board : LatencyBoard) : BoardQuery → Option (LatencyBoard × BoardAnswer)
  -- Who has reported is counted without reading any position.
  | .checkInitialized => return board.ask .checkInitialized
  | .predict leader self => do
      let board := board.fitted.value
      let expectation ← Expectation.predict? board.view (← board.write.symmetrise?)
        (← board.propose.symmetrise?) leader self
      return (board, .expectation expectation)

def perform? (board : LatencyBoard) : BoardCall → Option LatencyBoard
  | .change (.setView view) => return board.setView view
  | .change (.notify sender payload) => board.notify? sender payload
  | .ask query => do
      let (board, _) ← board.ask? query
      return board

def run? (board : LatencyBoard) (calls : List BoardCall) : Option LatencyBoard :=
  calls.foldlM perform? board

/-- Both matrices are square and of one size. -/
def IsSquare (board : LatencyBoard) : Prop :=
  ∃ n, board.write.IsSquare n ∧ board.propose.IsSquare n

theorem isSquare_empty (view : View) : (empty view).IsSquare :=
  ⟨view.n, LatencyMatrix.isSquare_missing _, LatencyMatrix.isSquare_missing _⟩

variable {board : LatencyBoard}

theorem IsSquare.setView (hsquare : board.IsSquare) (view : View) :
    (board.setView view).IsSquare :=
  hsquare

/-- In use they are of the size of the view. -/
theorem IsSquare.fitted (hsquare : board.IsSquare) :
    board.fitted.value.write.IsSquare board.fitted.value.view.n ∧
      board.fitted.value.propose.IsSquare board.fitted.value.view.n := by
  obtain ⟨n, hwrite, hpropose⟩ := hsquare
  rw [value_fitted]
  split
  next hfits =>
    obtain rfl : n = board.view.n := hwrite.size.symm.trans (fits_iff.mp hfits).1
    exact ⟨hwrite, hpropose⟩
  next => exact ⟨LatencyMatrix.isSquare_missing _, LatencyMatrix.isSquare_missing _⟩

theorem IsSquare.store (hsquare : board.IsSquare) (sender : ReplicaId) {vector : LatencyVector}
    (hvector : vector.propose.length = vector.size) :
    board.store? sender vector = some (board.store sender vector).value ∧
      (board.store sender vector).value.IsSquare := by
  obtain ⟨hwrite, hpropose⟩ := hsquare.fitted
  rw [value_store]
  unfold store? withRows
  dsimp only
  split
  next haccepted =>
    rw [Bool.and_eq_true, decide_eq_true_eq] at haccepted
    obtain ⟨hsize, hcontains⟩ := haccepted
    have hsender : sender.toNat < board.fitted.value.view.n := by
      simpa [View.contains] using hcontains
    constructor
    · rw [hwrite.copyRow?_eq hsender hsize, hpropose.copyRow?_eq hsender (hvector.trans hsize)]
      rfl
    · exact ⟨_, hwrite.setIfInBounds _ hsize, hpropose.setIfInBounds _ (hvector.trans hsize)⟩
  next => exact ⟨rfl, _, hwrite, hpropose⟩

theorem IsSquare.notify (hsquare : board.IsSquare) (sender : ReplicaId) (payload : Bytes) :
    board.notify? sender payload = some (board.notify sender payload).value ∧
      (board.notify sender payload).value.IsSquare := by
  unfold notify? LatencyBoard.notify
  rw [LatencyVector.decode?_eq]
  cases hdecode : LatencyVector.decode payload with
  | error cause => exact ⟨rfl, hsquare⟩
  | ok vector => exact hsquare.store sender (LatencyVector.length_propose_of_decode hdecode)

theorem IsSquare.ask (hsquare : board.IsSquare) (query : BoardQuery) :
    board.ask? query = some (board.ask query) ∧ (board.ask query).1.IsSquare := by
  have hfitted := hsquare.fitted
  refine ⟨?_, by rw [fst_ask]; exact ⟨_, hfitted⟩⟩
  cases query with
  | checkInitialized => rfl
  | predict leader self =>
      obtain ⟨hwrite, hpropose⟩ := hfitted
      have hwriteLinks := board.fitted.value.write.isSquare_symmetrise
      have hproposeLinks := board.fitted.value.propose.isSquare_symmetrise
      rw [hwrite.size] at hwriteLinks
      rw [hpropose.size] at hproposeLinks
      simp only [ask?, LatencyMatrix.symmetrise?_eq, Option.bind_eq_bind, Option.bind_some,
        Expectation.predict?_eq hwriteLinks hproposeLinks]
      rfl

theorem IsSquare.perform (hsquare : board.IsSquare) (call : BoardCall) :
    board.perform? call = some (board.perform call) ∧ (board.perform call).IsSquare := by
  cases call with
  | change update =>
      cases update with
      | setView view => exact ⟨rfl, hsquare.setView view⟩
      | notify sender payload => exact hsquare.notify sender payload
  | ask query =>
      obtain ⟨hanswer, hnext⟩ := hsquare.ask query
      refine ⟨?_, hnext⟩
      rw [perform?, hanswer]
      rfl

theorem IsSquare.run (hsquare : board.IsSquare) (calls : List BoardCall) :
    board.run? calls = some (board.run calls) ∧ (board.run calls).IsSquare := by
  induction calls generalizing board with
  | nil => exact ⟨rfl, hsquare⟩
  | cons call calls ih =>
      obtain ⟨hresult, hnext⟩ := hsquare.perform call
      rw [run?, List.foldlM_cons, hresult]
      exact ih hnext

/-- The payload is a latency vector of the size of the view, and it comes from
the view. -/
structure Admits (board : LatencyBoard) (sender : ReplicaId) (payload : Bytes)
    (vector : LatencyVector) : Prop where
  decode : LatencyVector.decode payload = .ok vector
  size : vector.size = board.view.n
  contains : board.view.contains sender = true

theorem getElem?_withRows_of_ne {sender : ReplicaId} {i : Nat} (hne : i ≠ sender.toNat)
    (board : LatencyBoard) (vector : LatencyVector) :
    (board.withRows sender vector).write[i]? = board.write[i]? ∧
      (board.withRows sender vector).propose[i]? = board.propose[i]? := by
  unfold withRows
  split
  · exact ⟨Array.getElem?_setIfInBounds_ne hne.symm, Array.getElem?_setIfInBounds_ne hne.symm⟩
  · exact ⟨rfl, rfl⟩

variable {sender : ReplicaId} {payload : Bytes} {vector : LatencyVector}

theorem value_notify_of_fits (hfits : board.fits = true)
    (hdecode : LatencyVector.decode payload = .ok vector) :
    (board.notify sender payload).value = board.withRows sender vector := by
  rw [notify, hdecode]
  change (board.store sender vector).value = _
  rw [value_store, value_fitted, if_pos hfits]

/-- A board in use notes a report in the two rows of its sender and drops
everything else. -/
theorem notify_of_fits (hfits : board.fits = true) (sender : ReplicaId) (payload : Bytes) :
    let next := (board.notify sender payload).value
    (∀ i, i ≠ sender.toNat →
      next.write[i]? = board.write[i]? ∧ next.propose[i]? = board.propose[i]?) ∧
    (next ≠ board → ∃ vector, board.Admits sender payload vector) ∧
    ∀ vector, board.Admits sender payload vector →
      next.view = board.view ∧ next.write[sender.toNat]? = some vector.write.toArray ∧
        next.propose[sender.toNat]? = some vector.propose.toArray := by
  intro next
  cases hdecode : LatencyVector.decode payload with
  | error cause =>
      have hnext : next = board := by
        simp only [next, notify, hdecode]
        rfl
      rw [hnext]
      refine ⟨fun i _ => ⟨rfl, rfl⟩, fun hchanged => absurd rfl hchanged, ?_⟩
      intro vector hadmits
      have hread := hdecode.symm.trans hadmits.decode
      contradiction
  | ok read =>
      have hnext : next = board.withRows sender read := value_notify_of_fits hfits hdecode
      rw [hnext]
      refine ⟨fun i hne => getElem?_withRows_of_ne hne board read, fun hchanged => ?_, ?_⟩
      · by_contra hrefused
        apply hchanged
        rw [withRows, if_neg]
        rw [Bool.and_eq_true, decide_eq_true_eq]
        exact fun haccepted => hrefused ⟨read, hdecode, haccepted.1, haccepted.2⟩
      · intro vector hadmits
        obtain rfl : read = vector := Except.ok.inj (hdecode.symm.trans hadmits.decode)
        have hplace : sender.toNat < board.view.n := by
          simpa [View.contains] using hadmits.contains
        obtain ⟨hwrite, hpropose⟩ := fits_iff.mp hfits
        rw [withRows, if_pos (by simp [hadmits.size, hadmits.contains])]
        exact ⟨rfl, Array.getElem?_setIfInBounds_self_of_lt (by rwa [hwrite]),
          Array.getElem?_setIfInBounds_self_of_lt (by rwa [hpropose])⟩

/-- In no run is a position read that lies outside, nor a row overwritten by one
of another length, whatever the views, the senders and the bytes.  The matrices
stay square and of one size.  If that is the size of the view, a report changes
the two rows of its sender and nothing else does anything. -/
theorem board_calls_stay_within_bounds (view : View) (calls : List BoardCall) :
    let board := (empty view).run calls
    ((empty view).run? calls = some board ∧
      ∀ query, board.ask? query = some (board.ask query)) ∧
    (∃ n, board.write.IsSquare n ∧ board.propose.IsSquare n) ∧
    (board.fits = true → ∀ sender payload,
      let next := (board.notify sender payload).value
      (∀ i, i ≠ sender.toNat →
        next.write[i]? = board.write[i]? ∧ next.propose[i]? = board.propose[i]?) ∧
      (next ≠ board → ∃ vector, board.Admits sender payload vector) ∧
      ∀ vector, board.Admits sender payload vector →
        next.view = board.view ∧ next.write[sender.toNat]? = some vector.write.toArray ∧
          next.propose[sender.toNat]? = some vector.propose.toArray) := by
  intro board
  obtain ⟨hresult, hsquare⟩ := (isSquare_empty view).run calls
  exact ⟨⟨hresult, fun query => (hsquare.ask query).1⟩, hsquare, notify_of_fits⟩

/-- A report among four replicas is forgotten among seven.  Back among four, a
vote for replica 9 is no report, and a report of replica 2 fills its rows. -/
theorem third_row_is_filled_among_four :
    let report := (LatencyVector.mk [5, 6, 7, 8] [9, 10, 11, 12]).encode
    let calls : List BoardCall :=
      [.change (.notify 1 report), .change (.setView ⟨7, 2, by decide⟩),
        .ask (.predict 0 6), .change (.setView ⟨4, 1, by decide⟩), .ask .checkInitialized,
        .change (.notify 9 report), .ask (.predict 9 0)]
    let board := (empty ⟨4, 1, by decide⟩).run calls
    let next := (board.notify 2 report).value
    (empty ⟨4, 1, by decide⟩).run? calls = some board ∧ board.fits = true ∧
      next.write[2]? = some #[5, 6, 7, 8] ∧ next.propose[2]? = some #[9, 10, 11, 12] ∧
      next.write[1]? = some (Array.replicate 4 Nanos.missing) := by
  intro report calls board next
  have hboard : (empty ⟨4, 1, by decide⟩).run calls = board := rfl
  have hfits : board.fits = true := by decide +kernel
  obtain ⟨⟨hresult, -⟩, -, hnotify⟩ := board_calls_stay_within_bounds ⟨4, 1, by decide⟩ calls
  rw [hboard] at hresult hnotify
  obtain ⟨hothers, -, hrows⟩ := hnotify hfits 2 report
  have hadmits : board.Admits 2 report ⟨[5, 6, 7, 8], [9, 10, 11, 12]⟩ :=
    ⟨by decide +kernel, by decide +kernel, by decide +kernel⟩
  have hplace : (2 : ReplicaId).toNat = 2 := rfl
  obtain ⟨-, hwrite, hpropose⟩ := hrows _ hadmits
  rw [hplace] at hwrite hpropose
  refine ⟨hresult, hfits, hwrite, hpropose, ?_⟩
  rw [(hothers 1 (by decide)).1]
  decide +kernel

end LatencyBoard
end SuspicionMonitor
