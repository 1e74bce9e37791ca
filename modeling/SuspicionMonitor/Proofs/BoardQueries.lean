import SuspicionMonitor.Proofs.Arming

/-!
# Queries of a latency board

Changes of view and published latencies come out of total order, queries come
from the replica itself.  A query makes matrices anew that do not fit the view.
This goes unnoticed as long as no later change of view makes the old matrices
fit again: then a replica that was asked in between has forgotten what another
one still knows.
-/

namespace SuspicionMonitor

inductive BoardUpdate where
  | setView (view : View)
  | notify (sender : ReplicaId) (payload : Bytes)

inductive BoardQuery where
  | checkInitialized
  | predict (leader self : ReplicaId)

inductive BoardAnswer where
  | flag (value : Bool)
  | expectation (expectation : Expectation)
  deriving DecidableEq

inductive BoardCall where
  | change (update : BoardUpdate)
  | ask (query : BoardQuery)

def BoardCall.update? : BoardCall → Option BoardUpdate
  | .change update => some update
  | .ask _ => none

def BoardCall.updates (calls : List BoardCall) : List BoardUpdate :=
  calls.filterMap BoardCall.update?

namespace LatencyBoard

def apply (board : LatencyBoard) : BoardUpdate → LatencyBoard
  | .setView view => board.setView view
  | .notify sender payload => (board.notify sender payload).value

def ask (board : LatencyBoard) : BoardQuery → LatencyBoard × BoardAnswer
  | .checkInitialized =>
      let (board, initialized) := board.checkInitialized.value
      (board, .flag initialized)
  | .predict leader self =>
      let (board, expectation) := (board.predict leader self).value
      (board, .expectation expectation)

def perform (board : LatencyBoard) : BoardCall → LatencyBoard
  | .change update => board.apply update
  | .ask query => (board.ask query).1

def run (board : LatencyBoard) (calls : List BoardCall) : LatencyBoard :=
  calls.foldl perform board

/-- All runs with these updates end with the same matrices in use, whatever is
asked on the way. -/
def UsedAlike (start : LatencyBoard) (updates : List BoardUpdate) : Prop :=
  ∀ first second, BoardCall.updates first = updates → BoardCall.updates second = updates →
    (start.run first).fitted.value = (start.run second).fitted.value

/-- All runs with these updates give the same answers afterwards. -/
def AnswersAlike (start : LatencyBoard) (updates : List BoardUpdate) : Prop :=
  ∀ first second, BoardCall.updates first = updates → BoardCall.updates second = updates →
    ∀ query, ((start.run first).ask query).2 = ((start.run second).ask query).2

/-- Latencies are known in matrices that do not fit the view. -/
def IsDormant (board : LatencyBoard) : Prop := board.fits = false ∧ ¬ board.IsBlank

/-- In the run without queries, no change of view makes dormant matrices fit
again. -/
def NeverRevives : LatencyBoard → List BoardUpdate → Prop
  | _, [] => True
  | board, update :: updates =>
      (∀ view, update = .setView view → board.IsDormant → (board.setView view).fits = false) ∧
        NeverRevives (board.apply update) updates

variable {board : LatencyBoard} {updates : List BoardUpdate}

theorem fst_ask (board : LatencyBoard) (query : BoardQuery) :
    (board.ask query).1 = board.fitted.value := by
  cases query <;> rfl

theorem snd_ask_congr {first second : LatencyBoard}
    (hused : first.fitted.value = second.fitted.value) (query : BoardQuery) :
    (first.ask query).2 = (second.ask query).2 := by
  cases query with
  | checkInitialized =>
      simp only [ask, checkInitialized, Logged.value_bind, hused]
  | predict leader self =>
      simp only [ask, predict, Logged.value_bind, hused]

theorem UsedAlike.answersAlike {start : LatencyBoard} (hused : start.UsedAlike updates) :
    start.AnswersAlike updates := by
  intro first second hfirst hsecond query
  exact snd_ask_congr (hused first second hfirst hsecond) query

theorem value_fitted_eq_empty (hunused : board.fits = true → board.IsBlank) :
    board.fitted.value = empty board.view := by
  by_cases hfits : board.fits = true
  · exact (hunused hfits).value_fitted
  · rw [value_fitted, if_neg hfits]

theorem isBlank_ask (hmisfit : ¬ board.fits = true) (query : BoardQuery) :
    (board.ask query).1.IsBlank := by
  rw [fst_ask, value_fitted, if_neg hmisfit]
  exact isBlank_empty board.view

/-- The first board has received the same updates as the second one, and
queries besides.  If it is another board by now, then neither of them makes use
of any latency. -/
structure Follows (asked quiet : LatencyBoard) : Prop where
  view : asked.view = quiet.view
  matrices : asked = quiet ∨ asked.IsBlank ∧ (quiet.fits = true → quiet.IsBlank)

variable {asked quiet : LatencyBoard}

theorem Follows.fitted (hfollows : asked.Follows quiet) :
    asked.fitted.value = quiet.fitted.value := by
  rcases hfollows.matrices with rfl | ⟨hblank, hunused⟩
  · rfl
  · rw [hblank.value_fitted, value_fitted_eq_empty hunused, hfollows.view]

theorem Follows.ask (hfollows : asked.Follows quiet) (query : BoardQuery) :
    (asked.ask query).1.Follows quiet := by
  rw [fst_ask]
  refine ⟨asked.view_fitted.trans hfollows.view, ?_⟩
  by_cases hknown : quiet.fits = true ∧ ¬ quiet.IsBlank
  · -- Matrices that are in use stay as they are.
    left
    rw [hfollows.fitted, value_fitted, if_pos hknown.1]
  · have hunused : quiet.fits = true → quiet.IsBlank := by tauto
    right
    rw [hfollows.fitted, value_fitted_eq_empty hunused]
    exact ⟨isBlank_empty quiet.view, hunused⟩

theorem Follows.setView (hfollows : asked.Follows quiet) {view : View}
    (hdormant : quiet.IsDormant → (quiet.setView view).fits = false) :
    (asked.setView view).Follows (quiet.setView view) := by
  refine ⟨rfl, ?_⟩
  rcases hfollows.matrices with rfl | ⟨hblank, hunused⟩
  · exact Or.inl rfl
  · refine Or.inr ⟨isBlank_setView.mpr hblank, fun hfits => isBlank_setView.mpr ?_⟩
    by_contra hknown
    have hmisfit : quiet.fits = false := by
      rw [Bool.eq_false_iff]
      exact fun hfits => hknown (hunused hfits)
    rw [hdormant ⟨hmisfit, hknown⟩] at hfits
    contradiction

theorem Follows.notify (hfollows : asked.Follows quiet) (sender : ReplicaId) (payload : Bytes) :
    (asked.notify sender payload).value.Follows (quiet.notify sender payload).value := by
  unfold LatencyBoard.notify
  cases LatencyVector.decode payload with
  | error cause => exact hfollows
  | ok vector =>
      have hstore := value_store_congr hfollows.fitted sender vector
      exact ⟨congrArg LatencyBoard.view hstore, Or.inl hstore⟩

theorem Follows.run (hfollows : asked.Follows quiet) {calls : List BoardCall}
    (hquiet : quiet.NeverRevives (BoardCall.updates calls)) :
    (asked.run calls).Follows ((BoardCall.updates calls).foldl apply quiet) := by
  induction calls generalizing asked quiet with
  | nil => exact hfollows
  | cons call calls ih =>
      cases call with
      | ask query => exact ih (hfollows.ask query) hquiet
      | change update =>
          obtain ⟨hfirst, hrest⟩ := hquiet
          cases update with
          | setView view => exact ih (hfollows.setView (hfirst view rfl)) hrest
          | notify sender payload => exact ih (hfollows.notify sender payload) hrest

theorem follows_refl (board : LatencyBoard) : board.Follows board := ⟨rfl, Or.inl rfl⟩

theorem NeverRevives.usedAlike {start : LatencyBoard} (hquiet : start.NeverRevives updates) :
    start.UsedAlike updates := by
  intro first second hfirst hsecond
  have hasked : ∀ calls, BoardCall.updates calls = updates →
      (start.run calls).fitted.value = (updates.foldl apply start).fitted.value := by
    rintro calls rfl
    exact (start.follows_refl.run hquiet).fitted
  rw [hasked first hfirst, hasked second hsecond]

theorem NeverRevives.of_prefix {start : LatencyBoard} (hquiet : start.NeverRevives updates)
    {before : List BoardUpdate} (hbefore : before <+: updates) : start.NeverRevives before := by
  induction updates generalizing start before with
  | nil =>
      rw [List.prefix_nil.mp hbefore]
      trivial
  | cons update updates ih =>
      cases before with
      | nil => trivial
      | cons first before =>
          obtain ⟨rfl, hlater⟩ := List.cons_prefix_cons.mp hbefore
          exact ⟨hquiet.1, ih hquiet.2 hlater⟩

/-- If dormant matrices are made to fit again, then it matters whether a query
has come just before. -/
theorem neverRevives_of_usedAlike {start : LatencyBoard}
    (hused : ∀ before, before <+: updates → start.UsedAlike before) :
    start.NeverRevives updates := by
  induction updates generalizing start with
  | nil => trivial
  | cons update updates ih =>
      constructor
      · rintro view rfl ⟨hmisfit, hknown⟩
        rw [Bool.eq_false_iff]
        intro hfits
        have hsame := hused [.setView view] (by simp) [.change (.setView view)]
          [.ask .checkInitialized, .change (.setView view)] rfl rfl
        have hasked : (start.run [.ask .checkInitialized, .change (.setView view)]).IsBlank :=
          isBlank_setView.mpr (isBlank_ask (Bool.eq_false_iff.mp hmisfit) .checkInitialized)
        have hquiet : start.run [.change (.setView view)] = start.setView view := rfl
        rw [hasked.value_fitted, hquiet, value_fitted, if_pos hfits] at hsame
        apply hknown
        rw [← isBlank_setView, hsame]
        exact isBlank_empty _
      · apply ih
        intro before hbefore first second hfirst hsecond
        apply hused (update :: before) (List.cons_prefix_cons.mpr ⟨rfl, hbefore⟩)
          (.change update :: first) (.change update :: second)
        · exact congrArg (update :: ·) hfirst
        · exact congrArg (update :: ·) hsecond

/-! ## Which views may come -/

/-- What is known fits the view. -/
def IsSettled (board : LatencyBoard) : Prop :=
  board.IsBlank ∨ board.fits = true ∧ board.view.n ≤ maxReplicas

theorem IsSettled.setView (hsettled : board.IsSettled) {view : View}
    (hsame : board.view.n ≤ maxReplicas → view.n = board.view.n) :
    (board.setView view).IsSettled := by
  rcases hsettled with hblank | ⟨hfits, hsize⟩
  · exact Or.inl (isBlank_setView.mpr hblank)
  · obtain ⟨hwrite, hpropose⟩ := fits_iff.mp hfits
    have hn := hsame hsize
    have hnext : view.n ≤ maxReplicas := by rwa [hn]
    exact Or.inr ⟨fits_iff.mpr ⟨hwrite.trans hn.symm, hpropose.trans hn.symm⟩, hnext⟩

theorem IsSettled.fitted (hsettled : board.IsSettled) : board.fitted.value.IsSettled := by
  rcases hsettled with hblank | ⟨hfits, hsize⟩
  · rw [hblank.value_fitted]
    exact Or.inl (isBlank_empty _)
  · rw [value_fitted, if_pos hfits]
    exact Or.inr ⟨hfits, hsize⟩

theorem IsSettled.notify (hsettled : board.IsSettled) (sender : ReplicaId) (payload : Bytes) :
    (board.notify sender payload).value.IsSettled := by
  unfold LatencyBoard.notify
  cases hdecode : LatencyVector.decode payload with
  | error cause => exact hsettled
  | ok vector =>
      obtain ⟨hfits, hview⟩ := board.fits_store sender vector
      by_cases hsize : board.view.n ≤ maxReplicas
      · rw [← hview] at hsize
        exact Or.inr ⟨hfits, hsize⟩
      · -- No vector of this size can be read.
        have hother : ¬ (vector.size = board.fitted.value.view.n ∧
            board.fitted.value.view.contains sender = true) := by
          rintro ⟨hvector, -⟩
          rw [view_fitted] at hvector
          have hread := LatencyVector.size_le_of_decode hdecode
          omega
        have hstore : (board.store sender vector).value = board.fitted.value := by
          unfold store
          rw [Logged.value_bind, if_neg (by simpa using hother)]
          rfl
        change (board.store sender vector).value.IsSettled
        rw [hstore]
        exact hsettled.fitted

theorem view_notify (board : LatencyBoard) (sender : ReplicaId) (payload : Bytes) :
    (board.notify sender payload).value.view = board.view := by
  rcases board.notify_cases sender payload with hkept | ⟨vector, hstored⟩
  · rw [hkept]
  · rw [hstored]
    exact (board.fits_store sender vector).2

theorem IsSettled.neverRevives (hsettled : board.IsSettled) {views : Set View}
    (hsizes : ∀ view ∈ views, view.n ≤ maxReplicas → ∀ other ∈ views, other.n = view.n)
    (hview : board.view ∈ views)
    (hviews : ∀ next, .setView next ∈ updates → next ∈ views) : board.NeverRevives updates := by
  induction updates generalizing board with
  | nil => trivial
  | cons update updates ih =>
      have hlater : ∀ next, .setView next ∈ updates → next ∈ views :=
        fun next hnext => hviews next (List.mem_cons_of_mem _ hnext)
      constructor
      · rintro view rfl ⟨hmisfit, hknown⟩
        rcases hsettled with hblank | ⟨hfits, -⟩
        · contradiction
        · rw [hfits] at hmisfit
          contradiction
      · cases update with
        | setView view =>
            have hnext : view ∈ views := hviews view List.mem_cons_self
            exact ih (hsettled.setView fun hsize => hsizes _ hview hsize view hnext) hnext hlater
        | notify sender payload =>
            rw [← board.view_notify sender payload] at hview
            exact ih (hsettled.notify sender payload) hview hlater

theorem setView_setView {view other : View} (hview : board.view = view) :
    (board.setView other).setView view = board := by
  subst hview
  rfl

/-- Every replica of the view reports that its links take no time. -/
def firstReports (view : View) : List Submission :=
  view.replicas.map fun id =>
    ⟨id, .latency, (LatencyVector.mk (.replicate view.n 0) (.replicate view.n 0)).encode⟩

theorem isReport_of_mem_firstReports {view : View} {value : Submission}
    (hvalue : value ∈ firstReports view) : value.IsReport view := by
  obtain ⟨id, hid, rfl⟩ := List.mem_map.mp hvalue
  refine ⟨View.contains_of_mem_replicas hid, _, rfl, List.length_replicate,
    List.length_replicate, 0, ?_, rfl⟩
  exact List.mem_replicate.mpr ⟨view.n_pos.ne', rfl⟩

theorem checkInitialized_firstReports {view : View} (hview : view.n ≤ maxReplicas) :
    let reported := (firstReports view).foldl receive (empty view)
    reported.IsFor view ∧ reported.checkInitialized.value.2 = true := by
  intro reported
  obtain ⟨hfor, hknown⟩ := (isFor_empty view).foldl_receive hview
    fun _ => isReport_of_mem_firstReports
  have hsize : view.n < UInt32.size := lt_of_le_of_lt hview (by decide)
  refine ⟨hfor, hfor.isInitialized hsize fun id hid => hknown id (Or.inr ?_)⟩
  rw [firstReports, List.map_map]
  exact List.mem_map.mpr ⟨id, hid, rfl⟩

def updatesOf (values : List Submission) : List BoardUpdate :=
  values.map fun value => .notify value.sender value.payload

theorem foldl_apply_firstReports (board : LatencyBoard) (view : View) :
    (updatesOf (firstReports view)).foldl apply board =
      (firstReports view).foldl receive board := by
  rw [updatesOf, List.foldl_map]
  refine List.foldl_ext _ _ _ fun before value hvalue => ?_
  obtain ⟨id, -, rfl⟩ := List.mem_map.mp hvalue
  rfl

theorem AnswersAlike.after {start : LatencyBoard} {before later : List BoardUpdate}
    (halike : start.AnswersAlike (before ++ later)) :
    (before.foldl apply start).AnswersAlike later := by
  intro first second hfirst hsecond query
  have hupdates : ∀ calls, BoardCall.updates calls = later →
      BoardCall.updates (before.map .change ++ calls) = before ++ later := by
    rintro calls rfl
    rw [BoardCall.updates, List.filterMap_append, List.filterMap_map]
    exact congrArg (· ++ _) List.filterMap_some
  have hrun : ∀ calls, start.run (before.map .change ++ calls) =
      (before.foldl apply start).run calls := by
    intro calls
    rw [run, List.foldl_append, List.foldl_map]
    rfl
  have hsame := halike (before.map .change ++ first) (before.map .change ++ second)
    (hupdates first hfirst) (hupdates second hsecond) query
  rwa [hrun, hrun] at hsame

/-- What a whole view has reported is known in that view again, unless there
has been a query in a view of another size. -/
theorem not_answersAlike_of_return {view other : View} (hview : view.n ≤ maxReplicas)
    (hother : other.n ≠ view.n) :
    ¬ (empty view).AnswersAlike
      (updatesOf (firstReports view) ++ [.setView other, .setView view]) := by
  intro halike
  obtain ⟨hfor, hinitialized⟩ := checkInitialized_firstReports hview
  have hreported := halike.after
  rw [foldl_apply_firstReports] at hreported
  set reported := (firstReports view).foldl receive (empty view)
  have hsame := hreported [.change (.setView other), .change (.setView view)]
    [.change (.setView other), .ask .checkInitialized, .change (.setView view)] rfl rfl
    .checkInitialized
  have hquiet : reported.run [.change (.setView other), .change (.setView view)] = reported :=
    setView_setView hfor.sameView
  have hmisfit : ¬ (reported.setView other).fits = true := by
    intro hfits
    exact hother ((fits_iff.mp hfits).1.symm.trans hfor.write)
  have hasked : (reported.run
      [.change (.setView other), .ask .checkInitialized, .change (.setView view)]).IsBlank :=
    isBlank_setView.mpr (isBlank_ask hmisfit .checkInitialized)
  have hunknown := value_checkInitialized_of_empty hasked.value_fitted
  simp only [hquiet, ask, hinitialized, hunknown, BoardAnswer.flag.injEq] at hsame
  contradiction

/-- Queries make no difference as long as no change of view makes matrices fit
again that are out of use.  Whether that happens depends on the views: it
cannot if all of them have the same size or are too large for any report, and
it can with any two sizes one of which is not. -/
theorem queries_leave_no_trace_iff (views : Set View) :
    (∀ view updates,
      ((empty view).NeverRevives updates ↔
        ∀ before, before <+: updates → (empty view).UsedAlike before) ∧
      ((empty view).NeverRevives updates →
        ∀ before, before <+: updates → (empty view).AnswersAlike before)) ∧
    ((∀ view ∈ views, ∀ updates, (∀ next, .setView next ∈ updates → next ∈ views) →
        (empty view).AnswersAlike updates) ↔
      ∀ view ∈ views, view.n ≤ maxReplicas → ∀ other ∈ views, other.n = view.n) := by
  refine ⟨fun view updates => ⟨⟨?_, neverRevives_of_usedAlike⟩, ?_⟩, ?_, ?_⟩
  · exact fun hquiet before hbefore => (hquiet.of_prefix hbefore).usedAlike
  · exact fun hquiet before hbefore => (hquiet.of_prefix hbefore).usedAlike.answersAlike
  · intro halike view hview hsize other hother
    by_contra hdiffer
    refine not_answersAlike_of_return hsize hdiffer (halike view hview _ ?_)
    intro next hnext
    rcases List.mem_append.mp hnext with hreport | hreturn
    · obtain ⟨value, -, hvalue⟩ := List.mem_map.mp hreport
      contradiction
    · simp only [List.mem_cons, List.not_mem_nil, or_false, BoardUpdate.setView.injEq] at hreturn
      rcases hreturn with rfl | rfl
      · exact hother
      · exact hview
  · intro hsizes view hview updates hviews
    have hsettled : (empty view).IsSettled := Or.inl (isBlank_empty view)
    exact (hsettled.neverRevives hsizes hview hviews).usedAlike.answersAlike

/-- A report among four replicas is out of use among seven, but not among four
of whom none is faulty. -/
theorem queries_unnoticed_after_one_change :
    let four : View := ⟨4, 1, by decide⟩
    let faultless : View := ⟨4, 0, by decide⟩
    let seven : View := ⟨7, 2, by decide⟩
    let report : BoardUpdate := .notify 0 (LatencyVector.ofWrite [5, 6, 7, 8]).encode
    (empty four).AnswersAlike [report, .setView seven] ∧
      (empty four).AnswersAlike [report, .setView faultless, .setView four] := by
  intro four faultless seven report
  constructor
  · obtain ⟨-, halike⟩ := (queries_leave_no_trace_iff {four, seven}).1 four
      [report, .setView seven]
    refine halike ?_ _ List.prefix_rfl
    have hmisfit : (((empty four).apply report).setView seven).fits = false := by decide +kernel
    refine ⟨fun view hview => by contradiction, fun view hview _ => ?_, trivial⟩
    rw [BoardUpdate.setView.injEq] at hview
    rwa [← hview]
  · refine (queries_leave_no_trace_iff {four, faultless}).2.mpr ?_ four (by simp) _ ?_
    · rintro view (rfl | rfl) - other (rfl | rfl) <;> rfl
    · simp [report]

/-- Among four replicas, whether or not a replica has been asked among seven in
between. -/
theorem answers_differ_among_four_again :
    let report := (LatencyVector.mk [5, 6, 7, 8] [9, 10, 11, 12]).encode
    ¬ (empty ⟨4, 1, by decide⟩).AnswersAlike
      [.notify 0 report, .notify 1 report, .notify 2 report,
        .setView ⟨7, 2, by decide⟩, .setView ⟨4, 1, by decide⟩] := by
  intro report halike
  have hsame := halike
    [.change (.notify 0 report), .change (.notify 1 report), .change (.notify 2 report),
      .change (.setView ⟨7, 2, by decide⟩), .change (.setView ⟨4, 1, by decide⟩)]
    [.change (.notify 0 report), .change (.notify 1 report), .change (.notify 2 report),
      .change (.setView ⟨7, 2, by decide⟩), .ask .checkInitialized,
      .change (.setView ⟨4, 1, by decide⟩)]
    rfl rfl .checkInitialized
  revert hsame
  decide +kernel

end LatencyBoard
end SuspicionMonitor
