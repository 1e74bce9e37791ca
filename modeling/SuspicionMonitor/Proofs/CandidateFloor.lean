import SuspicionMonitor.Proofs.ExclusionList

/-!
# The floor under the candidate set

Whatever has been suspected, at least `f + 1` replicas of the view remain
candidates, as long as 32-bit ids can name every replica of the view.  In a
larger view the ids wrap around; fewer replicas are listed than the view has,
and pairing the listed ones off leaves nobody.
-/

namespace SuspicionMonitor

namespace View

theorem mem_replicas {view : View} {id : ReplicaId} :
    id ∈ view.replicas ↔ id.toNat < view.n % UInt32.size := by
  unfold replicas
  rw [List.mem_map]
  constructor
  · rintro ⟨i, hi, rfl⟩
    have hlt : i < view.n % UInt32.size := List.mem_range.mp hi
    have hsize : view.n % UInt32.size < UInt32.size := Nat.mod_lt _ (by decide)
    rwa [UInt32.toNat_ofNat_of_lt' (by omega)]
  · intro hid
    exact ⟨id.toNat, List.mem_range.mpr hid, UInt32.ofNat_toNat⟩

theorem nodup_replicas (view : View) : view.replicas.Nodup := by
  have hsize : view.n % UInt32.size < UInt32.size := Nat.mod_lt _ (by decide)
  refine List.Nodup.map_on ?_ List.nodup_range
  intro i hi j hj heq
  have hi := List.mem_range.mp hi
  have hj := List.mem_range.mp hj
  have hnat := congrArg UInt32.toNat heq
  rwa [UInt32.toNat_ofNat_of_lt' (by omega), UInt32.toNat_ofNat_of_lt' (by omega)] at hnat

theorem pairwise_replicas (view : View) : view.replicas.Pairwise (· < ·) := by
  unfold replicas
  rw [List.pairwise_map]
  refine List.pairwise_lt_range.imp_of_mem ?_
  intro first second hfirst hsecond hlt
  have hsize : view.n % UInt32.size < UInt32.size := Nat.mod_lt _ (by decide)
  have hfirst := List.mem_range.mp hfirst
  have hsecond := List.mem_range.mp hsecond
  rw [UInt32.lt_iff_toNat_lt, UInt32.toNat_ofNat_of_lt' (by omega),
    UInt32.toNat_ofNat_of_lt' (by omega)]
  exact hlt

theorem length_replicas (view : View) : view.replicas.length = view.n % UInt32.size := by
  simp [replicas]

theorem contains_of_mem_replicas {view : View} {id : ReplicaId} (hid : id ∈ view.replicas) :
    view.contains id = true := by
  have hlt := mem_replicas.mp hid
  have hmod : view.n % UInt32.size ≤ view.n := Nat.mod_le _ _
  simp only [contains, decide_eq_true_eq]
  omega

end View

namespace SuspicionGraph

theorem value_candidateSet? (graph : SuspicionGraph) (settings : GraphSettings)
    (inTime : Option Nat) :
    (graph.candidateSet? settings inTime).value =
      if graph.view.candidateFloor ≤ (graph.candidates settings inTime).ids.length then
        some (graph.candidates settings inTime).ids
      else
        none := by
  unfold candidateSet?
  simp only [Logged.value_bind]
  split <;> rfl

theorem ids_candidates_of_value_candidateSet? {graph : SuspicionGraph}
    {settings : GraphSettings} {inTime : Option Nat} {ids : List ReplicaId}
    (hvalue : (graph.candidateSet? settings inTime).value = some ids) :
    (graph.candidates settings inTime).ids = ids := by
  rw [value_candidateSet?] at hvalue
  exact Option.some.inj (Option.ite_none_right_eq_some.mp hvalue).2

theorem mem_heuristicCandidates {graph : SuspicionGraph} {id : ReplicaId} :
    id ∈ graph.heuristicCandidates ↔
      id ∈ graph.view.replicas ∧ id ∉ graph.clampExclusions graph.exclusions := by
  unfold heuristicCandidates
  simp [List.mem_filter, ← Bool.not_eq_true]

theorem nodup_heuristicCandidates (graph : SuspicionGraph) :
    graph.heuristicCandidates.Nodup :=
  (View.nodup_replicas graph.view).filter _

/-- Every listed replica is a candidate or excluded. -/
theorem length_heuristicCandidates_add (graph : SuspicionGraph) :
    graph.heuristicCandidates.length +
        (graph.view.replicas.filter (graph.clampExclusions graph.exclusions).contains).length =
      graph.view.replicas.length := by
  have hsplit := List.length_eq_length_filter_add (l := graph.view.replicas)
    (graph.clampExclusions graph.exclusions).contains
  have hkept : (graph.view.replicas.filter
      fun id => !(graph.clampExclusions graph.exclusions).contains id).length =
      graph.heuristicCandidates.length := rfl
  omega

theorem length_replicas_le (graph : SuspicionGraph) :
    graph.view.replicas.length ≤
      graph.heuristicCandidates.length + graph.view.maxExclusions := by
  have hsplit := graph.length_heuristicCandidates_add
  have hremoved : (graph.view.replicas.filter
      (graph.clampExclusions graph.exclusions).contains).length ≤
      (graph.clampExclusions graph.exclusions).size := by
    apply OrderedSet.length_le_size ((View.nodup_replicas graph.view).filter _)
    intro id hid
    exact Std.ExtTreeSet.mem_iff_contains.mpr (List.mem_filter.mp hid).2
  have hclamp := graph.size_clampExclusions graph.exclusions
  omega

theorem candidateFloor_le_heuristicCandidates {graph : SuspicionGraph}
    (hids : graph.view.n < UInt32.size) :
    graph.view.candidateFloor ≤ graph.heuristicCandidates.length := by
  have hlength := graph.length_replicas_le
  rw [View.length_replicas, Nat.mod_eq_of_lt hids] at hlength
  have hview := graph.view.maxExclusions_add_candidateFloor
  omega

theorem searches_le {settings : GraphSettings} {n : Nat} (hsearch : settings.searches n = true) :
    n ≤ GraphSettings.searchableVertices := by
  unfold GraphSettings.searches at hsearch
  simp only [Bool.and_eq_true, decide_eq_true_eq] at hsearch
  exact Nat.le_trans hsearch.2 (Nat.min_le_right _ _)

theorem ofNat_inj {n : Nat} (hids : n ≤ UInt32.size) {u v : Fin n}
    (heq : UInt32.ofNat u = UInt32.ofNat v) : u = v := by
  have hnat := congrArg UInt32.toNat heq
  rw [UInt32.toNat_ofNat_of_lt' (by omega), UInt32.toNat_ofNat_of_lt' (by omega)] at hnat
  exact Fin.ext hnat

theorem contains_ofNat {view : View} (hids : view.n ≤ UInt32.size) (v : Fin view.n) :
    view.contains (UInt32.ofNat v) = true := by
  have hv := v.isLt
  simp only [View.contains, decide_eq_true_eq]
  rw [UInt32.toNat_ofNat_of_lt' (by omega)]
  exact hv

theorem nodup_independentCandidates (graph : SuspicionGraph) (allowance : Option Nat)
    (hids : graph.view.n ≤ UInt32.size) :
    (graph.independentCandidates allowance).ids.Nodup := by
  refine List.Nodup.filterMap ?_ (List.nodup_finRange _)
  intro u v id hu hv
  have hu : UInt32.ofNat u = id := by simpa using (Option.ite_none_right_eq_some.mp hu).2
  have hv : UInt32.ofNat v = id := by simpa using (Option.ite_none_right_eq_some.mp hv).2
  exact ofNat_inj hids (hu.trans hv.symm)

theorem mem_independentCandidates {graph : SuspicionGraph} {allowance : Option Nat}
    {id : ReplicaId} :
    id ∈ (graph.independentCandidates allowance).ids ↔
      ∃ v ∈ (graph.mutualAdjacency.maximumIndependentSet allowance).best,
        UInt32.ofNat v = id := by
  simp [independentCandidates]

theorem contains_of_mem_independentCandidates {graph : SuspicionGraph}
    {allowance : Option Nat} {id : ReplicaId} (hids : graph.view.n ≤ UInt32.size)
    (hid : id ∈ (graph.independentCandidates allowance).ids) :
    graph.view.contains id = true := by
  obtain ⟨v, _, rfl⟩ := mem_independentCandidates.mp hid
  exact contains_ofNat hids v

/-! ## The floor -/

/-- The graph has an answer: at least `f + 1` different replicas of its
view. -/
def HasCandidates (graph : SuspicionGraph) (settings : GraphSettings)
    (inTime : Option Nat := none) : Prop :=
  ∃ ids, (graph.candidateSet? settings inTime).value = some ids ∧ ids.Nodup ∧
    (∀ id ∈ ids, graph.view.contains id = true) ∧ graph.view.candidateFloor ≤ ids.length

theorem ids_candidates (graph : SuspicionGraph) (settings : GraphSettings)
    (inTime : Option Nat) :
    (graph.candidates settings inTime).ids = graph.heuristicCandidates ∨
      settings.searches graph.view.n = true ∧
        graph.candidates settings inTime =
          graph.independentCandidates (settings.searchAllowance inTime) ∧
        graph.view.candidateFloor ≤ (graph.candidates settings inTime).ids.length := by
  unfold candidates
  by_cases hsearch : settings.searches graph.view.n = true
  · rw [if_pos hsearch]
    by_cases hfloor : graph.view.candidateFloor ≤
        (graph.independentCandidates (settings.searchAllowance inTime)).ids.length
    · right
      refine ⟨hsearch, ?_, ?_⟩ <;> simp only [if_pos hfloor]
      exact hfloor
    · left
      simp only [if_neg hfloor]
  · rw [if_neg hsearch]
    exact Or.inl rfl

theorem hasCandidates_of_ids {graph : SuspicionGraph} (hids : graph.view.n < UInt32.size)
    (settings : GraphSettings) (inTime : Option Nat) : graph.HasCandidates settings inTime := by
  refine ⟨(graph.candidates settings inTime).ids, ?_, ?_⟩
  · rw [value_candidateSet?, if_pos]
    rcases graph.ids_candidates settings inTime with hheuristic | ⟨_, _, hfloor⟩
    · rw [hheuristic]
      exact candidateFloor_le_heuristicCandidates hids
    · exact hfloor
  · rcases graph.ids_candidates settings inTime with hheuristic | ⟨_, hfound, hfloor⟩
    · rw [hheuristic]
      refine ⟨graph.nodup_heuristicCandidates, ?_, candidateFloor_le_heuristicCandidates hids⟩
      intro id hid
      exact View.contains_of_mem_replicas (mem_heuristicCandidates.mp hid).1
    · refine ⟨?_, ?_, hfloor⟩
      · rw [hfound]
        exact graph.nodup_independentCandidates _ hids.le
      · intro id hid
        rw [hfound] at hid
        exact contains_of_mem_independentCandidates hids.le hid

/-- The first `2 * pairs` ids accuse each other in pairs, the lowest and the
highest and so on inwards. -/
def accusationsInPairs (pairs : Nat) : List Suspicion :=
  (List.range (2 * pairs)).map fun i => {
    round := 0
    phase := .propose
    kind := .slow
    suspect := UInt32.ofNat (2 * pairs - 1 - i)
    reporter := UInt32.ofNat i
  }

/-- A graph in which the listed replicas of the view suspect each other in
pairs. -/
def pairedOff (view : View) : SuspicionGraph :=
  after view [.populate (accusationsInPairs ((view.n % UInt32.size + 1) / 2))]

theorem mem_accusationsInPairs {pairs : Nat} (hids : 2 * pairs ≤ UInt32.size)
    {u v : ReplicaId} :
    (∃ s ∈ accusationsInPairs pairs, s.reporter = u ∧ s.suspect = v) ↔
      u.toNat + v.toNat + 1 = 2 * pairs := by
  simp only [accusationsInPairs, List.mem_map, List.mem_range]
  constructor
  · rintro ⟨_, ⟨i, hi, rfl⟩, rfl, rfl⟩
    rw [UInt32.toNat_ofNat_of_lt' (by omega), UInt32.toNat_ofNat_of_lt' (by omega)]
    omega
  · intro hsum
    refine ⟨_, ⟨u.toNat, by omega, rfl⟩, UInt32.ofNat_toNat, ?_⟩
    rw [show 2 * pairs - 1 - u.toNat = v.toNat by omega]
    exact UInt32.ofNat_toNat

theorem suspects_pairedOff {view : View} (hids : UInt32.size ≤ view.n) {u v : ReplicaId} :
    (pairedOff view).suspects u v = true ↔
      u.toNat + v.toNat + 1 = 2 * ((view.n % UInt32.size + 1) / 2) := by
  have hmod : view.n % UInt32.size < UInt32.size := Nat.mod_lt _ (by decide)
  have hpairs : 2 * ((view.n % UInt32.size + 1) / 2) ≤ UInt32.size := by omega
  have hgraph : pairedOff view =
      (empty view).strengthenAll (accusationsInPairs ((view.n % UInt32.size + 1) / 2)) := rfl
  rw [hgraph, suspects_strengthenAll, mem_accusationsInPairs hpairs]
  constructor
  · rintro (hempty | ⟨_, hsum⟩)
    · rw [suspects_empty] at hempty
      contradiction
    · exact hsum
  · intro hsum
    refine Or.inr ⟨?_, hsum⟩
    simp only [accepts, Bool.and_eq_true, bne_iff_ne, View.contains, decide_eq_true_eq]
    refine ⟨⟨?_, ?_⟩, ?_⟩
    · rintro rfl
      omega
    · change u.toNat < view.n
      omega
    · change v.toNat < view.n
      omega

theorem suspectEachOther_pairedOff {view : View} (hids : UInt32.size ≤ view.n)
    {u v : ReplicaId} :
    (pairedOff view).suspectEachOther u v = true ↔
      u.toNat + v.toNat + 1 = 2 * ((view.n % UInt32.size + 1) / 2) := by
  rw [suspectEachOther_iff, suspects_pairedOff hids, suspects_pairedOff hids]
  omega

theorem mem_exclusions_pairedOff {view : View} (hids : UInt32.size ≤ view.n)
    {id : ReplicaId} :
    id ∈ (pairedOff view).exclusions ↔
      id.toNat < 2 * ((view.n % UInt32.size + 1) / 2) := by
  constructor
  · intro hid
    obtain ⟨other, hmutual⟩ := exists_suspectEachOther_of_mem_exclusions hid
    have hsum := (suspectEachOther_pairedOff hids).mp hmutual
    omega
  · intro hlt
    have hmod : view.n % UInt32.size < UInt32.size := Nat.mod_lt _ (by decide)
    let other : ReplicaId :=
      UInt32.ofNat (2 * ((view.n % UInt32.size + 1) / 2) - 1 - id.toNat)
    have hother : other.toNat = 2 * ((view.n % UInt32.size + 1) / 2) - 1 - id.toNat :=
      UInt32.toNat_ofNat_of_lt' (by omega)
    have hne : id ≠ other := by
      intro heq
      have hnat := congrArg UInt32.toNat heq
      omega
    have hmutual : (pairedOff view).suspectEachOther id other = true :=
      (suspectEachOther_pairedOff hids).mpr (by omega)
    -- The matched pair that covers one of the two can only be their own.
    have hboth : ∀ taken, covers (pairedOff view).matching taken = true →
        taken = id ∨ taken = other → covers (pairedOff view).matching id = true := by
      intro taken hcovers htaken
      obtain ⟨⟨u, v⟩, hmem, hend⟩ := covers_iff.mp hcovers
      have hpair := (mem_mutualPairs.mp (mutualPairs_of_mem_matching hmem)).2
      have hsum := (suspectEachOther_pairedOff hids).mp hpair
      apply covers_iff.mpr
      refine ⟨(u, v), hmem, ?_⟩
      simp only [← UInt32.toNat_inj] at hend htaken ⊢
      omega
    apply mem_exclusions.mpr
    left
    rcases matching_covers hmutual hne with hcovers | hcovers
    · exact hcovers
    · exact hboth other hcovers (Or.inr rfl)

/-- Every listed replica is paired off, and not one of them is released. -/
theorem heuristicCandidates_pairedOff {view : View} (hids : UInt32.size ≤ view.n) :
    (pairedOff view).heuristicCandidates = [] := by
  have hview : (pairedOff view).view = view := view_strengthenAll _ _
  have hsize : (pairedOff view).exclusions.size ≤ 2 * ((view.n % UInt32.size + 1) / 2) := by
    let ends := (List.range (2 * ((view.n % UInt32.size + 1) / 2))).map UInt32.ofNat
    have hlength : (pairedOff view).exclusions.size ≤ ends.length := by
      apply OrderedSet.size_le_length
      intro id hid
      exact List.mem_map.mpr ⟨id.toNat,
        List.mem_range.mpr ((mem_exclusions_pairedOff hids).mp hid), UInt32.ofNat_toNat⟩
    simpa [ends] using hlength
  have hroom : (pairedOff view).exclusions.size ≤ (pairedOff view).view.maxExclusions := by
    have hbound := view.bound
    have hwrap : UInt32.size + view.n % UInt32.size ≤ view.n := by
      have hdiv := Nat.mod_add_div view.n UInt32.size
      have hpos : 1 ≤ view.n / UInt32.size := (Nat.one_le_div_iff (by decide)).mpr hids
      have hmul := Nat.mul_le_mul_left UInt32.size hpos
      omega
    have hmod : view.n % UInt32.size < UInt32.size := Nat.mod_lt _ (by decide)
    have hlarge : 4 ≤ UInt32.size := by decide
    rw [hview]
    unfold View.maxExclusions
    omega
  apply List.eq_nil_iff_forall_not_mem.mpr
  intro id hid
  obtain ⟨hlisted, hkept⟩ := mem_heuristicCandidates.mp hid
  rw [hview] at hlisted
  rw [clampExclusions_eq_self hroom] at hkept
  have hlt := View.mem_replicas.mp hlisted
  exact hkept ((mem_exclusions_pairedOff hids).mpr (by omega))

theorem not_hasCandidates_of_nil {graph : SuspicionGraph} {settings : GraphSettings}
    (hsettings : settings.searches graph.view.n = false)
    (hnone : graph.heuristicCandidates = []) (inTime : Option Nat) :
    ¬ graph.HasCandidates settings inTime := by
  rintro ⟨ids, hvalue, -⟩
  rw [value_candidateSet?] at hvalue
  rcases graph.ids_candidates settings inTime with hheuristic | ⟨hsearch, -⟩
  · rw [hheuristic, hnone, if_neg (by simp [View.candidateFloor])] at hvalue
    contradiction
  · rw [hsettings] at hsearch
    contradiction

/-- Every graph that a run leaves behind in the view has its `f + 1`
candidates, with any settings and however much there is time for, exactly if
32-bit ids can name all replicas of the view. -/
theorem candidates_never_run_out_iff (view : View) (inTime : Option Nat) :
    (∀ (start : View) (calls : List GraphCall) (settings : GraphSettings),
        (after start calls).view = view → (after start calls).HasCandidates settings inTime) ↔
      view.n < UInt32.size := by
  constructor
  · intro hall
    by_contra hids
    have hids : UInt32.size ≤ view.n := Nat.le_of_not_lt hids
    have hsettings : GraphSettings.standard.searches (pairedOff view).view.n = false := rfl
    exact not_hasCandidates_of_nil hsettings (heuristicCandidates_pairedOff hids) inTime
      (hall view _ .standard (view_strengthenAll _ _))
  · intro hids start calls settings hview
    rw [← hview] at hids
    exact hasCandidates_of_ids hids settings inTime

/-- Nobody suspects anybody, and still there is no candidate. -/
theorem no_candidates_among_four_billion :
    ¬ (after ⟨4294967296, 0, by decide⟩ []).HasCandidates .standard :=
  not_hasCandidates_of_nil rfl (by simp [heuristicCandidates, after, empty, View.replicas]) none

end SuspicionGraph

end SuspicionMonitor
