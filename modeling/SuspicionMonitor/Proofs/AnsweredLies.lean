import SuspicionMonitor.Proofs.HonestExclusions
import SuspicionMonitor.Simulation.Scenario

/-!
# What answered lies exclude

Each of several liars accuses one honest replica, and all of the accused answer.
The pairs that suspect each other then form stars with a victim in the middle of
each.  The matching takes the pair of the lowest liar from every star and no
other, so the victims are excluded and one liar for each of them, while all
other liars remain candidates.
-/

namespace SuspicionMonitor

/-- Nobody lies twice, and nobody who is accused lies. -/
structure AreLies (accusations : List Accusation) : Prop where
  distinct : (accusations.map Accusation.liar).Nodup
  honest : ∀ first ∈ accusations, ∀ second ∈ accusations, first.victim ≠ second.liar

variable {accusations : List Accusation} {accusation other : Accusation}

theorem AreLies.eq_of_liar (hlies : AreLies accusations) (hmem : accusation ∈ accusations)
    (hother : other ∈ accusations) (hliar : accusation.liar = other.liar) :
    accusation = other :=
  List.inj_on_of_nodup_map hlies.distinct hmem hother hliar

/-- An accusation that a liar has a part in is its own. -/
theorem AreLies.eq_of_end (hlies : AreLies accusations) (hmem : accusation ∈ accusations)
    (hother : other ∈ accusations)
    (hend : other.liar = accusation.liar ∨ other.victim = accusation.liar) :
    other = accusation := by
  rcases hend with hliar | hvictim
  · exact hlies.eq_of_liar hother hmem hliar
  · exact absurd hvictim (hlies.honest other hother accusation hmem)

namespace Accusation

/-- The pair that suspects each other once the accusation is answered. -/
def pair (accusation : Accusation) : ReplicaPair :=
  if accusation.liar < accusation.victim then (accusation.liar, accusation.victim)
  else (accusation.victim, accusation.liar)

theorem pair_ends (accusation : Accusation) (id : ReplicaId) :
    accusation.pair.1 = id ∨ accusation.pair.2 = id ↔
      accusation.liar = id ∨ accusation.victim = id := by
  unfold pair
  split
  · exact Iff.rfl
  · exact or_comm

end Accusation

namespace SuspicionGraph

/-- The pairs that suspect each other are those of the accusations. -/
def IsMadeOf (graph : SuspicionGraph) (accusations : List Accusation) : Prop :=
  ∀ pair, pair ∈ graph.mutualPairs ↔ ∃ accusation ∈ accusations, accusation.pair = pair

/-- The edges are the accusations and their reversals. -/
def HasEdgesOf (graph : SuspicionGraph) (accusations : List Accusation) : Prop :=
  ∀ u v, graph.suspects u v = true ↔ ∃ accusation ∈ accusations,
    accusation.liar = u ∧ accusation.victim = v ∨ accusation.victim = u ∧ accusation.liar = v

variable {graph : SuspicionGraph}

theorem HasEdgesOf.isMadeOf (hedges : graph.HasEdgesOf accusations)
    (hlies : AreLies accusations) : graph.IsMadeOf accusations := by
  rintro ⟨u, v⟩
  rw [mem_mutualPairs, suspectEachOther_iff, hedges, hedges]
  constructor
  · rintro ⟨hlt, ⟨accusation, hmem, hends⟩, -⟩
    refine ⟨accusation, hmem, ?_⟩
    rcases hends with ⟨rfl, rfl⟩ | ⟨rfl, rfl⟩
    · exact if_pos hlt
    · exact if_neg (UInt32.not_lt.mpr (UInt32.le_of_lt hlt))
  · rintro ⟨accusation, hmem, hpair⟩
    have hne := hlies.honest accusation hmem accusation hmem
    unfold Accusation.pair at hpair
    split at hpair
    next hlt =>
      obtain ⟨rfl, rfl⟩ := Prod.mk.inj hpair
      exact ⟨hlt, ⟨accusation, hmem, Or.inl ⟨rfl, rfl⟩⟩, ⟨accusation, hmem, Or.inr ⟨rfl, rfl⟩⟩⟩
    next hge =>
      obtain ⟨rfl, rfl⟩ := Prod.mk.inj hpair
      have hlt : accusation.victim < accusation.liar :=
        UInt32.lt_of_le_of_ne (UInt32.not_lt.mp hge) hne
      exact ⟨hlt, ⟨accusation, hmem, Or.inr ⟨rfl, rfl⟩⟩, ⟨accusation, hmem, Or.inl ⟨rfl, rfl⟩⟩⟩

theorem IsMadeOf.exists_accusation (hmade : graph.IsMadeOf accusations) {pair : ReplicaPair}
    (hpair : pair ∈ graph.matching) : ∃ accusation ∈ accusations, accusation.pair = pair :=
  (hmade pair).mp (mutualPairs_of_mem_matching hpair)

theorem IsMadeOf.covers_iff (hmade : graph.IsMadeOf accusations) {id : ReplicaId} :
    covers graph.matching id = true ↔ ∃ accusation ∈ accusations,
      accusation.pair ∈ graph.matching ∧ (accusation.liar = id ∨ accusation.victim = id) := by
  rw [SuspicionGraph.covers_iff]
  constructor
  · rintro ⟨pair, hpair, hend⟩
    obtain ⟨accusation, hmem, rfl⟩ := hmade.exists_accusation hpair
    exact ⟨accusation, hmem, hpair, (accusation.pair_ends id).mp hend⟩
  · rintro ⟨accusation, -, hpair, hend⟩
    exact ⟨accusation.pair, hpair, (accusation.pair_ends id).mpr hend⟩

theorem IsMadeOf.eq_pair_of_liar (hmade : graph.IsMadeOf accusations)
    (hlies : AreLies accusations) (hmem : accusation ∈ accusations) {pair : ReplicaPair}
    (hpair : pair ∈ graph.mutualPairs)
    (hend : pair.1 = accusation.liar ∨ pair.2 = accusation.liar) : pair = accusation.pair := by
  obtain ⟨other, hother, rfl⟩ := (hmade pair).mp hpair
  rw [hlies.eq_of_end hmem hother ((other.pair_ends _).mp hend)]

theorem IsMadeOf.covers_liar_iff (hmade : graph.IsMadeOf accusations)
    (hlies : AreLies accusations) (hmem : accusation ∈ accusations) :
    covers graph.matching accusation.liar = true ↔ accusation.pair ∈ graph.matching := by
  rw [hmade.covers_iff]
  constructor
  · rintro ⟨other, hother, hpair, hend⟩
    rwa [hlies.eq_of_end hmem hother hend] at hpair
  · exact fun hpair => ⟨accusation, hmem, hpair, Or.inl rfl⟩

theorem IsMadeOf.covers_victim (hmade : graph.IsMadeOf accusations)
    (hlies : AreLies accusations) (hmem : accusation ∈ accusations) :
    covers graph.matching accusation.victim = true := by
  have hpair : accusation.pair ∈ graph.mutualPairs := (hmade _).mpr ⟨accusation, hmem, rfl⟩
  have hends : covers graph.matching accusation.liar = true ∨
      covers graph.matching accusation.victim = true := by
    have hcovers := covers_foldl_takePair_of_mem hpair []
    unfold Accusation.pair at hcovers
    split at hcovers
    · exact hcovers
    · exact hcovers.symm
  rcases hends with hliar | hvictim
  · have htaken := (hmade.covers_liar_iff hlies hmem).mp hliar
    exact hmade.covers_iff.mpr ⟨accusation, hmem, htaken, Or.inr rfl⟩
  · exact hvictim

/-- Nobody with a lower id accuses the same victim. -/
def IsFirstAgainst (accusations : List Accusation) (accusation : Accusation) : Prop :=
  ∀ other ∈ accusations, other.victim = accusation.victim → accusation.liar ≤ other.liar

theorem not_pairBefore {first second : Accusation} (hvictim : second.victim = first.victim)
    (hliar : first.liar ≤ second.liar) : ¬ PairBefore second.pair first.pair := by
  unfold PairBefore Accusation.pair
  rw [hvictim]
  have hle := UInt32.le_iff_toNat_le.mp hliar
  split <;> split <;> simp only [UInt32.lt_iff_toNat_lt, ← UInt32.toNat_inj] at * <;> omega

theorem exists_isFirstAgainst (hmem : accusation ∈ accusations) :
    ∃ first ∈ accusations, first.victim = accusation.victim ∧
      IsFirstAgainst accusations first := by
  let rivals := accusations.toFinset.filter fun other => other.victim = accusation.victim
  have hrival : accusation ∈ rivals := by simp [rivals, hmem]
  obtain ⟨first, hfirst, hleast⟩ :=
    Finset.exists_min_image rivals (fun other => other.liar.toNat) ⟨accusation, hrival⟩
  obtain ⟨hlisted, hvictim⟩ := Finset.mem_filter.mp hfirst
  refine ⟨first, List.mem_toFinset.mp hlisted, hvictim, ?_⟩
  intro other hother hsame
  exact UInt32.le_iff_toNat_le.mpr (hleast other (by simp [rivals, hother, hsame, hvictim]))

theorem IsMadeOf.pair_mem_matching_of_first (hmade : graph.IsMadeOf accusations)
    (hlies : AreLies accusations) (hmem : accusation ∈ accusations)
    (hfirst : IsFirstAgainst accusations accusation) : accusation.pair ∈ graph.matching := by
  have hpair : accusation.pair ∈ graph.mutualPairs := (hmade _).mpr ⟨accusation, hmem, rfl⟩
  have hsorted := graph.pairwise_mutualPairs
  obtain ⟨before, later, hsplit⟩ := List.append_of_mem hpair
  unfold matching
  rw [hsplit] at hsorted ⊢
  apply mem_greedyMatching_of_free
  intro earlier htaken id hend hshared
  have hearlier := (mem_or_mem_of_mem_foldl_takePair htaken).resolve_left List.not_mem_nil
  have hbefore : PairBefore earlier accusation.pair :=
    (List.pairwise_append.mp hsorted).2.2 earlier hearlier accusation.pair List.mem_cons_self
  have hlisted : earlier ∈ graph.mutualPairs := by
    rw [hsplit]
    exact List.mem_append_left _ hearlier
  obtain ⟨other, hother, rfl⟩ := (hmade earlier).mp hlisted
  rw [Accusation.pair_ends] at hend hshared
  -- Pairs that share an end are about the same victim, the middle of their star.
  have hvictim : other.victim = accusation.victim := by
    rcases hend with rfl | rfl
    · rw [hlies.eq_of_end hmem hother hshared]
    · rcases hshared with hliar | hvictim
      · rw [hlies.eq_of_end hother hmem (Or.inr hliar.symm)]
      · exact hvictim
  exact not_pairBefore hvictim (hfirst other hother hvictim) hbefore

theorem IsMadeOf.pair_mem_matching_iff (hmade : graph.IsMadeOf accusations)
    (hlies : AreLies accusations) (hmem : accusation ∈ accusations) :
    accusation.pair ∈ graph.matching ↔ IsFirstAgainst accusations accusation := by
  refine ⟨fun hpair => ?_, hmade.pair_mem_matching_of_first hlies hmem⟩
  obtain ⟨first, hfirst, hvictim, hleast⟩ := exists_isFirstAgainst hmem
  have hother := hmade.pair_mem_matching_of_first hlies hfirst hleast
  have hsame : accusation.pair = first.pair :=
    graph.isMatching_matching _ hpair _ hother first.victim
      ((accusation.pair_ends _).mpr (Or.inr hvictim.symm)) ((first.pair_ends _).mpr (Or.inr rfl))
  have hend := (accusation.pair_ends accusation.liar).mpr (Or.inl rfl)
  rw [hsame] at hend
  rwa [← hlies.eq_of_end hmem hfirst ((first.pair_ends accusation.liar).mp hend)]

/-! ## Exclusions -/

/-- Of three replicas that all suspect each other, one would be a liar with two
victims. -/
theorem IsMadeOf.triangles_eq_nil (hmade : graph.IsMadeOf accusations)
    (hlies : AreLies accusations) : graph.triangles = [] := by
  rw [List.eq_nil_iff_forall_not_mem]
  rintro ⟨u, v, w⟩ htriangle
  obtain ⟨huv, huw, hvw⟩ := mem_triangles.mp htriangle
  have hltu := (mem_mutualPairs.mp huv).1
  have hltv := (mem_mutualPairs.mp hvw).1
  obtain ⟨accusation, hmem, hpair⟩ := (hmade _).mp huv
  rcases (accusation.pair_ends accusation.liar).mpr (Or.inl rfl) with hliar | hliar
  · have hsame := hmade.eq_pair_of_liar hlies hmem huw (Or.inl (by rw [← hliar, hpair]))
    rw [hpair] at hsame
    exact UInt32.ne_of_lt hltv (Prod.mk.inj hsame).2.symm
  · have hsame := hmade.eq_pair_of_liar hlies hmem hvw (Or.inl (by rw [← hliar, hpair]))
    rw [hpair] at hsame
    exact UInt32.ne_of_lt hltu (Prod.mk.inj hsame).1.symm

theorem IsMadeOf.mem_exclusions_iff (hmade : graph.IsMadeOf accusations)
    (hlies : AreLies accusations) {id : ReplicaId} :
    id ∈ graph.exclusions ↔ covers graph.matching id = true := by
  rw [mem_exclusions, hmade.triangles_eq_nil hlies]
  simp

theorem IsMadeOf.size_exclusions_le (hmade : graph.IsMadeOf accusations)
    (hlies : AreLies accusations) : graph.exclusions.size ≤ 2 * accusations.length := by
  let parties := accusations.flatMap fun accusation => [accusation.liar, accusation.victim]
  have hparties : graph.exclusions.size ≤ parties.length := by
    apply OrderedSet.size_le_length
    intro id hid
    obtain ⟨accusation, hmem, -, hend⟩ :=
      hmade.covers_iff.mp ((hmade.mem_exclusions_iff hlies).mp hid)
    exact List.mem_flatMap.mpr ⟨accusation, hmem, by simpa [eq_comm] using hend⟩
  have hlength : parties.length = 2 * accusations.length := by
    simp [parties, List.length_flatMap, Nat.mul_comm]
  rwa [hlength] at hparties

/-- If nobody has to be released, the candidates are all replicas but the
victims and the lowest liar against each of them. -/
theorem IsMadeOf.mem_heuristicCandidates_iff (hmade : graph.IsMadeOf accusations)
    (hlies : AreLies accusations) (hsize : 2 * accusations.length ≤ graph.view.maxExclusions)
    {id : ReplicaId} :
    id ∈ graph.heuristicCandidates ↔ id ∈ graph.view.replicas ∧
      ∀ accusation ∈ accusations, accusation.victim ≠ id ∧
        (accusation.liar = id → ¬ IsFirstAgainst accusations accusation) := by
  have hkept : graph.clampExclusions graph.exclusions = graph.exclusions :=
    clampExclusions_eq_self ((hmade.size_exclusions_le hlies).trans hsize)
  rw [mem_heuristicCandidates, hkept, hmade.mem_exclusions_iff hlies]
  apply and_congr_right
  intro _
  constructor
  · intro hfree accusation hmem
    constructor
    · rintro rfl
      exact hfree (hmade.covers_victim hlies hmem)
    · rintro rfl hfirst
      exact hfree ((hmade.covers_liar_iff hlies hmem).mpr
        (hmade.pair_mem_matching_of_first hlies hmem hfirst))
  · intro hfree hcovers
    obtain ⟨accusation, hmem, hpair, hliar | hvictim⟩ := hmade.covers_iff.mp hcovers
    · exact (hfree accusation hmem).2 hliar ((hmade.pair_mem_matching_iff hlies hmem).mp hpair)
    · exact (hfree accusation hmem).1 hvictim

end SuspicionGraph

end SuspicionMonitor
