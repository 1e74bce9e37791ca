import SuspicionMonitor.Proofs.AnsweredLies
import SuspicionMonitor.Proofs.RandomSamples

/-!
# Drawn accusations

As long as somebody is left to be honest, as many liars are drawn as were asked
for, and each of them accuses one of the others.
-/

namespace SuspicionMonitor

/-- Accusations by so many liars among `n` replicas. -/
structure AreDrawn (n liars : Nat) (accusations : List Accusation) : Prop
    extends AreLies accusations where
  length : accusations.length = liars
  liar_lt : ∀ accusation ∈ accusations, accusation.liar.toNat < n
  victim_lt : ∀ accusation ∈ accusations, accusation.victim.toNat < n

namespace Random

variable {n liars : Nat} {sampled : List Nat}

theorem IsSample.filter_perm (hsample : IsSample n liars sampled) :
    ((List.range n).filter sampled.contains).Perm sampled := by
  rw [List.perm_ext_iff_of_nodup (List.nodup_range.filter _) hsample.nodup]
  intro id
  rw [List.mem_filter, List.contains_iff_mem, List.mem_range]
  exact ⟨fun hid => hid.2, fun hid => ⟨hsample.below id hid, hid⟩⟩

theorem IsSample.exists_not_mem (hsample : IsSample n liars sampled) (hliars : liars < n) :
    ∃ id < n, id ∉ sampled := by
  rw [← hsample.size] at hliars
  exact exists_lt_not_mem sampled hliars

/-- What a liar may be drawn to say, if these replicas are honest. -/
def Accuses (honest : List Nat) (liar : Nat) (accusation : Accusation) : Prop :=
  ∃ victim ∈ honest, accusation = ⟨UInt32.ofNat liar, UInt32.ofNat victim⟩

theorem map_liar_of_accuses {chosen honest : List Nat} {accusations : List Accusation}
    (haccuses : List.Forall₂ (Accuses honest) chosen accusations) :
    accusations.map Accusation.liar = chosen.map UInt32.ofNat := by
  induction haccuses with
  | nil => rfl
  | cons haccuse _ ih =>
      obtain ⟨victim, -, rfl⟩ := haccuse
      rw [List.map_cons, List.map_cons, ih]

theorem areDrawn_of_accuses (hn : n ≤ UInt32.size) {chosen honest : List Nat}
    {accusations : List Accusation} (hchosen : IsSample n liars chosen)
    (hhonest : ∀ id ∈ honest, id < n ∧ id ∉ chosen)
    (haccuses : List.Forall₂ (Accuses honest) chosen accusations) :
    AreDrawn n liars accusations := by
  have hvalue : ∀ {id}, id < n → (UInt32.ofNat id).toNat = id :=
    fun hid => UInt32.toNat_ofNat_of_lt' (Nat.lt_of_lt_of_le hid hn)
  have hinj : ∀ first second, first < n → second < n →
      UInt32.ofNat first = UInt32.ofNat second → first = second := by
    intro first second hfirst hsecond hsame
    rw [← hvalue hfirst, hsame, hvalue hsecond]
  refine { distinct := ?_, honest := ?_, length := ?_, liar_lt := ?_, victim_lt := ?_ }
  · rw [map_liar_of_accuses haccuses]
    refine List.Nodup.map_on ?_ hchosen.nodup
    exact fun first hfirst second hsecond =>
      hinj first second (hchosen.below first hfirst) (hchosen.below second hsecond)
  · intro first hfirst second hsecond hsame
    obtain ⟨_, _, victim, hvictim, rfl⟩ := exists_of_mem_results haccuses hfirst
    obtain ⟨liar, hliar, _, _, rfl⟩ := exists_of_mem_results haccuses hsecond
    obtain ⟨hbelow, hspared⟩ := hhonest victim hvictim
    rw [← hinj victim liar hbelow (hchosen.below liar hliar) hsame] at hliar
    exact hspared hliar
  · rw [← haccuses.length_eq, hchosen.size]
  · intro accusation hmem
    obtain ⟨liar, hliar, -, -, rfl⟩ := exists_of_mem_results haccuses hmem
    rw [hvalue (hchosen.below liar hliar)]
    exact hchosen.below liar hliar
  · intro accusation hmem
    obtain ⟨-, -, victim, hvictim, rfl⟩ := exists_of_mem_results haccuses hmem
    rw [hvalue (hhonest victim hvictim).1]
    exact (hhonest victim hvictim).1

end Random

theorem Scenario.draws_drawAccusations {σ : Type} [WordSource σ] {n liars : Nat}
    (hliars : liars < n) (hn : n ≤ UInt32.size) :
    Random.Draws (drawAccusations n liars : StateM σ (List Accusation)) (AreDrawn n liars) := by
  unfold drawAccusations
  rw [Nat.min_eq_left hliars.le]
  refine (Random.draws_sample hliars.le).bind fun sampled hsampled => ?_
  dsimp only
  generalize hchosen : (List.range n).filter sampled.contains = chosen
  generalize hhonest : (List.range n).filter (fun id => !sampled.contains id) = honest
  have hsample : Random.IsSample n liars chosen := by
    rw [← hchosen]
    exact hsampled.perm hsampled.filter_perm
  have hspared : ∀ id, id ∈ honest ↔ id < n ∧ id ∉ chosen := by
    intro id
    simp only [← hhonest, ← hchosen, List.mem_filter, List.mem_range, Bool.not_eq_true',
      ← Bool.not_eq_true, List.contains_iff_mem]
    tauto
  obtain ⟨spared, hbelow, hfree⟩ := hsample.exists_not_mem hliars
  have hlisted := (hspared spared).mpr ⟨hbelow, hfree⟩
  rw [if_neg (by simpa using List.ne_nil_of_mem hlisted)]
  have haccuses : ∀ liar ∈ chosen, Random.Draws (do
      let index ← Random.below64 honest.length
      return ⟨UInt32.ofNat liar, UInt32.ofNat (honest[index]?.getD 0)⟩ : StateM σ Accusation)
      (Random.Accuses honest liar) := by
    intro liar _
    refine (Random.draws_below64 (List.length_pos_of_mem hlisted)).bind fun index hindex => ?_
    rw [List.getElem?_eq_getElem hindex]
    exact Random.draws_pure ⟨_, List.getElem_mem hindex, rfl⟩
  intro source
  exact Random.areDrawn_of_accuses hn hsample (fun id hid => (hspared id).mp hid)
    (Random.draws_mapM chosen haccuses source)

end SuspicionMonitor
