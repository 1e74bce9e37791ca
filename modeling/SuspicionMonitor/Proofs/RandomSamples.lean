import SuspicionMonitor.Random.Sample
import Mathlib.Tactic

/-!
# What a draw can be

Whatever words a source yields, a number drawn below a bound is below it, and a
sample consists of as many different numbers as it was asked for.  Nothing is
said of how likely a draw is.
-/

namespace SuspicionMonitor

namespace Random

-- The powers of the core library, as where draws are defined.
attribute [local instance (2000)] instPowNat instNatPowNat

variable {σ α β : Type}

/-- Whatever the source yields, what is drawn has the property. -/
def Draws (draw : StateM σ α) (property : α → Prop) : Prop :=
  ∀ source, property (draw source).1

theorem draws_pure {property : α → Prop} {value : α} (hvalue : property value) :
    Draws (pure value : StateM σ α) property :=
  fun _ => hvalue

theorem Draws.bind {draw : StateM σ α} {next : α → StateM σ β} {middle : α → Prop}
    {property : β → Prop} (hdraw : Draws draw middle)
    (hnext : ∀ value, middle value → Draws (next value) property) :
    Draws (draw >>= next) property :=
  fun source => hnext _ (hdraw source) _

/-- What every step keeps is kept throughout. -/
theorem draws_foldlM {step : β → α → StateM σ β} {property : β → Prop} (items : List α)
    (hstep : ∀ state, ∀ item, property state → Draws (step state item) property) {state : β}
    (hstate : property state) : Draws (items.foldlM step state) property := by
  induction items generalizing state with
  | nil => exact draws_pure hstate
  | cons item items ih =>
      rw [List.foldlM_cons]
      exact (hstep state item hstate).bind fun next hnext => ih hnext

theorem draws_mapM {draw : α → StateM σ β} {relation : α → β → Prop} (items : List α)
    (hdraw : ∀ item ∈ items, Draws (draw item) (relation item)) :
    Draws (items.mapM draw) (List.Forall₂ relation items) := by
  induction items with
  | nil => exact draws_pure List.Forall₂.nil
  | cons item items ih =>
      obtain ⟨hfirst, hrest⟩ := List.forall_mem_cons.mp hdraw
      rw [List.mapM_cons]
      exact hfirst.bind fun result hresult => (ih hrest).bind fun results hresults =>
        draws_pure (hresults.cons hresult)

/-- Every result is that of one of the items. -/
theorem exists_of_mem_results {relation : α → β → Prop} {items : List α} {results : List β}
    (hresults : List.Forall₂ relation items results) {result : β} (hmem : result ∈ results) :
    ∃ item ∈ items, relation item result := by
  induction hresults with
  | nil => contradiction
  | cons hfirst _ ih =>
      rcases List.mem_cons.mp hmem with rfl | hrest
      · exact ⟨_, List.mem_cons_self, hfirst⟩
      · obtain ⟨item, hitem, hrelated⟩ := ih hrest
        exact ⟨item, List.mem_cons_of_mem _ hitem, hrelated⟩

theorem lt_of_scaled {width bound word accepted number : Nat} (hword : word < 2 ^ width)
    (hbound : 0 < bound)
    (hnumber : (if word * bound % 2 ^ width < accepted then some (word * bound / 2 ^ width)
      else none) = some number) : number < bound := by
  split at hnumber
  · obtain rfl := Option.some.inj hnumber
    exact Nat.div_lt_of_lt_mul ((Nat.mul_lt_mul_right hbound).mpr hword)
  · contradiction

theorem scale?_lt {width bound word number : Nat} (hword : word < 2 ^ width) (hbound : 0 < bound)
    (hnumber : scale? width bound word = some number) : number < bound :=
  lt_of_scaled hword hbound hnumber

theorem scaleClosely?_lt {width bound word number : Nat} (hword : word < 2 ^ width)
    (hbound : 0 < bound) (hnumber : scaleClosely? width bound word = some number) :
    number < bound :=
  lt_of_scaled hword hbound hnumber

theorem draws_drawUntil {draw : StateM σ Nat} {accept? : Nat → Option Nat} {otherwise : Nat}
    {given property : Nat → Prop} (hdraw : Draws draw given)
    (haccept : ∀ word number, given word → accept? word = some number → property number)
    (hotherwise : property otherwise) (attempts : Nat) :
    Draws (drawUntil draw accept? otherwise attempts) property := by
  induction attempts with
  | zero => exact draws_pure hotherwise
  | succ attempts ih =>
      refine hdraw.bind fun word hword => ?_
      cases hnumber : accept? word with
      | none => exact ih
      | some number => exact draws_pure (haccept word number hword hnumber)

variable [WordSource σ]

theorem draws_word32 : Draws (word32 : StateM σ Nat) (· < 2 ^ 32) :=
  fun source => (WordSource.next source).1.toNat_lt

theorem draws_word64 : Draws (word64 : StateM σ Nat) (· < 2 ^ 64) := by
  refine draws_word32.bind fun low hlow => draws_word32.bind fun high hhigh => ?_
  apply draws_pure
  omega

theorem draws_below32 {bound : Nat} (hbound : 0 < bound) :
    Draws (below32 bound : StateM σ Nat) (· < bound) :=
  draws_drawUntil draws_word32 (fun _ _ hword => scale?_lt hword hbound) hbound attempts

theorem draws_below64 {bound : Nat} (hbound : 0 < bound) :
    Draws (below64 bound : StateM σ Nat) (· < bound) :=
  draws_drawUntil draws_word64 (fun _ _ hword => scale?_lt hword hbound) hbound attempts

/-! ## Samples -/

/-- `amount` different numbers below `length`. -/
structure IsSample (length amount : Nat) (numbers : List Nat) : Prop where
  nodup : numbers.Nodup
  below : ∀ number ∈ numbers, number < length
  size : numbers.length = amount

theorem IsSample.perm {length amount : Nat} {numbers others : List Nat}
    (hsample : IsSample length amount numbers) (hperm : others.Perm numbers) :
    IsSample length amount others where
  nodup := hperm.nodup_iff.mpr hsample.nodup
  below := fun number hnumber => hsample.below number (hperm.mem_iff.mp hnumber)
  size := hperm.length_eq.trans hsample.size

theorem isSample_nil (length : Nat) : IsSample length 0 [] :=
  ⟨List.nodup_nil, fun _ hmem => absurd hmem List.not_mem_nil, rfl⟩

theorem isSample_range (length : Nat) : IsSample length length (List.range length) where
  nodup := List.nodup_range
  below := fun _ => List.mem_range.mp
  size := List.length_range

theorem IsSample.take {length size amount : Nat} {numbers : List Nat}
    (hsample : IsSample length size numbers) (hamount : amount ≤ size) :
    IsSample length amount (numbers.take amount) where
  nodup := hsample.nodup.sublist (List.take_sublist amount numbers)
  below := fun number hnumber => hsample.below number (List.mem_of_mem_take hnumber)
  size := by rw [List.length_take, hsample.size, Nat.min_eq_left hamount]

theorem IsSample.cons {length amount new : Nat} {numbers : List Nat}
    (hsample : IsSample length amount numbers) (hnew : new < length) (hfresh : new ∉ numbers) :
    IsSample length (amount + 1) (new :: numbers) where
  nodup := List.nodup_cons.mpr ⟨hfresh, hsample.nodup⟩
  below := List.forall_mem_cons.mpr ⟨hnew, hsample.below⟩
  size := by rw [List.length_cons, hsample.size]

theorem IsSample.widen {length amount : Nat} {numbers : List Nat}
    (hsample : IsSample length amount numbers) : IsSample (length + 1) amount numbers :=
  { hsample with below := fun number hnumber => Nat.lt_succ_of_lt (hsample.below number hnumber) }

theorem swapIfInBounds_perm (numbers : Array Nat) (first second : Nat) :
    (numbers.swapIfInBounds first second).toList.Perm numbers.toList := by
  unfold Array.swapIfInBounds
  split
  · split
    · exact (Array.swap_perm _ _).toList
    · exact List.Perm.refl _
  · exact List.Perm.refl _

theorem IsSample.swapIfInBounds {length amount : Nat} {numbers : Array Nat}
    (hsample : IsSample length amount numbers.toList) (first second : Nat) :
    IsSample length amount (numbers.swapIfInBounds first second).toList :=
  hsample.perm (swapIfInBounds_perm numbers first second)

theorem draws_sampleByShuffling {length amount : Nat} (hamount : amount ≤ length) :
    Draws (sampleByShuffling length amount : StateM σ (List Nat)) (IsSample length amount) := by
  have hswaps : Draws ((List.range amount).foldlM
      (fun (indices : Array Nat) i => do
        let offset ← below32 (length - i)
        return indices.swapIfInBounds i (i + offset))
      (Array.range length) : StateM σ (Array Nat))
      (fun indices => IsSample length length indices.toList) := by
    refine draws_foldlM _ ?_ (by simpa using isSample_range length)
    intro indices i hindices source
    exact hindices.swapIfInBounds _ _
  exact hswaps.bind fun indices hindices => draws_pure (hindices.take hamount)

theorem draws_shuffleDown {length amount : Nat} (top : Nat) {numbers : Array Nat}
    (hnumbers : IsSample length amount numbers.toList) :
    Draws (shuffleDown top numbers : StateM σ (Array Nat))
      (fun shuffled => IsSample length amount shuffled.toList) := by
  induction top generalizing numbers with
  | zero => exact draws_pure hnumbers
  | succ top ih =>
      intro source
      exact ih (hnumbers.swapIfInBounds _ _) _

theorem insertBefore_perm (new old : Nat) (numbers : List Nat) :
    (insertBefore new old numbers).Perm (new :: numbers) := by
  induction numbers with
  | nil => exact List.Perm.refl _
  | cons first rest ih =>
      unfold insertBefore
      split
      · exact List.Perm.refl _
      · exact (ih.cons first).trans (List.Perm.swap new first rest)

/-- A number up to `last` that has not been chosen is added, for all chosen
numbers are below `last`. -/
theorem draws_floydStep (amount : Nat) {last size : Nat} {chosen : List Nat}
    (hchosen : IsSample last size chosen) :
    Draws (floydStep amount chosen last : StateM σ (List Nat))
      (IsSample (last + 1) (size + 1)) := by
  have hlast : last ∉ chosen := fun hmem => Nat.lt_irrefl last (hchosen.below last hmem)
  have hadded : IsSample (last + 1) (size + 1) (last :: chosen) :=
    hchosen.widen.cons (Nat.lt_succ_self last) hlast
  refine (draws_below32 (Nat.succ_pos last)).bind fun drawn hdrawn => ?_
  split
  · split
    · exact draws_pure (hadded.perm (insertBefore_perm last drawn chosen))
    · exact draws_pure (hadded.perm (List.perm_append_singleton last chosen))
  next hnew =>
    have hfresh : drawn ∉ chosen := fun hmem => hnew (List.contains_iff_mem.mpr hmem)
    exact draws_pure ((hchosen.widen.cons hdrawn hfresh).perm
      (List.perm_append_singleton drawn chosen))

theorem draws_floydSteps (amount count : Nat) {start size : Nat} {chosen : List Nat}
    (hchosen : IsSample start size chosen) :
    Draws ((List.range' start count).foldlM (floydStep amount) chosen : StateM σ (List Nat))
      (IsSample (start + count) (size + count)) := by
  induction count generalizing start size chosen with
  | zero => exact draws_pure hchosen
  | succ count ih =>
      rw [List.range'_succ, List.foldlM_cons]
      refine (draws_floydStep amount hchosen).bind fun next hnext => ?_
      have hrest := ih hnext
      rwa [Nat.add_right_comm start, Nat.add_right_comm size] at hrest

theorem draws_sampleByFloyd {length amount : Nat} (hamount : amount ≤ length) :
    Draws (sampleByFloyd length amount : StateM σ (List Nat)) (IsSample length amount) := by
  have hsteps := draws_floydSteps (σ := σ) amount amount (isSample_nil (length - amount))
  rw [Nat.sub_add_cancel hamount, Nat.zero_add] at hsteps
  refine hsteps.bind fun chosen hchosen => ?_
  split
  · exact draws_pure hchosen
  · have hplaces : IsSample length amount chosen.toArray.toList := hchosen
    exact (draws_shuffleDown (amount - 1) hplaces).bind fun shuffled hshuffled =>
      draws_pure hshuffled

theorem exists_lt_not_mem (numbers : List Nat) {bound : Nat} (hbound : numbers.length < bound) :
    ∃ number < bound, number ∉ numbers := by
  by_contra hall
  push Not at hall
  have hsubset : List.range bound ⊆ numbers :=
    fun number hnumber => hall number (List.mem_range.mp hnumber)
  have hlength := (List.nodup_range.subperm hsubset).length_le
  rw [List.length_range] at hlength
  omega

theorem leastFree_spec (chosen : List Nat) :
    leastFree chosen ∉ chosen ∧ leastFree chosen ≤ chosen.length := by
  unfold leastFree
  cases hfound : (List.range (chosen.length + 1)).find? fun number => !chosen.contains number with
  | none =>
      obtain ⟨number, hnumber, hfree⟩ := exists_lt_not_mem chosen (Nat.lt_succ_self _)
      have hall := List.find?_eq_none.mp hfound number (List.mem_range.mpr hnumber)
      simp [hfree] at hall
  | some number =>
      have hfree := List.find?_some hfound
      have hrange := List.mem_range.mp (List.mem_of_find?_eq_some hfound)
      exact ⟨by simpa using hfree, Nat.lt_succ_iff.mp hrange⟩

omit [WordSource σ] in
theorem draws_sampleByRejection {width length size : Nat} {draw : StateM σ Nat}
    {chosen : List Nat} (hdraw : Draws draw (· < 2 ^ width)) (hchosen : IsSample length size chosen)
    (amount : Nat) (hamount : size + amount ≤ length) :
    Draws (sampleByRejection width draw length amount chosen)
      (IsSample length (size + amount)) := by
  induction amount generalizing size chosen with
  | zero => exact draws_pure hchosen
  | succ amount ih =>
      have hnumber : Draws
          (drawUntil draw (fun word => (scaleClosely? width length word).filter
            fun number => !chosen.contains number) (leastFree chosen) attempts)
          (fun number => number < length ∧ number ∉ chosen) := by
        refine draws_drawUntil hdraw ?_ ?_ attempts
        · intro word number hword haccepted
          obtain ⟨hscaled, hfresh⟩ := Option.filter_eq_some_iff.mp haccepted
          exact ⟨scaleClosely?_lt hword (by omega) hscaled, by simpa using hfresh⟩
        · obtain ⟨hfree, hle⟩ := leastFree_spec chosen
          rw [hchosen.size] at hle
          exact ⟨by omega, hfree⟩
      refine hnumber.bind fun number hnumber => ?_
      have hadded : IsSample length (size + 1) (chosen ++ [number]) :=
        (hchosen.cons hnumber.1 hnumber.2).perm (List.perm_append_singleton number chosen)
      rw [Nat.add_comm amount, ← Nat.add_assoc]
      exact ih hadded (by omega)

theorem draws_sample {length amount : Nat} (hamount : amount ≤ length) :
    Draws (sample length amount : StateM σ (List Nat)) (IsSample length amount) := by
  have hrejection : ∀ {width : Nat} {draw : StateM σ Nat}, Draws draw (· < 2 ^ width) →
      Draws (sampleByRejection width draw length amount []) (IsSample length amount) := by
    intro width draw hdraw
    have hsample := draws_sampleByRejection hdraw (isSample_nil length) amount (by omega)
    rwa [Nat.zero_add] at hsample
  unfold sample
  split
  · exact hrejection draws_word64
  split
  · exact draws_sampleByShuffling hamount
  split
  · exact draws_sampleByFloyd hamount
  · exact hrejection draws_word32

end Random

end SuspicionMonitor
