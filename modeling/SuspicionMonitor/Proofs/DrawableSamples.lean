import SuspicionMonitor.Proofs.RandomSamples

/-!
# What can be drawn

Some words make every number below a bound come out, and every sample of a
range too large for 32 bits.  None of these words is refused, so no draw is
repeated.
-/

namespace SuspicionMonitor

/-- A source of listed words, with zeros after the last one. -/
structure ListedWords where
  words : List UInt32

instance : WordSource ListedWords where
  next source :=
    match source.words with
    | [] => (0, source)
    | word :: words => (word, ⟨words⟩)

namespace Random

-- The powers of the core library, as where draws are defined.
attribute [local instance (2000)] instPowNat instNatPowNat

variable {α β : Type}

/-- Some words make the draw end with this value, and leave what comes after
them unread. -/
def CanYield (draw : StateM ListedWords α) (value : α) : Prop :=
  ∃ words, ∀ later, draw ⟨words ++ later⟩ = (value, ⟨later⟩)

theorem CanYield.exists_source {draw : StateM ListedWords α} {value : α}
    (hdraw : CanYield draw value) : ∃ source, (draw source).1 = value := by
  obtain ⟨words, hwords⟩ := hdraw
  exact ⟨⟨words ++ []⟩, by rw [hwords]⟩

theorem canYield_pure (value : α) : CanYield (pure value) value :=
  ⟨[], fun _ => rfl⟩

theorem CanYield.bind {draw : StateM ListedWords α} {next : α → StateM ListedWords β} {value : α}
    {result : β} (hdraw : CanYield draw value) (hnext : CanYield (next value) result) :
    CanYield (draw >>= next) result := by
  obtain ⟨first, hfirst⟩ := hdraw
  obtain ⟨second, hsecond⟩ := hnext
  refine ⟨first ++ second, fun later => ?_⟩
  have hbind : (draw >>= next) ⟨first ++ second ++ later⟩ =
      next (draw ⟨first ++ second ++ later⟩).1 (draw ⟨first ++ second ++ later⟩).2 := rfl
  rw [hbind, List.append_assoc, hfirst]
  exact hsecond later

theorem canYield_mapM {draw : α → StateM ListedWords β} {result : α → β} (items : List α)
    (hdraw : ∀ item ∈ items, CanYield (draw item) (result item)) :
    CanYield (items.mapM draw) (items.map result) := by
  induction items with
  | nil => exact canYield_pure []
  | cons item items ih =>
      obtain ⟨hfirst, hrest⟩ := List.forall_mem_cons.mp hdraw
      rw [List.mapM_cons]
      exact hfirst.bind ((ih hrest).bind (canYield_pure _))

theorem canYield_word64 {number : Nat} (hnumber : number < 2 ^ 64) :
    CanYield word64 number := by
  refine ⟨[UInt32.ofNat number, UInt32.ofNat (number / 2 ^ 32)], fun later => ?_⟩
  have hlow : (UInt32.ofNat number).toNat = number % 2 ^ 32 := UInt32.toNat_ofNat'
  have hhigh : (UInt32.ofNat (number / 2 ^ 32)).toNat = number / 2 ^ 32 :=
    UInt32.toNat_ofNat_of_lt' (by rw [UInt32.size]; omega)
  have hword : word64 ⟨[UInt32.ofNat number, UInt32.ofNat (number / 2 ^ 32)] ++ later⟩ =
      ((UInt32.ofNat number).toNat + (UInt32.ofNat (number / 2 ^ 32)).toNat * 2 ^ 32,
        ListedWords.mk later) := rfl
  rw [hword, hlow, hhigh, Nat.mod_add_div']

theorem canYield_drawUntil {draw : StateM ListedWords Nat} {accept? : Nat → Option Nat}
    {word number attempts : Nat} (hdraw : CanYield draw word)
    (haccept : accept? word = some number) (hattempts : 0 < attempts) (otherwise : Nat) :
    CanYield (drawUntil draw accept? otherwise attempts) number := by
  obtain ⟨attempts, rfl⟩ := Nat.exists_eq_add_of_lt hattempts
  rw [Nat.zero_add, drawUntil]
  refine hdraw.bind ?_
  rw [haccept]
  exact canYield_pure number

/-- The least word that scales down to the number exceeds a multiple of
`2 ^ 64` by less than the bound. -/
theorem exists_scaled {bound accepted number : Nat} (hbound : bound ≤ 2 ^ 64)
    (haccepted : bound ≤ accepted) (hnumber : number < bound) :
    ∃ word < 2 ^ 64, (if word * bound % 2 ^ 64 < accepted then some (word * bound / 2 ^ 64)
      else none) = some number := by
  have hpos : 0 < bound := Nat.zero_lt_of_lt hnumber
  let word := (number * 2 ^ 64 + (bound - 1)) / bound
  have hle : word * bound ≤ number * 2 ^ 64 + (bound - 1) := Nat.div_mul_le_self _ _
  have hlt : number * 2 ^ 64 + (bound - 1) < word * bound + bound := Nat.lt_div_mul_add hpos
  have hquotient : word * bound / 2 ^ 64 = number := by omega
  refine ⟨word, ?_, ?_⟩
  · by_contra hlarge
    have hproduct : 2 ^ 64 * bound ≤ word * bound :=
      Nat.mul_le_mul_right bound (Nat.not_lt.mp hlarge)
    omega
  · rw [if_pos (by omega), hquotient]

theorem exists_scale? {bound number : Nat} (hbound : bound ≤ 2 ^ 64) (hnumber : number < bound) :
    ∃ word < 2 ^ 64, scale? 64 bound word = some number :=
  exists_scaled hbound (Nat.le_mul_of_pos_right bound (Nat.two_pow_pos _)) hnumber

theorem exists_scaleClosely? {bound number : Nat} (hbound : bound ≤ 2 ^ 64)
    (hnumber : number < bound) : ∃ word < 2 ^ 64, scaleClosely? 64 bound word = some number := by
  refine exists_scaled hbound ?_ hnumber
  have hpos : 0 < bound := Nat.zero_lt_of_lt hnumber
  have hquotient : 1 ≤ 2 ^ 64 / bound := (Nat.one_le_div_iff hpos).mpr hbound
  have hmultiple : bound * 1 ≤ bound * (2 ^ 64 / bound) := Nat.mul_le_mul_left bound hquotient
  have hsplit := Nat.div_add_mod (2 ^ 64) bound
  omega

theorem canYield_below64 {bound number : Nat} (hbound : bound ≤ UInt64.size)
    (hnumber : number < bound) : CanYield (below64 bound) number := by
  obtain ⟨word, hword, hscaled⟩ := exists_scale? hbound hnumber
  exact canYield_drawUntil (canYield_word64 hword) hscaled (by decide) 0

theorem canYield_sampleByRejection {length : Nat} (hlength : length ≤ UInt64.size)
    {numbers chosen : List Nat} (hnodup : (chosen ++ numbers).Nodup)
    (hbelow : ∀ number ∈ numbers, number < length) :
    CanYield (sampleByRejection 64 word64 length numbers.length chosen) (chosen ++ numbers) := by
  induction numbers generalizing chosen with
  | nil =>
      rw [List.append_nil]
      exact canYield_pure chosen
  | cons number numbers ih =>
      obtain ⟨hnumber, hrest⟩ := List.forall_mem_cons.mp hbelow
      rw [List.append_cons] at hnodup ⊢
      have hfresh : number ∉ chosen := by
        have hfirst : (chosen ++ [number]).Nodup := (List.nodup_append.mp hnodup).1
        exact fun hmem => List.disjoint_of_nodup_append hfirst hmem (List.mem_singleton_self number)
      obtain ⟨word, hword, hscaled⟩ := exists_scaleClosely? hlength hnumber
      have haccepted : ((scaleClosely? 64 length word).filter fun number =>
          !chosen.contains number) = some number := by
        simp [hscaled, hfresh]
      exact (canYield_drawUntil (canYield_word64 hword) haccepted (by decide) _).bind
        (ih hnodup hrest)

theorem canYield_sample {length amount : Nat} {numbers : List Nat}
    (hlarge : UInt32.size ≤ length) (hlength : length ≤ UInt64.size)
    (hsample : IsSample length amount numbers) : CanYield (sample length amount) numbers := by
  unfold sample
  rw [if_pos hlarge, ← hsample.size]
  exact canYield_sampleByRejection hlength hsample.nodup hsample.below

end Random

end SuspicionMonitor
