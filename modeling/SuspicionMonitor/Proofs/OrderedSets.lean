import Std.Data.ExtTreeMap
import Std.Data.ExtTreeSet
import Mathlib.Data.Set.Card
import Mathlib.Tactic

/-!
# Ordered sets and lists

Sizes of ordered sets and maps compared with lists of their members, the removal
of a list of members one after the other, and ascending lists as functions of
what they hold.
-/

namespace SuspicionMonitor
namespace OrderedSet

variable {α : Type} [Ord α] [Std.TransOrd α] [Std.LawfulEqOrd α]

/-- Two ascending lists with the same members are the same list. -/
theorem eq_of_mem_iff {first second : List α}
    (hfirst : first.Pairwise fun a b => compare a b = .lt)
    (hsecond : second.Pairwise fun a b => compare a b = .lt)
    (hmem : ∀ a, a ∈ first ↔ a ∈ second) : first = second := by
  have : Std.Irrefl fun a b : α => compare a b = .lt := ⟨fun a => by simp⟩
  have : Std.Antisymm fun a b : α => compare a b = .lt :=
    ⟨fun a b hab hba => by simp_all [Std.OrientedCmp.gt_of_lt hab]⟩
  exact hfirst.eq_of_mem_iff hsecond hmem

theorem nodup_toList (set : Std.ExtTreeSet α) : set.toList.Nodup := by
  refine set.distinct_toList.imp ?_
  intro first second hdistinct heq
  exact hdistinct (Std.LawfulEqOrd.compare_eq_iff_eq.mpr heq)

theorem ncard_setOf_mem (set : Std.ExtTreeSet α) (keep : α → Prop) [DecidablePred keep] :
    {a | a ∈ set ∧ keep a}.ncard = set.toList.countP (fun a => keep a) := by
  classical
  have heq : {a | a ∈ set ∧ keep a} = ((set.toList.filter (fun a => keep a)).toFinset : Set α) := by
    ext a
    simp
  rw [heq, Set.ncard_coe_finset, List.toFinset_card_of_nodup ((nodup_toList set).filter _),
    List.countP_eq_length_filter]

theorem length_le_size {set : Std.ExtTreeSet α} {members : List α} (hnodup : members.Nodup)
    (hmem : ∀ a ∈ members, a ∈ set) : members.length ≤ set.size := by
  rw [← set.length_toList]
  apply (List.subperm_of_subset hnodup _).length_le
  intro a ha
  exact Std.ExtTreeSet.mem_toList.mpr (hmem a ha)

theorem size_le_length {set : Std.ExtTreeSet α} {members : List α}
    (hmem : ∀ a ∈ set, a ∈ members) : set.size ≤ members.length := by
  rw [← set.length_toList]
  apply (List.subperm_of_subset (nodup_toList set) _).length_le
  intro a ha
  exact hmem a (Std.ExtTreeSet.mem_toList.mp ha)

theorem mem_filter {set : Std.ExtTreeSet α} {keep : α → Bool} {a : α} :
    a ∈ set.filter keep ↔ a ∈ set ∧ keep a = true := by
  simp only [Std.ExtTreeSet.mem_filter, Std.ExtTreeSet.get_eq, exists_prop]

theorem mem_insertMany {set : Std.ExtTreeSet α} [BEq α] [LawfulBEq α] {added : List α} {a : α} :
    a ∈ set.insertMany added ↔ a ∈ set ∨ a ∈ added := by
  have : Std.LawfulBEqOrd α := ⟨by simp⟩
  simp only [Std.ExtTreeSet.mem_insertMany_list, List.contains_iff_mem]

theorem mem_foldl_erase {set : Std.ExtTreeSet α} {removed : List α} {a : α} :
    a ∈ removed.foldl (fun set b => set.erase b) set ↔ a ∈ set ∧ a ∉ removed := by
  induction removed generalizing set with
  | nil => simp
  | cons b removed ih =>
      rw [List.foldl_cons, ih, Std.ExtTreeSet.mem_erase, Std.LawfulEqOrd.compare_eq_iff_eq.ne,
        List.mem_cons]
      constructor
      · rintro ⟨⟨hne, hmem⟩, hrest⟩
        exact ⟨hmem, not_or.mpr ⟨Ne.symm hne, hrest⟩⟩
      · rintro ⟨hmem, hall⟩
        obtain ⟨hne, hrest⟩ := not_or.mp hall
        exact ⟨⟨Ne.symm hne, hmem⟩, hrest⟩

theorem size_foldl_erase {set : Std.ExtTreeSet α} {removed : List α}
    (hnodup : removed.Nodup) (hmem : ∀ a ∈ removed, a ∈ set) :
    (removed.foldl (fun set b => set.erase b) set).size + removed.length = set.size := by
  induction removed generalizing set with
  | nil => rfl
  | cons b removed ih =>
      have hb : set.contains b = true :=
        Std.ExtTreeSet.mem_iff_contains.mp (hmem b List.mem_cons_self)
      have hrest : ∀ a ∈ removed, a ∈ set.erase b := by
        intro a ha
        apply Std.ExtTreeSet.mem_erase.mpr
        refine ⟨?_, hmem a (List.mem_cons_of_mem b ha)⟩
        intro hcompare
        have heq : b = a := Std.LawfulEqOrd.compare_eq_iff_eq.mp hcompare
        rw [← heq] at ha
        exact (List.nodup_cons.mp hnodup).1 ha
      have hsize := ih (List.nodup_cons.mp hnodup).2 hrest
      rw [Std.ExtTreeSet.size_erase, if_pos hb] at hsize
      have hpos : (b :: removed).length ≤ set.size := length_le_size hnodup hmem
      rw [List.length_cons] at hpos ⊢
      rw [List.foldl_cons]
      omega

theorem card_toFinset_keys {α β : Type} [Ord α] [Std.TransOrd α] [DecidableEq α]
    (map : Std.ExtTreeMap α β) :
    map.keys.toFinset.card = map.size := by
  rw [List.toFinset_card_of_nodup Std.ExtTreeMap.nodup_keys, Std.ExtTreeMap.length_keys]

/-- The first members of an ascending list are those that few others precede. -/
theorem mem_take_iff_countP_lt {α : Type} {before : α → α → Prop} [DecidableRel before]
    (hasymm : ∀ first second, before first second → ¬ before second first) {list : List α}
    (hsorted : list.Pairwise before) {a : α} (ha : a ∈ list) (count : Nat) :
    a ∈ list.take count ↔ list.countP (fun b => before b a) < count := by
  induction list generalizing count with
  | nil => contradiction
  | cons first rest ih =>
      have hrest := List.pairwise_cons.mp hsorted
      cases count with
      | zero => simp
      | succ count =>
          by_cases hfirst : a = first
          · subst hfirst
            have hself : ¬ before a a := fun hbefore => hasymm a a hbefore hbefore
            have hnone : rest.countP (fun b => before b a) = 0 :=
              List.countP_eq_zero.mpr fun b hb => by
                simpa using hasymm a b (hrest.1 b hb)
            simp [hself, hnone]
          · have hmem : a ∈ rest := (List.mem_cons.mp ha).resolve_left hfirst
            have hlead : before first a := hrest.1 a hmem
            simp [hfirst, hlead, ih hrest.2 hmem]

end OrderedSet
end SuspicionMonitor
