import SuspicionMonitor.Proofs.LedgerRuns

/-!
# Leading phases

What is due is found in one pass over the held suspicions in ascending order.
Here it is described without that order: a suspicion is due if it has not been
fed and no held suspicion is ahead of it, that is, in an earlier phase of the
same round.
-/

namespace SuspicionMonitor

theorem Phase.rank_injective : Function.Injective Phase.rank := by
  intro first second
  cases first <;> cases second <;> decide

namespace Suspicion

/-- Whether the suspicion belongs to an earlier phase of the round of the
other one. -/
def isAheadOf (suspicion other : Suspicion) : Bool :=
  suspicion.round == other.round && suspicion.phase.rank < other.phase.rank

theorem isAheadOf_iff {suspicion other : Suspicion} :
    suspicion.isAheadOf other = true ↔
      suspicion.round = other.round ∧ suspicion.phase.rank < other.phase.rank := by
  simp [isAheadOf]

theorem isAheadOf_self (suspicion : Suspicion) : suspicion.isAheadOf suspicion = false := by
  simp [isAheadOf]

theorem round_lt_or_rank_le {first second : Suspicion} (hlt : compare first second = .lt) :
    first.round < second.round ∨
      first.round = second.round ∧ first.phase.rank ≤ second.phase.rank := by
  change compareLex _ _ first second = .lt at hlt
  rw [compareLex, compareOn, Ordering.then_eq_lt] at hlt
  rcases hlt with hround | ⟨hround, hlater⟩
  · exact Or.inl (Std.compare_eq_lt.mp hround)
  · refine Or.inr ⟨Std.LawfulEqOrd.compare_eq_iff_eq.mp hround, ?_⟩
    rw [compareLex, compareOn, Ordering.then_eq_lt] at hlater
    rcases hlater with hphase | ⟨hphase, -⟩
    · exact (Nat.compare_eq_lt.mp hphase).le
    · exact (congrArg Phase.rank (Std.LawfulEqOrd.compare_eq_iff_eq.mp hphase)).le

theorem round_le_of_lt {first second : Suspicion} (hlt : compare first second = .lt) :
    first.round ≤ second.round := by
  rcases round_lt_or_rank_le hlt with hround | ⟨hround, -⟩
  · exact Int32.le_of_lt hround
  · rw [hround]
    exact Int32.le_refl _

theorem rank_le_of_lt {first second : Suspicion} (hlt : compare first second = .lt)
    (hround : second.round = first.round) : first.phase.rank ≤ second.phase.rank := by
  rcases round_lt_or_rank_le hlt with hless | ⟨-, hrank⟩
  · rw [hround] at hless
    exact absurd hless Int32.lt_irrefl
  · exact hrank

theorem not_isAheadOf_of_lt {first second : Suspicion} (hlt : compare first second = .lt) :
    second.isAheadOf first = false := by
  rw [Bool.eq_false_iff, Ne, isAheadOf_iff]
  rintro ⟨hround, hrank⟩
  exact absurd hrank (rank_le_of_lt hlt hround).not_gt

theorem isAheadOf_iff_phase_ne {first second : Suspicion} (hlt : compare first second = .lt)
    (hround : second.round = first.round) :
    first.isAheadOf second = true ↔ second.phase ≠ first.phase := by
  have hrank := rank_le_of_lt hlt hround
  rw [isAheadOf_iff, ← Phase.rank_injective.ne_iff]
  constructor
  · exact fun hahead => hahead.2.ne'
  · exact fun hne => ⟨hround.symm, lt_of_le_of_ne hrank hne.symm⟩

theorem isAheadOf_of_lt {first second other : Suspicion} (hlt : compare first second = .lt)
    (hround : second.round = first.round) (hahead : second.isAheadOf other = true) :
    first.isAheadOf other = true := by
  have hrank := rank_le_of_lt hlt hround
  rw [isAheadOf_iff] at *
  rw [hround] at hahead
  exact ⟨hahead.1, hrank.trans_lt hahead.2⟩

theorem not_isAheadOf_of_round_ne {first second other : Suspicion}
    (hlt : compare first second = .lt) (hround : second.round ≠ first.round)
    (hlater : second.round ≤ other.round) : first.isAheadOf other = false := by
  rw [Bool.eq_false_iff, Ne, isAheadOf_iff]
  rintro ⟨hsame, -⟩
  rw [← hsame] at hlater
  exact hround (Int32.le_antisymm hlater (round_le_of_lt hlt))

end Suspicion

/-! ## The pass over the held suspicions -/

namespace Ledger

/-- Whether none of the suspicions is ahead of the given one. -/
def leads (suspicions : List Suspicion) (suspicion : Suspicion) : Bool :=
  suspicions.all fun other => !other.isAheadOf suspicion

theorem leads_iff {suspicions : List Suspicion} {suspicion : Suspicion} :
    leads suspicions suspicion = true ↔
      ∀ other ∈ suspicions, other.isAheadOf suspicion = false := by
  simp [leads]

theorem leads_of_subset {fewer suspicions : List Suspicion} (hsubset : fewer ⊆ suspicions)
    {suspicion : Suspicion} (hleads : leads suspicions suspicion = true) :
    leads fewer suspicion = true := by
  rw [leads_iff] at *
  exact fun other hother => hleads other (hsubset hother)

@[simp] theorem leads_cons (first : Suspicion) (rest : List Suspicion) (suspicion : Suspicion) :
    leads (first :: rest) suspicion = (!first.isAheadOf suspicion && leads rest suspicion) := rfl

theorem leads_of_round_subset {first second : List Suspicion} {suspicion : Suspicion}
    (hround : ∀ other ∈ second, other.round = suspicion.round → other ∈ first)
    (hleads : leads first suspicion = true) : leads second suspicion = true := by
  rw [leads_iff] at *
  intro other hother
  rw [Bool.eq_false_iff]
  intro hahead
  rw [hleads other (hround other hother (Suspicion.isAheadOf_iff.mp hahead).1)] at hahead
  contradiction

/-- What leads its round depends on the suspicions of the round alone. -/
theorem leads_congr {first second : List Suspicion} {suspicion : Suspicion}
    (hround : ∀ other, other.round = suspicion.round → (other ∈ first ↔ other ∈ second)) :
    leads first suspicion = leads second suspicion := by
  rw [Bool.eq_iff_iff]
  exact ⟨leads_of_round_subset fun other hother hsame => (hround other hsame).mpr hother,
    leads_of_round_subset fun other hother hsame => (hround other hsame).mp hother⟩

theorem leads_head {first : Suspicion} {rest : List Suspicion}
    (hsorted : (first :: rest).Pairwise fun a b => compare a b = .lt) :
    leads (first :: rest) first = true := by
  rw [leads_iff]
  intro other hother
  rcases List.mem_cons.mp hother with rfl | hrest
  · exact other.isAheadOf_self
  · exact Suspicion.not_isAheadOf_of_lt (List.rel_of_pairwise_cons hsorted hrest)

/-- The lead is the phase of the first suspicion of a round.  Of what comes
after it the pass keeps what is in the same phase and what opens a round. -/
theorem leadingAfter_eq_filter {lead : Suspicion} {suspicions : List Suspicion}
    (hsorted : (lead :: suspicions).Pairwise fun a b => compare a b = .lt) :
    leadingAfter (some (lead.round, lead.phase)) suspicions =
      suspicions.filter (leads (lead :: suspicions)) := by
  induction suspicions generalizing lead with
  | nil => rfl
  | cons suspicion rest ih =>
      obtain ⟨hlead, hrest⟩ := List.pairwise_cons.mp hsorted
      have hlt : compare lead suspicion = .lt := hlead suspicion List.mem_cons_self
      have hown : leads (lead :: suspicion :: rest) suspicion = !lead.isAheadOf suspicion := by
        rw [leads_cons, leads_head hrest, Bool.and_true]
      unfold leadingAfter
      by_cases hround : suspicion.round = lead.round
      · -- What is behind this suspicion is behind the lead as well.
        have hskip : (lead :: rest).Pairwise fun a b => compare a b = .lt :=
          hsorted.sublist ((List.sublist_cons_self suspicion rest).cons_cons lead)
        have hkept : rest.filter (leads (lead :: rest)) =
            rest.filter (leads (lead :: suspicion :: rest)) := by
          apply List.filter_congr
          intro later _
          have hbehind : suspicion.isAheadOf later = true → lead.isAheadOf later = true :=
            Suspicion.isAheadOf_of_lt hlt hround
          simp only [leads_cons]
          cases hahead : suspicion.isAheadOf later with
          | false => rfl
          | true =>
              rw [hbehind hahead]
              rfl
        rw [if_pos hround, ih hskip, hkept, List.filter_cons, hown]
        have hphase := Suspicion.isAheadOf_iff_phase_ne hlt hround
        by_cases hsame : suspicion.phase = lead.phase
        · rw [if_pos hsame, Bool.eq_false_iff.mpr fun hahead => hphase.mp hahead hsame]
          rfl
        · rw [if_neg hsame, hphase.mpr hsame]
          rfl
      · -- A round is opened, and the lead is ahead of nothing from here on.
        have hapart : ∀ later ∈ rest, leads (lead :: suspicion :: rest) later =
            leads (suspicion :: rest) later := by
          intro later hlater
          have hafter := Suspicion.round_le_of_lt (List.rel_of_pairwise_cons hrest hlater)
          rw [leads_cons lead, Suspicion.not_isAheadOf_of_round_ne hlt hround hafter]
          rfl
        have hopens := Suspicion.not_isAheadOf_of_round_ne hlt hround (Int32.le_refl _)
        rw [if_neg hround, ih hrest, List.filter_cons, hown, hopens, List.filter_congr hapart]
        rfl

theorem leading_eq_filter (ledger : Ledger) :
    ledger.leading = ledger.suspicions.filter (leads ledger.suspicions) := by
  have hsorted : ledger.suspicions.Pairwise fun a b => compare a b = .lt :=
    ledger.held.ordered_toList
  unfold leading
  cases hheld : ledger.suspicions with
  | nil => rfl
  | cons first rest =>
      rw [hheld] at hsorted
      rw [List.filter_cons_of_pos (leads_head hsorted), ← leadingAfter_eq_filter hsorted]
      rfl

theorem mem_suspicions {ledger : Ledger} {suspicion : Suspicion} :
    suspicion ∈ ledger.suspicions ↔ suspicion ∈ ledger.held :=
  Std.ExtTreeSet.mem_toList

theorem due_eq_filter (ledger : Ledger) :
    ledger.due = ledger.suspicions.filter fun suspicion =>
      leads ledger.suspicions suspicion && !ledger.fed.contains suspicion := by
  rw [due, leading_eq_filter, List.filter_filter]
  apply List.filter_congr
  intro suspicion _
  exact Bool.and_comm _ _

theorem mem_due_iff {ledger : Ledger} {suspicion : Suspicion} :
    suspicion ∈ ledger.due ↔ suspicion ∈ ledger.suspicions ∧
      leads ledger.suspicions suspicion = true ∧ suspicion ∉ ledger.fed := by
  rw [due_eq_filter, List.mem_filter, Bool.and_eq_true, Bool.not_eq_true', ← Bool.not_eq_true,
    Std.ExtTreeSet.mem_iff_contains]

end Ledger

end SuspicionMonitor
