import SuspicionMonitor.Text.Scanner
import Mathlib.Tactic

/-!
# Pairs of scanners

Two scanners agree if they have taken the same characters and found related
values whenever both accept a text.  One of them may refuse what the other
accepts.
-/

namespace SuspicionMonitor

variable {α β γ δ : Type}

/-- If there are two values, they are related. -/
def AlikeIfGiven (related : α → β → Prop) (first : Option α) (second : Option β) : Prop :=
  ∀ value₁ value₂, first = some value₁ → second = some value₂ → related value₁ value₂

theorem alikeIfGiven_some {related : α → β → Prop} {value₁ : α} {value₂ : β}
    (hrelated : related value₁ value₂) : AlikeIfGiven related (some value₁) (some value₂) := by
  rintro _ _ ⟨rfl⟩ ⟨rfl⟩
  exact hrelated

theorem none_alikeIfGiven {related : α → β → Prop} (second : Option β) :
    AlikeIfGiven related none second := by
  intro value₁ value₂ hfirst
  contradiction

theorem alikeIfGiven_none {related : α → β → Prop} (first : Option α) :
    AlikeIfGiven related first none := by
  intro value₁ value₂ hfirst hsecond
  contradiction

theorem AlikeIfGiven.cases {related : α → β → Prop} {first : Option α} {second : Option β}
    (halike : AlikeIfGiven related first second) :
    first = none ∨ second = none ∨
      ∃ value₁ value₂, first = some value₁ ∧ second = some value₂ ∧ related value₁ value₂ := by
  cases first with
  | none => exact .inl rfl
  | some value₁ =>
      cases second with
      | none => exact .inr (.inl rfl)
      | some value₂ => exact .inr (.inr ⟨value₁, value₂, rfl, rfl, halike _ _ rfl rfl⟩)

/-- Either side may be refused. -/
theorem AlikeIfGiven.unless {related : α → β → Prop} {first : Option α} {second : Option β}
    (halike : AlikeIfGiven related first second) (refused₁ refused₂ : Bool) :
    AlikeIfGiven related (if refused₁ then none else first)
      (if refused₂ then none else second) := by
  cases refused₁ with
  | true => exact none_alikeIfGiven _
  | false =>
      cases refused₂ with
      | true => exact alikeIfGiven_none _
      | false => exact halike

theorem AlikeIfGiven.bind {related : α → β → Prop} {outcome : γ → δ → Prop} {first : Option α}
    {second : Option β} {next₁ : α → Option γ} {next₂ : β → Option δ}
    (halike : AlikeIfGiven related first second)
    (hnext : ∀ value₁ value₂, related value₁ value₂ →
      AlikeIfGiven outcome (next₁ value₁) (next₂ value₂)) :
    AlikeIfGiven outcome (first >>= next₁) (second >>= next₂) := by
  intro result₁ result₂ hfirst hsecond
  obtain ⟨value₁, hvalue₁, hnext₁⟩ := Option.bind_eq_some_iff.mp hfirst
  obtain ⟨value₂, hvalue₂, hnext₂⟩ := Option.bind_eq_some_iff.mp hsecond
  exact hnext value₁ value₂ (halike value₁ value₂ hvalue₁ hvalue₂) result₁ result₂ hnext₁ hnext₂

namespace Scanner

theorem bind_eq_some_iff {scanner : Scanner α} {next : α → Scanner β} {text : List Char}
    {result : β × List Char} :
    (scanner >>= next) text = some result ↔
      ∃ value rest, scanner text = some (value, rest) ∧ next value rest = some result := by
  change (scanner text).bind (fun pair => next pair.1 pair.2) = some result ↔ _
  rw [Option.bind_eq_some_iff]
  exact Prod.exists

theorem readAll?_eq_some_iff {scanner : Scanner α} {text : List Char} {value : α} :
    readAll? scanner text = some value ↔ scanner text = some (value, []) := by
  unfold readAll?
  split
  next taken htaken =>
    rw [htaken]
    simp
  next hnone =>
    constructor
    · intro hvalue
      contradiction
    · intro htaken
      exact absurd htaken (hnone value)

theorem takeWhile1_append {holds : Char → Bool} {text taken rest : List Char}
    (htaken : takeWhile1 holds text = some (taken, rest)) : taken ++ rest = text := by
  obtain ⟨first, left, hfirst, htaken⟩ := bind_eq_some_iff.mp htaken
  cases hfirst
  split at htaken
  · contradiction
  · cases htaken
    exact List.takeWhile_append_dropWhile

def Agree (related : α → β → Prop) (first : Scanner α) (second : Scanner β) : Prop :=
  ∀ text value₁ rest₁ value₂ rest₂,
    first text = some (value₁, rest₁) → second text = some (value₂, rest₂) →
      related value₁ value₂ ∧ rest₁ = rest₂

theorem agree_refl (scanner : Scanner α) : Agree (· = ·) scanner scanner := by
  intro text value₁ rest₁ value₂ rest₂ hfirst hsecond
  rw [hfirst] at hsecond
  simpa using hsecond

theorem agree_pure {related : α → β → Prop} {value₁ : α} {value₂ : β}
    (hrelated : related value₁ value₂) :
    Agree related (pure value₁ : Scanner α) (pure value₂) := by
  intro text first rest₁ second rest₂ hfirst hsecond
  obtain ⟨rfl, rfl⟩ := Prod.mk.inj (Option.some.inj hfirst)
  obtain ⟨rfl, rfl⟩ := Prod.mk.inj (Option.some.inj hsecond)
  exact ⟨hrelated, rfl⟩

theorem failure_agree {related : α → β → Prop} (scanner : Scanner β) :
    Agree related (failure : Scanner α) scanner := by
  intro text value₁ rest₁ value₂ rest₂ hfirst
  contradiction

theorem agree_failure {related : α → β → Prop} (scanner : Scanner α) :
    Agree related scanner (failure : Scanner β) := by
  intro text value₁ rest₁ value₂ rest₂ hfirst hsecond
  contradiction

theorem Agree.bind {related : α → β → Prop} {outcome : γ → δ → Prop} {first : Scanner α}
    {second : Scanner β} {next₁ : α → Scanner γ} {next₂ : β → Scanner δ}
    (hagree : Agree related first second)
    (hnext : ∀ value₁ value₂, related value₁ value₂ →
      Agree outcome (next₁ value₁) (next₂ value₂)) :
    Agree outcome (first >>= next₁) (second >>= next₂) := by
  intro text value₁ rest₁ value₂ rest₂ hfirst hsecond
  obtain ⟨middle₁, left₁, hfirst, hnext₁⟩ := bind_eq_some_iff.mp hfirst
  obtain ⟨middle₂, left₂, hsecond, hnext₂⟩ := bind_eq_some_iff.mp hsecond
  obtain ⟨hmiddle, rfl⟩ := hagree text middle₁ left₁ middle₂ left₂ hfirst hsecond
  exact hnext middle₁ middle₂ hmiddle left₁ value₁ rest₁ value₂ rest₂ hnext₁ hnext₂

/-- What both do first does not matter. -/
theorem agree_bind {outcome : γ → δ → Prop} (scanner : Scanner α) {next₁ : α → Scanner γ}
    {next₂ : α → Scanner δ} (hnext : ∀ value, Agree outcome (next₁ value) (next₂ value)) :
    Agree outcome (scanner >>= next₁) (scanner >>= next₂) := by
  apply (agree_refl scanner).bind
  rintro value - rfl
  exact hnext value

/-- Both may go on at once, or after something else. -/
theorem agree_after {outcome : γ → δ → Prop} (after : Bool) (scanner : Scanner Unit)
    {next₁ : Unit → Scanner γ} {next₂ : Unit → Scanner δ}
    (hnext : ∀ value, Agree outcome (next₁ value) (next₂ value)) :
    Agree outcome (if after then scanner >>= next₁ else next₁ ())
      (if after then scanner >>= next₂ else next₂ ()) := by
  split
  · exact agree_bind scanner hnext
  · exact hnext ()

theorem Agree.readAll? {related : α → β → Prop} {first : Scanner α} {second : Scanner β}
    (hagree : Agree related first second) {text : List Char} {value₁ : α} {value₂ : β}
    (hfirst : Scanner.readAll? first text = some value₁)
    (hsecond : Scanner.readAll? second text = some value₂) : related value₁ value₂ := by
  rw [readAll?_eq_some_iff] at hfirst hsecond
  exact (hagree text value₁ [] value₂ [] hfirst hsecond).1

end Scanner

end SuspicionMonitor
