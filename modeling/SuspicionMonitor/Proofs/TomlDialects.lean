import SuspicionMonitor.Proofs.TomlReadings

/-!
# Readers of two dialects

Two dialects that both read a document read it alike.
-/

namespace SuspicionMonitor

namespace Toml

variable {moment : String → Data}

section

variable {entries₁ entries₂ : Entries}

/-- What becomes of an empty table is added. -/
theorem EntriesAlike.addTable {origin₁ origin₂ : Origin} {inner₁ inner₂ : Option Entries}
    (hentries : EntriesAlike moment entries₁ entries₂) {name : String}
    (hfresh : entries₁.node? name = none)
    (hinner : AlikeIfGiven (EntriesAlike moment) inner₁ inner₂) :
    AlikeIfGiven (EntriesAlike moment)
      (do return entries₁.add name (.table origin₁ (← inner₁)))
      (do return entries₂.add name (.table origin₂ (← inner₂))) := by
  refine AlikeIfGiven.bind hinner ?_
  intro added₁ added₂ hadded
  exact alikeIfGiven_some (hentries.add (Entries.node?_eq_none_iff.mp hfresh) (.table hadded))

/-- A table below is replaced by what becomes of it. -/
theorem EntriesAlike.replaceTable {origin₁ origin₂ : Origin} {inner₁ inner₂ : Option Entries}
    (hentries : EntriesAlike moment entries₁ entries₂) (name : String)
    (hinner : AlikeIfGiven (EntriesAlike moment) inner₁ inner₂) :
    AlikeIfGiven (EntriesAlike moment)
      (do return entries₁.replace name (.table origin₁ (← inner₁)))
      (do return entries₂.replace name (.table origin₂ (← inner₂))) := by
  refine AlikeIfGiven.bind hinner ?_
  intro changed₁ changed₂ hchanged
  exact alikeIfGiven_some (hentries.replace name (.table hchanged))

/-- The last table of an array is replaced by what becomes of it. -/
theorem EntriesAlike.replaceLast {closed₁ closed₂ : List Entries} {last₁ last₂ : Option Entries}
    (hentries : EntriesAlike moment entries₁ entries₂) (name : String)
    (hclosed : TablesAlike moment closed₁ closed₂)
    (hlast : AlikeIfGiven (EntriesAlike moment) last₁ last₂) :
    AlikeIfGiven (EntriesAlike moment)
      (do return entries₁.replace name (.tables closed₁ (← last₁)))
      (do return entries₂.replace name (.tables closed₂ (← last₂))) := by
  refine AlikeIfGiven.bind hlast ?_
  intro changed₁ changed₂ hchanged
  exact alikeIfGiven_some (hentries.replace name (.tables hclosed hchanged))

theorem EntriesAlike.addDotted {adds₁ adds₂ : Bool} {key : String} {data₁ data₂ : Data}
    (hentries : EntriesAlike moment entries₁ entries₂) (hdata : data₁.Alike moment data₂)
    (path : List String) :
    AlikeIfGiven (EntriesAlike moment) (entries₁.addDotted adds₁ key data₁ path)
      (entries₂.addDotted adds₂ key data₂ path) := by
  induction path generalizing entries₁ entries₂ with
  | nil =>
      have hnode := hentries.node? key
      unfold Entries.addDotted
      generalize hfound : entries₁.node? key = found₁ at hnode
      generalize entries₂.node? key = found₂ at hnode
      cases hnode with
      | none =>
          exact alikeIfGiven_some
            (hentries.add (Entries.node?_eq_none_iff.mp hfound) (.value hdata))
      | some => exact none_alikeIfGiven _
  | cons name path ih =>
      have hnode := hentries.node? name
      unfold Entries.addDotted
      generalize hfound : entries₁.node? name = found₁ at hnode
      generalize entries₂.node? name = found₂ at hnode
      cases hnode with
      | none =>
          exact hentries.addTable hfound (ih .nil)
      | some hnode =>
          cases hnode with
          | value => exact none_alikeIfGiven _
          | table hinner =>
              exact (hentries.replaceTable name (ih hinner)).unless _ _
          | tables hclosed hlast =>
              exact (hentries.replaceLast name hclosed (ih hlast)).unless _ _

theorem EntriesAlike.addUnder {adds₁ adds₂ : Bool} {path : List String} {key : String}
    {data₁ data₂ : Data} (hentries : EntriesAlike moment entries₁ entries₂)
    (hdata : data₁.Alike moment data₂) (header : List String) :
    AlikeIfGiven (EntriesAlike moment) (entries₁.addUnder adds₁ path key data₁ header)
      (entries₂.addUnder adds₂ path key data₂ header) := by
  induction header generalizing entries₁ entries₂ with
  | nil => exact hentries.addDotted hdata path
  | cons name header ih =>
      have hnode := hentries.node? name
      unfold Entries.addUnder
      generalize entries₁.node? name = found₁ at hnode
      generalize entries₂.node? name = found₂ at hnode
      cases hnode with
      | none => exact none_alikeIfGiven _
      | some hnode =>
          cases hnode with
          | value => exact none_alikeIfGiven _
          | table hinner =>
              exact hentries.replaceTable name (ih hinner)
          | tables hclosed hlast =>
              exact hentries.replaceLast name hclosed (ih hlast)

theorem EntriesAlike.openEnd (hentries : EntriesAlike moment entries₁ entries₂)
    (isElement : Bool) (key : String) :
    AlikeIfGiven (EntriesAlike moment) (Entries.openEnd isElement key entries₁)
      (Entries.openEnd isElement key entries₂) := by
  have hnode := hentries.node? key
  unfold Entries.openEnd
  generalize hfound : entries₁.node? key = found₁ at hnode
  generalize entries₂.node? key = found₂ at hnode
  cases hnode with
  | none =>
      have hfresh := Entries.node?_eq_none_iff.mp hfound
      cases isElement with
      | false => exact alikeIfGiven_some (hentries.add hfresh (.table .nil))
      | true => exact alikeIfGiven_some (hentries.add hfresh (.tables .nil .nil))
  | some hnode =>
      cases isElement with
      | false =>
          cases hnode with
          | value => exact none_alikeIfGiven _
          | @table origin₁ origin₂ _ _ hinner =>
              cases origin₁ with
              | implied =>
                  cases origin₂ with
                  | implied => exact alikeIfGiven_some (hentries.replace key (.table hinner))
                  | header | dotted => exact alikeIfGiven_none _
              | header | dotted => exact none_alikeIfGiven _
          | tables => exact none_alikeIfGiven _
      | true =>
          cases hnode with
          | value => exact none_alikeIfGiven _
          | table => exact none_alikeIfGiven _
          | tables hclosed hlast =>
              exact alikeIfGiven_some
                (hentries.replace key (.tables (hclosed.concat hlast) .nil))

theorem EntriesAlike.openHeader (hentries : EntriesAlike moment entries₁ entries₂)
    (isElement : Bool) (header : List String) :
    AlikeIfGiven (EntriesAlike moment) (Entries.openHeader isElement header entries₁)
      (Entries.openHeader isElement header entries₂) := by
  induction header generalizing entries₁ entries₂ with
  | nil => exact none_alikeIfGiven _
  | cons name header ih =>
      cases header with
      | nil => exact hentries.openEnd isElement name
      | cons next header =>
          have hnode := hentries.node? name
          unfold Entries.openHeader
          generalize hfound : entries₁.node? name = found₁ at hnode
          generalize entries₂.node? name = found₂ at hnode
          cases hnode with
          | none =>
              exact hentries.addTable hfound (ih .nil)
          | some hnode =>
              cases hnode with
              | value => exact none_alikeIfGiven _
              | table hinner =>
                  exact hentries.replaceTable name (ih hinner)
              | tables hclosed hlast =>
                  exact hentries.replaceLast name hclosed (ih hlast)

end

/-! ## Reading documents -/

section

open Scanner

variable {first second : Dialect}

theorem alikeIfGiven_scalar? (htext : ∀ text, second.moment text = .text text)
    (chars : List Char) :
    AlikeIfGiven (Data.Alike first.moment) (scalar? first.moment chars)
      (scalar? second.moment chars) := by
  unfold scalar?
  split
  · exact alikeIfGiven_some (.same rfl)
  split
  · exact alikeIfGiven_some (.same rfl)
  split
  · exact alikeIfGiven_some (.same rfl)
  split
  · exact alikeIfGiven_some (.same rfl)
  split
  · rw [htext]
    exact alikeIfGiven_some (.moment rfl)
  · exact none_alikeIfGiven _

mutual

theorem agree_value (htext : ∀ text, second.moment text = .text text) (depth steps : Nat) :
    Agree (Data.Alike first.moment) (value first depth steps) (value second depth steps) := by
  match steps with
  | 0 =>
      unfold value
      exact failure_agree _
  | steps + 1 =>
      unfold value
      apply agree_bind
      intro next
      split
      · apply agree_bind
        intro text
        exact agree_pure (.same rfl)
      · apply agree_bind
        intro text
        exact agree_pure (.same rfl)
      · apply agree_bind
        intro opened
        apply agree_bind
        intro depth
        refine Agree.bind (agree_items htext depth steps) ?_
        intro items₁ items₂ hitems
        exact agree_pure (.list hitems)
      · apply agree_bind
        intro opened
        apply agree_bind
        intro depth
        refine Agree.bind (agree_inlineEntries htext .nil depth steps) ?_
        intro entries₁ entries₂ hentries
        exact agree_pure (.table hentries.toData)
      · apply agree_bind
        intro chars
        obtain hnone | hnone | ⟨data₁, data₂, hdata₁, hdata₂, hdata⟩ :=
          (alikeIfGiven_scalar? htext chars).cases
        · rw [hnone]
          exact failure_agree _
        · rw [hnone]
          exact agree_failure _
        · rw [hdata₁, hdata₂]
          exact agree_pure hdata

theorem agree_items (htext : ∀ text, second.moment text = .text text) (depth steps : Nat) :
    Agree (Data.ItemsAlike first.moment) (items first depth steps) (items second depth steps) := by
  match steps with
  | 0 =>
      unfold items
      exact failure_agree _
  | steps + 1 =>
      unfold items
      apply agree_bind
      intro skipped
      apply agree_bind
      intro closed
      split
      · exact agree_pure .nil
      refine Agree.bind (agree_value htext depth steps) ?_
      intro item₁ item₂ hitem
      apply agree_bind
      intro skipped
      apply agree_bind
      intro more
      split
      · refine Agree.bind (agree_items htext depth steps) ?_
        intro items₁ items₂ hitems
        exact agree_pure (.cons hitem hitems)
      · apply agree_bind
        intro closed
        exact agree_pure (.cons hitem .nil)

theorem agree_inlineEntries (htext : ∀ text, second.moment text = .text text)
    {entries₁ entries₂ : Entries} (hentries : EntriesAlike first.moment entries₁ entries₂)
    (depth steps : Nat) :
    Agree (EntriesAlike first.moment) (inlineEntries first depth entries₁ steps)
      (inlineEntries second depth entries₂ steps) := by
  match steps with
  | 0 =>
      unfold inlineEntries
      exact failure_agree _
  | steps + 1 =>
      unfold inlineEntries
      apply agree_bind
      intro skipped
      apply agree_bind
      intro closed
      split
      · exact agree_pure hentries
      apply agree_bind
      intro path
      split
      · apply agree_bind
        intro skipped
        apply agree_bind
        intro assigned
        apply agree_bind
        intro skipped
        refine Agree.bind (agree_value htext depth steps) ?_
        intro data₁ data₂ hdata
        obtain hnone | hnone | ⟨added₁, added₂, hadded₁, hadded₂, hadded⟩ :=
          (hentries.addDotted hdata _).cases
        · rw [hnone]
          exact failure_agree _
        · rw [hnone]
          exact agree_failure _
        rw [hadded₁, hadded₂]
        apply agree_bind
        intro skipped
        apply agree_bind
        intro more
        split
        · exact agree_inlineEntries htext hadded depth steps
        · apply agree_bind
          intro closed
          exact agree_pure hadded
      · exact failure_agree _

end

/-- Two states of reading: the same header, and entries that are alike. -/
structure ProgressAlike (moment : String → Data) (progress₁ progress₂ : Progress) : Prop where
  entries : EntriesAlike moment progress₁.entries progress₂.entries
  header : progress₁.header = progress₂.header

theorem agree_headerLine {progress₁ progress₂ : Progress}
    (hprogress : ProgressAlike first.moment progress₁ progress₂) (steps : Nat) :
    Agree (ProgressAlike first.moment) (headerLine progress₁ steps)
      (headerLine progress₂ steps) := by
  unfold headerLine
  apply agree_bind
  intro isElement
  refine agree_after _ _ ?_
  intro opened
  apply agree_bind
  intro header
  apply agree_bind
  intro closed
  apply agree_bind
  intro ended
  obtain hnone | hnone | ⟨entries₁, entries₂, hopened₁, hopened₂, hentries⟩ :=
    (hprogress.entries.openHeader isElement header).cases
  · rw [hnone]
    exact failure_agree _
  · rw [hnone]
    exact agree_failure _
  · rw [hopened₁, hopened₂]
    exact agree_pure ⟨hentries, rfl⟩

theorem agree_entryLine (htext : ∀ text, second.moment text = .text text)
    {progress₁ progress₂ : Progress} (hprogress : ProgressAlike first.moment progress₁ progress₂)
    (steps : Nat) :
    Agree (ProgressAlike first.moment) (entryLine first progress₁ steps)
      (entryLine second progress₂ steps) := by
  unfold entryLine
  apply agree_bind
  intro path
  split
  · apply agree_bind
    intro assigned
    apply agree_bind
    intro skipped
    refine Agree.bind (agree_value htext maxDepth steps) ?_
    intro data₁ data₂ hdata
    apply agree_bind
    intro ended
    rw [hprogress.header]
    obtain hnone | hnone | ⟨entries₁, entries₂, hadded₁, hadded₂, hentries⟩ :=
      (hprogress.entries.addUnder hdata progress₂.header).cases
    · rw [hnone]
      exact failure_agree _
    · rw [hnone]
      exact agree_failure _
    · rw [hadded₁, hadded₂]
      exact agree_pure ⟨hentries, rfl⟩
  · exact failure_agree _

theorem agree_lines (htext : ∀ text, second.moment text = .text text)
    {progress₁ progress₂ : Progress} (hprogress : ProgressAlike first.moment progress₁ progress₂)
    (steps : Nat) :
    Agree (EntriesAlike first.moment) (lines first progress₁ steps)
      (lines second progress₂ steps) := by
  induction steps generalizing progress₁ progress₂ with
  | zero => exact failure_agree _
  | succ steps ih =>
      unfold lines
      apply agree_bind
      intro skipped
      apply agree_bind
      intro next
      split
      · exact agree_pure hprogress.entries
      · refine Agree.bind (agree_headerLine hprogress steps) ?_
        intro progress₁ progress₂ hprogress
        exact ih hprogress
      · refine Agree.bind (agree_entryLine htext hprogress steps) ?_
        intro progress₁ progress₂ hprogress
        exact ih hprogress

end

end Toml

/-- Where two dialects read the same document, and the second of them takes
dates for texts, they read alike tables. -/
theorem Data.exists_entries_of_ofToml? {first second : Toml.Dialect}
    (htext : ∀ text, second.moment text = .text text) {text : String} {data₁ data₂ : Data}
    (hfirst : Data.ofToml? first text = some data₁)
    (hsecond : Data.ofToml? second text = some data₂) :
    ∃ entries₁ entries₂, data₁ = .table entries₁ ∧ data₂ = .table entries₂ ∧
      EntriesAlike first.moment entries₁ entries₂ := by
  obtain ⟨entries₁, hentries₁, rfl⟩ := Option.map_eq_some_iff.mp hfirst
  obtain ⟨entries₂, hentries₂, rfl⟩ := Option.map_eq_some_iff.mp hsecond
  have hentries := (Toml.agree_lines htext ⟨.nil, rfl⟩ _).readAll? hentries₁ hentries₂
  exact ⟨_, _, rfl, rfl, hentries.toData⟩

end SuspicionMonitor
