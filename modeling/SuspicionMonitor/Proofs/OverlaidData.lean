import SuspicionMonitor.Proofs.ScannerPairs
import SuspicionMonitor.Proofs.TomlReadings
import SuspicionMonitor.Settings.Path

/-!
# Data laid over data

What is found under a key after an entry has been changed, after a table has
been laid over another one, and after entries have been laid over data at their
paths.
-/

namespace SuspicionMonitor

namespace PathStep

/-- A path begins with the key of a table. -/
theorem exists_ofKey_eq (key : String) : ∃ name path, ofKey key = .key name :: path := by
  unfold ofKey
  cases hparse : parse? key with
  | none => exact ⟨key, [], rfl⟩
  | some steps =>
      have hparsed := Scanner.readAll?_eq_some_iff.mp hparse
      obtain ⟨first, rest, hname, hfollowing⟩ := Scanner.bind_eq_some_iff.mp hparsed
      obtain ⟨path, left, -, hsteps⟩ := Scanner.bind_eq_some_iff.mp hfollowing
      obtain ⟨chars, behind, -, hfirst⟩ := Scanner.bind_eq_some_iff.mp hname
      cases hfirst
      cases hsteps
      exact ⟨String.ofList chars, path, rfl⟩

/-- A path without further steps has read the whole text. -/
theorem eq_nil_of_following {steps : Nat} {text rest : List Char}
    (hsteps : following steps text = some ([], rest)) : text = [] := by
  cases steps with
  | zero => contradiction
  | succ steps =>
      obtain ⟨ended, left, hended, hsteps⟩ := Scanner.bind_eq_some_iff.mp hsteps
      cases hended
      cases text with
      | nil => rfl
      | cons c text =>
          -- More steps would follow.
          obtain ⟨dot, left, hdot, hsteps⟩ := Scanner.bind_eq_some_iff.mp hsteps
          cases dot with
          | true =>
              obtain ⟨name, left, hname, hsteps⟩ := Scanner.bind_eq_some_iff.mp hsteps
              obtain ⟨path, left, hpath, hsteps⟩ := Scanner.bind_eq_some_iff.mp hsteps
              cases hsteps
          | false =>
              obtain ⟨bracket, left, hbracket, hsteps⟩ := Scanner.bind_eq_some_iff.mp hsteps
              obtain ⟨position, left, hposition, hsteps⟩ := Scanner.bind_eq_some_iff.mp hsteps
              obtain ⟨path, left, hpath, hsteps⟩ := Scanner.bind_eq_some_iff.mp hsteps
              cases hsteps

theorem eq_of_ofKey_eq {key name : String} (hkey : ofKey key = [.key name]) : key = name := by
  unfold ofKey at hkey
  cases hparse : parse? key with
  | none =>
      rw [hparse] at hkey
      simpa using hkey
  | some steps =>
      have hparsed := Scanner.readAll?_eq_some_iff.mp hparse
      obtain ⟨first, rest, hname, hfollowing⟩ := Scanner.bind_eq_some_iff.mp hparsed
      obtain ⟨path, left, hpath, hsteps⟩ := Scanner.bind_eq_some_iff.mp hfollowing
      obtain ⟨chars, behind, hchars, hfirst⟩ := Scanner.bind_eq_some_iff.mp hname
      cases hfirst
      cases hsteps
      rw [hparse] at hkey
      obtain ⟨hfirst, rfl⟩ := List.cons.inj hkey
      cases hfirst
      obtain rfl := eq_nil_of_following hpath
      have hall := Scanner.takeWhile1_append hchars
      rw [List.append_nil] at hall
      rw [hall, String.ofList_toList]

end PathStep

namespace Data

@[simp] theorem find?_nil (key : String) : find? [] key = none := rfl

@[simp] theorem find?_cons (entry : String × Data) (entries : List (String × Data))
    (key : String) :
    find? (entry :: entries) key = if entry.1 = key then some entry.2 else find? entries key := by
  by_cases hkey : entry.1 = key <;> simp [find?, hkey]

theorem find?_eq_none_iff {entries : List (String × Data)} {key : String} :
    find? entries key = none ↔ key ∉ entries.map Prod.fst := by
  induction entries with
  | nil => simp
  | cons entry entries ih =>
      by_cases hkey : entry.1 = key
      · simp [hkey]
      · simp [hkey, ih, Ne.symm hkey]

theorem find?_append (entries more : List (String × Data)) (key : String) :
    find? (entries ++ more) key = (find? entries key).or (find? more key) := by
  induction entries with
  | nil => simp
  | cons entry entries ih =>
      by_cases hkey : entry.1 = key
      · simp [hkey]
      · simp [hkey, ih]

theorem find?_map_change (entries : List (String × Data)) (key other : String)
    (change : Data → Data) :
    find? (entries.map fun entry => if entry.1 == key then (key, change entry.2) else entry) other =
      if other = key then (find? entries key).map change else find? entries other := by
  induction entries with
  | nil => simp
  | cons entry entries ih =>
      rw [List.map_cons, find?_cons, ih]
      by_cases hentry : entry.1 = key
      · by_cases hother : other = key
        · simp [hentry, hother]
        · simp [hentry, hother, Ne.symm hother]
      · by_cases hother : other = key
        · subst hother
          simp [hentry]
        · simp [hentry, hother]

theorem any_key_iff {entries : List (String × Data)} {key : String} :
    entries.any (·.1 == key) = true ↔ key ∈ entries.map Prod.fst := by
  simp [List.any_eq_true]

theorem changeEntry_of_fresh {entries : List (String × Data)} {key : String}
    (hfresh : key ∉ entries.map Prod.fst) (change : Data → Data) :
    changeEntry entries key change = entries ++ [(key, change .null)] := by
  rw [changeEntry, if_neg]
  rwa [any_key_iff]

theorem find?_changeEntry (entries : List (String × Data)) (key other : String)
    (change : Data → Data) :
    find? (changeEntry entries key change) other =
      if other = key then some (change ((find? entries key).getD .null))
      else find? entries other := by
  by_cases hmem : key ∈ entries.map Prod.fst
  · rw [changeEntry, if_pos (any_key_iff.mpr hmem), find?_map_change]
    split
    · obtain ⟨data, hdata⟩ :=
        Option.ne_none_iff_exists'.mp (mt find?_eq_none_iff.mp (not_not.mpr hmem))
      rw [hdata]
      rfl
    · rfl
  · rw [changeEntry_of_fresh hmem, find?_append, find?_eq_none_iff.mpr hmem]
    by_cases hother : other = key
    · subst hother
      simp [find?_eq_none_iff.mpr hmem]
    · simp [hother, Ne.symm hother]

theorem overlay_of_isScalar {data : Data} (hscalar : data.isScalar = true) (lower : Data) :
    overlay data lower = data := by
  cases data <;> first | rfl | contradiction

theorem find?_overlayEntries {entries : List (String × Data)}
    (hnodup : (entries.map Prod.fst).Nodup) (lower : List (String × Data)) (key : String) :
    find? (overlayEntries entries lower) key =
      match find? entries key with
      | none => find? lower key
      | some data => some (overlay data ((find? lower key).getD .null)) := by
  induction entries generalizing lower with
  | nil => rfl
  | cons entry entries ih =>
      obtain ⟨name, data⟩ := entry
      rw [List.map_cons, List.nodup_cons] at hnodup
      rw [overlayEntries, ih hnodup.2, find?_cons, find?_changeEntry]
      by_cases hkey : key = name
      · subst hkey
        simp [find?_eq_none_iff.mpr hnodup.1]
      · simp [hkey, Ne.symm hkey]

mutual

/-- Laid over nothing, data without repeated keys stay as they are. -/
theorem Alike.overlay_null {moment : String → Data} {data₁ data₂ : Data}
    (hdata : data₁.Alike moment data₂) : overlay data₂ .null = data₂ := by
  match hdata with
  | .same hscalar => exact overlay_of_isScalar hscalar _
  | .moment _ => rfl
  | .list _ => rfl
  | .table hentries => exact congrArg table (hentries.overlayEntries_eq_append (by simp [entriesOf]))

theorem EntriesAlike.overlayEntries_eq_append {moment : String → Data}
    {entries₁ entries₂ lower : List (String × Data)}
    (hentries : EntriesAlike moment entries₁ entries₂)
    (hfresh : ∀ key ∈ entries₁.map Prod.fst, key ∉ lower.map Prod.fst) :
    overlayEntries entries₂ lower = lower ++ entries₂ := by
  match hentries with
  | .nil => simp [overlayEntries]
  | .cons key hkey hdata hrest =>
      rw [overlayEntries, changeEntry_of_fresh (hfresh key (by simp)), hdata.overlay_null,
        hrest.overlayEntries_eq_append, List.append_assoc]
      · rfl
      · intro other hother
        have hlower := hfresh other (List.mem_cons_of_mem _ hother)
        have hne : other ≠ key := by
          rintro rfl
          exact hkey hother
        simp only [List.map_append, List.mem_append, not_or]
        exact ⟨hlower, by simpa using hne⟩

end

/-! ## Entries at their paths -/

/-- What is changed below one key of a table is seen under that key only. -/
theorem find?_changeAt (change : Data → Data) (name other : String) (path : List PathStep)
    (data : Data) :
    find? (changeAt change (.key name :: path) data).entriesOf other =
      if other = name then some (changeAt change path ((find? data.entriesOf name).getD .null))
      else find? data.entriesOf other :=
  find?_changeEntry _ _ _ _

theorem overlayPaths?_cons {entry : String × Data} {entries : List (String × Data)}
    {lower data : Data} (hlaid : overlayPaths? (entry :: entries) lower = some data) :
    overlayPaths? entries (changeAt (overlay entry.2) (PathStep.ofKey entry.1) lower) =
      some data := by
  unfold overlayPaths? at hlaid
  rw [List.foldlM_cons] at hlaid
  obtain ⟨changed, hchanged, hlaid⟩ := Option.bind_eq_some_iff.mp hlaid
  dsimp only at hchanged
  split at hchanged
  · obtain rfl := Option.some.inj hchanged
    exact hlaid
  · contradiction

theorem find?_overlayPaths?_of_apart {entries : List (String × Data)} {lower data : Data}
    {name : String}
    (hapart : ∀ key ∈ entries.map Prod.fst, ∀ path, PathStep.ofKey key ≠ .key name :: path)
    (hlaid : overlayPaths? entries lower = some data) :
    find? data.entriesOf name = find? lower.entriesOf name := by
  induction entries generalizing lower with
  | nil =>
      obtain rfl := Option.some.inj hlaid
      rfl
  | cons entry entries ih =>
      obtain ⟨first, path, hpath⟩ := PathStep.exists_ofKey_eq entry.1
      have hne : name ≠ first := by
        rintro rfl
        exact hapart entry.1 (by simp) path hpath
      have hlaid' := overlayPaths?_cons hlaid
      rw [ih (fun key hkey => hapart key (List.mem_cons_of_mem _ hkey)) hlaid', hpath,
        find?_changeAt, if_neg hne]

/-- The entry of a name is laid over nothing, if no other key leads below that
name. -/
theorem find?_overlayPaths? {entries : List (String × Data)} {lower data : Data} {name : String}
    (hnodup : (entries.map Prod.fst).Nodup) (hname : PathStep.ofKey name = [.key name])
    (hdirect : ∀ key ∈ entries.map Prod.fst, ∀ path,
      PathStep.ofKey key = .key name :: path → key = name)
    (hlower : find? lower.entriesOf name = none)
    (hlaid : overlayPaths? entries lower = some data) :
    find? data.entriesOf name = (find? entries name).map fun upper => overlay upper .null := by
  induction entries generalizing lower with
  | nil =>
      obtain rfl := Option.some.inj hlaid
      exact hlower
  | cons entry entries ih =>
      rw [List.map_cons, List.nodup_cons] at hnodup
      have hrest : ∀ key ∈ entries.map Prod.fst, ∀ path,
          PathStep.ofKey key = .key name :: path → key = name :=
        fun key hkey => hdirect key (List.mem_cons_of_mem _ hkey)
      have hlaid' := overlayPaths?_cons hlaid
      rw [find?_cons]
      by_cases hkey : entry.1 = name
      · -- No later entry comes back to the name.
        have hapart : ∀ key ∈ entries.map Prod.fst, ∀ path,
            PathStep.ofKey key ≠ .key name :: path := by
          intro key hmem path hpath
          rw [hrest key hmem path hpath, ← hkey] at hmem
          exact hnodup.1 hmem
        rw [find?_overlayPaths?_of_apart hapart hlaid', hkey, hname, find?_changeAt, hlower]
        simp [changeAt]
      · obtain ⟨first, path, hpath⟩ := PathStep.exists_ofKey_eq entry.1
        have hne : name ≠ first := by
          rintro rfl
          exact hkey (hdirect entry.1 (by simp) path hpath)
        rw [if_neg hkey]
        apply ih hnodup.2 hrest _ hlaid'
        rw [hpath, find?_changeAt, if_neg hne, hlower]

end Data

end SuspicionMonitor
