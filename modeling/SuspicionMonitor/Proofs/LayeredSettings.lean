import SuspicionMonitor.Proofs.SettingFields
import SuspicionMonitor.Proofs.TomlDialects
import SuspicionMonitor.Proofs.ValidSettings
import SuspicionMonitor.Settings.Layers

/-!
# Settings out of layers

What it takes to load settings: documents that can be read, entries that can be
laid over each other, and valid settings in the end.
-/

namespace SuspicionMonitor

theorem bind_eq_ok_iff {ε α β : Type} {result : Except ε α} {next : α → Except ε β} {value : β} :
    result >>= next = .ok value ↔ ∃ middle, result = .ok middle ∧ next middle = .ok value := by
  cases result <;> simp [bind, Except.bind]

theorem toOption_eq_some_iff {ε α : Type} {result : Except ε α} {value : α} :
    result.toOption = some value ↔ result = .ok value := by
  cases result <;> simp [Except.toOption]

theorem exists_eq_ok_of_isSome {ε α : Type} {result : Except ε α}
    (hsome : result.toOption.isSome = true) : ∃ value, result = .ok value := by
  obtain ⟨value, hvalue⟩ := Option.isSome_iff_exists.mp hsome
  exact ⟨value, toOption_eq_some_iff.mp hvalue⟩

namespace Settings

theorem of_ofFile {text : String} {settings : Settings}
    (hfile : ofFile (some text) = .ok settings) :
    ∃ data, Data.ofToml? fileDialect text = some data ∧
      Settings.read .toml .standard data = some settings ∧ settings.invalid? = none := by
  unfold ofFile at hfile
  dsimp only at hfile
  split at hfile
  case h_1 => contradiction
  case h_2 read hread =>
    obtain ⟨data, hdata, hread⟩ := Option.bind_eq_some_iff.mp hread
    obtain ⟨hvalid, rfl⟩ := mapError_validate_eq_ok_iff.mp hfile
    exact ⟨data, hdata, hread, hvalid⟩

end Settings

namespace Data

theorem exists_table_of_overlayPaths? {entries lower : List (String × Data)} {data : Data}
    (hlaid : overlayPaths? entries (.table lower) = some data) :
    ∃ laid, data = .table laid := by
  induction entries generalizing lower with
  | nil => exact ⟨lower, (Option.some.inj hlaid).symm⟩
  | cons entry entries ih =>
      obtain ⟨name, path, hpath⟩ := PathStep.exists_ofKey_eq entry.1
      have hlaid' := overlayPaths?_cons hlaid
      rw [hpath] at hlaid'
      exact ih hlaid'

end Data

namespace Layers

theorem lay_eq_ok_iff {entries : List (String × Data)} {lower data : Data} :
    lay lower entries = .ok data ↔ Data.overlayPaths? entries lower = some data := by
  unfold lay
  cases Data.overlayPaths? entries lower with
  | none => simp
  | some laid => simp

/-- The entries of a document, which may begin with one byte order mark more. -/
def entries? (text : String) : Option (List (String × Data)) :=
  (Data.ofToml? dialect (String.ofList (withoutMark text.toList))).map Data.entriesOf

theorem of_layFile {lower data : Data} {text : String}
    (hlaid : layFile lower text = .ok data) :
    ∃ entries, entries? text = some entries ∧ Data.overlayPaths? entries lower = some data := by
  unfold layFile at hlaid
  split at hlaid
  case h_1 => contradiction
  case h_2 document hdocument =>
    split at hlaid
    · refine ⟨document.entriesOf, ?_, lay_eq_ok_iff.mp hlaid⟩
      rw [entries?, hdocument]
      rfl
    · contradiction

/-- The entries of the layer of a file, which may be missing. -/
def fileEntries (contents : Option String) : List (String × Data) :=
  (contents.bind entries?).getD []

theorem of_foldlM_layFile {contents : Option String} {lower data : Data}
    (hlaid : contents.toList.foldlM layFile lower = .ok data) :
    Data.overlayPaths? (fileEntries contents) lower = some data := by
  cases contents with
  | none =>
      cases hlaid
      rfl
  | some text =>
      simp only [Option.toList_some, List.foldlM_cons, List.foldlM_nil, bind_pure] at hlaid
      obtain ⟨entries, hentries, hoverlay⟩ := of_layFile hlaid
      rwa [fileEntries, Option.bind_some, hentries]

theorem of_ofLayers {files : List String} {start : String}
    {environment : List (String × String)} {settings : Settings}
    (hload : Settings.ofLayers files start environment = .ok settings) :
    ∃ data laid, files.foldlM layFile (.table []) = .ok data ∧
      Data.overlayPaths? (variableEntries start environment) data = some laid ∧
      Settings.read .layered .standard laid = some settings ∧ settings.invalid? = none := by
  unfold Settings.ofLayers at hload
  obtain ⟨data, hfiles, hload⟩ := bind_eq_ok_iff.mp hload
  obtain ⟨laid, hlaid, hload⟩ := bind_eq_ok_iff.mp hload
  split at hload
  case h_1 => contradiction
  case h_2 read hread =>
    obtain ⟨hvalid, rfl⟩ := Settings.mapError_validate_eq_ok_iff.mp hload
    exact ⟨data, laid, hfiles, lay_eq_ok_iff.mp hlaid, hread, hvalid⟩

end Layers

namespace Surroundings

variable (surroundings : Surroundings Id)

theorem mapM_contents (paths : List String) :
    paths.mapM surroundings.contents = paths.map surroundings.contents := by
  induction paths with
  | nil => rfl
  | cons path paths ih =>
      rw [List.mapM_cons, ih]
      rfl

/-- The user's file, if it counts and is there. -/
def userContents (withUser : Bool) : Option String :=
  if withUser then surroundings.userFile?.bind surroundings.contents else none

theorem filterMap_contents_user (withUser : Bool) :
    (if withUser then surroundings.userFile?.toList else []).filterMap surroundings.contents =
      (surroundings.userContents withUser).toList := by
  cases withUser with
  | false => rfl
  | true =>
      cases huser : surroundings.userFile? with
      | none => simp [userContents, huser]
      | some path => cases hpath : surroundings.contents path <;> simp [userContents, huser, hpath]

/-- Files that are missing are left out. -/
theorem load_eq_ofLayers (directory start : String) (withUser : Bool) :
    surroundings.load directory start withUser =
      Settings.ofLayers
        ((surroundings.userContents withUser).toList ++
          ((surroundings.contents (Locations.projectFile directory)).toList ++
            (surroundings.contents (Locations.overrideFile directory)).toList))
        start surroundings.environment := by
  rw [load, mapM_contents]
  change Settings.ofLayers (List.filterMap id (List.map _ _)) _ _ = _
  rw [List.filterMap_map, List.filterMap_append, ← filterMap_contents_user]
  congr 2
  cases hproject : surroundings.contents (Locations.projectFile directory) <;>
    cases hoverride : surroundings.contents (Locations.overrideFile directory) <;>
      simp [hproject, hoverride]

end Surroundings

end SuspicionMonitor
