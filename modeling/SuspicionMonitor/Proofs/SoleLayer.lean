import SuspicionMonitor.Proofs.LayeredSettings

/-!
# A file that is the only layer

A document gives the same settings whether it is read on its own or as the only
layer, unless one of its keys is a path below a section: on its own it is a key
like any other.
-/

namespace SuspicionMonitor

namespace Data

variable {moment : String → Data}

theorem EntriesAlike.find? {entries₁ entries₂ : List (String × Data)}
    (hentries : EntriesAlike moment entries₁ entries₂) (key : String) :
    Option.Rel (Alike moment) (Data.find? entries₁ key) (Data.find? entries₂ key) := by
  match hentries with
  | .nil => exact .none
  | .cons other _ hdata hrest =>
      by_cases hkey : other = key
      · simpa [hkey] using Option.Rel.some hdata
      · simpa [hkey] using hrest.find? key

theorem ItemsAlike.find?_zip {items₁ items₂ : List Data}
    (hitems : ItemsAlike moment items₁ items₂) (names : List String) (key : String) :
    Option.Rel (Alike moment) (Data.find? (names.zip items₁) key)
      (Data.find? (names.zip items₂) key) := by
  match names, hitems with
  | [], _ => exact .none
  | _ :: _, .nil => exact .none
  | name :: names, .cons hitem hrest =>
      by_cases hkey : name = key
      · simpa [hkey] using Option.Rel.some hitem
      · simpa [hkey] using hrest.find?_zip names key

theorem alike_getD {data₁ data₂ : Option Data} (hrel : Option.Rel (Alike moment) data₁ data₂) :
    (data₁.getD (.table [])).Alike moment (data₂.getD (.table [])) := by
  cases hrel with
  | none => exact .table .nil
  | some halike => exact halike

theorem map_overlay_null {data₁ data₂ : Option Data}
    (hrel : Option.Rel (Alike moment) data₁ data₂) :
    (data₂.map fun upper => overlay upper .null) = data₂ := by
  cases hrel with
  | none => rfl
  | some halike => exact congrArg some halike.overlay_null

end Data

namespace Settings

/-- A date for a section sets nothing on its own, and is refused in a layer. -/
theorem find?_of_fields? {surplusItems : Bool} {names : List String} {data₁ data₂ : Data}
    {entries₁ entries₂ : List (String × Data)} (halike : data₁.Alike fileDialect.moment data₂)
    (hentries₁ : fields? surplusItems names data₁ = some entries₁)
    (hentries₂ : fields? surplusItems names data₂ = some entries₂) (key : String) :
    Option.Rel (Data.Alike fileDialect.moment) (Data.find? entries₁ key)
      (Data.find? entries₂ key) := by
  match halike with
  | .same hscalar => cases data₁ <;> contradiction
  | .moment _ => contradiction
  | .list hitems =>
      obtain ⟨-, hitems₁⟩ := Option.ite_none_right_eq_some.mp hentries₁
      obtain ⟨-, hitems₂⟩ := Option.ite_none_right_eq_some.mp hentries₂
      cases hitems₁
      cases hitems₂
      exact hitems.find?_zip names key
  | .table hentries =>
      cases hentries₁
      cases hentries₂
      exact hentries.find? key

theorem get_eq_of_isRead {field : SettingField} {base settings₁ settings₂ : Settings}
    {given₁ given₂ : Option Data}
    (hgiven : Option.Rel (Data.Alike fileDialect.moment) given₁ given₂)
    (hread₁ : field.IsRead .toml base given₁ settings₁)
    (hread₂ : field.IsRead .layered base given₂ settings₂) :
    field.get settings₁ = field.get settings₂ := by
  cases hgiven with
  | none => exact hread₁.trans hread₂.symm
  | some halike =>
      have hsame := field.read_layered_of_alike halike hread₁
      exact Option.some.inj (hsame.symm.trans hread₂)

/-- Settings are the same if their sections are read from alike data. -/
theorem eq_of_read {base settings₁ settings₂ : Settings} {sections₁ sections₂ : List (String × Data)}
    (hsections : ∀ field : SettingField, Option.Rel (Data.Alike fileDialect.moment)
      (Data.find? sections₁ field.sectionName) (Data.find? sections₂ field.sectionName))
    (hread₁ : Settings.read .toml base (.table sections₁) = some settings₁)
    (hread₂ : Settings.read .layered base (.table sections₂) = some settings₂) :
    settings₁ = settings₂ := by
  obtain ⟨_, hsections₁, hfields₁⟩ := isRead_of_read hread₁
  obtain ⟨_, hsections₂, hfields₂⟩ := isRead_of_read hread₂
  cases hsections₁
  cases hsections₂
  apply ext_get
  intro field
  obtain ⟨entries₁, hentries₁, hread₁⟩ := hfields₁ field
  obtain ⟨entries₂, hentries₂, hread₂⟩ := hfields₂ field
  have hsection := Data.alike_getD (hsections field)
  exact get_eq_of_isRead (find?_of_fields? hsection hentries₁ hentries₂ field.name) hread₁ hread₂

end Settings

namespace PathStep

/-- Whether a key is a path to something in a section. -/
def entersSection (key : String) : Bool :=
  match ofKey key with
  | .key name :: _ :: _ => ["sensor", "aggregator", "graph", "latency"].contains name
  | _ => false

theorem ofKey_sectionName (field : SettingField) :
    ofKey field.sectionName = [.key field.sectionName] := by
  revert field
  decide +kernel

theorem eq_sectionName_of_ofKey_eq {field : SettingField} {key : String} {path : List PathStep}
    (houtside : entersSection key = false) (hkey : ofKey key = .key field.sectionName :: path) :
    key = field.sectionName := by
  cases path with
  | nil => exact eq_of_ofKey_eq hkey
  | cons step path =>
      rw [entersSection, hkey] at houtside
      cases field <;> contradiction

end PathStep

/-! ## Documents -/

namespace Toml

/-- No key begins with a byte order mark. -/
theorem lines_mark (dialect : Dialect) (steps : Nat) (rest : List Char) :
    lines dialect {} (steps + 2) ('\ufeff' :: rest) = none := rfl

end Toml

theorem withoutMark_of_ofToml? {dialect : Toml.Dialect} {text : String} {data : Data}
    (hdata : Data.ofToml? dialect text = some data) :
    withoutMark (withoutMark text.toList) = withoutMark text.toList := by
  generalize hchars : withoutMark text.toList = chars
  rw [Data.ofToml?, hchars] at hdata
  unfold withoutMark
  split
  next rest =>
    -- A second mark would be the beginning of a key.
    obtain ⟨entries, hentries, -⟩ := Option.map_eq_some_iff.mp hdata
    rw [Scanner.readAll?_eq_some_iff, Toml.lines_mark] at hentries
    contradiction
  next => rfl

namespace Layers

theorem entries?_eq_of_ofToml? {other : Toml.Dialect} {text : String} {data : Data}
    (hdata : Data.ofToml? other text = some data) :
    entries? text = (Data.ofToml? dialect text).map Data.entriesOf := by
  unfold entries? Data.ofToml?
  rw [String.toList_ofList, withoutMark_of_ofToml? hdata]

theorem variableEntries_eq_nil {start : String} {environment : List (String × String)}
    (hvariables : ∀ name ∈ environment.map Prod.fst, variablePath? start name = none) :
    variableEntries start environment = [] := by
  rw [variableEntries, List.filterMap_eq_nil_iff]
  intro entry hmem
  simp [hvariables entry.1 (List.mem_map_of_mem hmem)]

theorem of_sole_layer {text start : String} {environment : List (String × String)}
    {settings : Settings}
    (hvariables : ∀ name ∈ environment.map Prod.fst, variablePath? start name = none)
    (hload : Settings.ofLayers [text] start environment = .ok settings) :
    ∃ entries laid, entries? text = some entries ∧
      Data.overlayPaths? entries (.table []) = some (.table laid) ∧
      Settings.read .layered .standard (.table laid) = some settings := by
  obtain ⟨data, laid, hfile, hlaid, hread, -⟩ := of_ofLayers hload
  rw [variableEntries_eq_nil hvariables] at hlaid
  obtain rfl := Option.some.inj hlaid
  simp only [List.foldlM_cons, List.foldlM_nil, bind_pure] at hfile
  obtain ⟨entries, hentries, hoverlay⟩ := of_layFile hfile
  obtain ⟨laid, rfl⟩ := Data.exists_table_of_overlayPaths? hoverlay
  exact ⟨entries, laid, hentries, hoverlay, hread⟩

/-- A section of the only layer is laid over nothing. -/
theorem find?_of_sole_layer {entries₁ entries₂ laid : List (String × Data)} {field : SettingField}
    (halike : Data.EntriesAlike fileDialect.moment entries₁ entries₂)
    (houtside : ∀ key ∈ entries₁.map Prod.fst, PathStep.entersSection key = false)
    (hlaid : Data.overlayPaths? entries₂ (.table []) = some (.table laid)) :
    Option.Rel (Data.Alike fileDialect.moment) (Data.find? entries₁ field.sectionName)
      (Data.find? laid field.sectionName) := by
  have hnodup := halike.nodup_keys
  rw [halike.map_fst_eq] at hnodup houtside
  have hfound := Data.find?_overlayPaths? hnodup (PathStep.ofKey_sectionName field)
    (fun key hkey path hpath => PathStep.eq_sectionName_of_ofKey_eq
      (houtside key hkey) hpath) rfl hlaid
  rw [Data.entriesOf, Data.map_overlay_null (halike.find? field.sectionName)] at hfound
  rw [hfound]
  exact halike.find? field.sectionName

end Layers

namespace Surroundings

theorem load_eq_of_ofFile {surroundings : Surroundings Id} {directory start : String}
    {withUser : Bool} {text : String} {fromFile loaded : Settings}
    (huser : surroundings.userContents withUser = none)
    (hproject : surroundings.contents (Locations.projectFile directory) = some text)
    (hoverride : surroundings.contents (Locations.overrideFile directory) = none)
    (hvariables : ∀ name ∈ surroundings.environment.map Prod.fst,
      Layers.variablePath? start name = none)
    (houtside : ∀ document ∈ Data.ofToml? fileDialect text,
      ∀ key ∈ document.entriesOf.map Prod.fst, PathStep.entersSection key = false)
    (hfile : Settings.ofFile (some text) = .ok fromFile)
    (hload : surroundings.load directory start withUser = .ok loaded) :
    loaded = fromFile := by
  rw [load_eq_ofLayers, huser, hproject, hoverride] at hload
  obtain ⟨entries, laid, hentries, hlaid, hread⟩ := Layers.of_sole_layer hvariables hload
  obtain ⟨document, hdocument, hreadFile, -⟩ := Settings.of_ofFile hfile
  rw [Layers.entries?_eq_of_ofToml? hdocument] at hentries
  obtain ⟨layer, hlayer, rfl⟩ := Option.map_eq_some_iff.mp hentries
  obtain ⟨sections₁, sections₂, rfl, rfl, hsections⟩ :=
    Data.exists_entries_of_ofToml? (fun _ => rfl) hdocument hlayer
  have hoff := houtside _ hdocument
  exact (Settings.eq_of_read
    (fun field => Layers.find?_of_sole_layer hsections hoff hlaid) hreadFile hread).symm

/-- Surroundings with no other file than one of a project. -/
def ofProject (text : String) : Surroundings Id where
  contents path := if path = "/project/warden.toml" then some text else none
  environment := [("HOME", "/home/user"), ("WARDEN", "1")]

/-- A section as a list, an integer for a float, a dotted key, a date, and a
quoted key that is a path to somewhere else. -/
def mixedDocument : String :=
  "\"sensor\" = [2, 0x1f4]\ngraph.strategy = \"exhaustive\"\nseen = 1979-05-27\n" ++
    "\"sensors.history\" = 5\n[latency]\nsync_delay_ms = 5\n\"sync_period_ms.low\" = 7\n"

theorem load_mixedDocument_eq :
    ∃ fromFile loaded, Settings.ofFile (some mixedDocument) = .ok fromFile ∧
      (ofProject mixedDocument).load "/project" "WARDEN" true = .ok loaded ∧
      fromFile.sensor.calculationInterval = 500 ∧ loaded = fromFile := by
  let settings : Settings := { Settings.standard with
    sensor := { SensorSettings.standard with suspicionDelta := 2, calculationInterval := 500 }
    graph := { GraphSettings.standard with strategy := .exhaustive }
    latency := { LatencySettings.standard with syncDelay := 5 } }
  have hfile : Settings.ofFile (some mixedDocument) = .ok settings :=
    toOption_eq_some_iff.mp (by decide +kernel)
  obtain ⟨loaded, hload⟩ :
      ∃ loaded, (ofProject mixedDocument).load "/project" "WARDEN" true = .ok loaded :=
    exists_eq_ok_of_isSome (by decide +kernel)
  have hproject : (ofProject mixedDocument).contents (Locations.projectFile "/project") =
      some mixedDocument := if_pos (by decide +kernel)
  have hoverride : (ofProject mixedDocument).contents (Locations.overrideFile "/project") = none :=
    if_neg (by decide +kernel)
  exact ⟨settings, loaded, hfile, hload, rfl, load_eq_of_ofFile (by decide +kernel) hproject
    hoverride (by decide +kernel) (by decide +kernel) hfile hload⟩

/-- A quoted key is a path in a layer and a plain key in a file of its own. -/
theorem quoted_path_sets_history :
    ∃ fromFile loaded, Settings.ofFile (some "\"sensor.history\" = 5\n") = .ok fromFile ∧
      (ofProject "\"sensor.history\" = 5\n").load "/project" "WARDEN" true = .ok loaded ∧
      fromFile.sensor.history = 1000 ∧ loaded.sensor.history = 5 := by
  refine ⟨.standard, { Settings.standard with
    sensor := { SensorSettings.standard with history := 5 } }, ?_, ?_, rfl, rfl⟩
  · exact toOption_eq_some_iff.mp (by decide +kernel)
  · exact toOption_eq_some_iff.mp (by decide +kernel)

end Surroundings

end SuspicionMonitor
