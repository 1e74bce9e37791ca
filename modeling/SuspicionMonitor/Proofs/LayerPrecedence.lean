import SuspicionMonitor.Proofs.LayeredSettings

/-!
# The highest layer decides

Each field of layered settings has the value that the highest layer with such a
field gives it, and its standard value if no layer gives one.  What the layers
say about other fields does not matter.
-/

namespace SuspicionMonitor

theorem findSome?_cons_eq_or {α β : Type} (choose : α → Option β) (first : α) (rest : List α) :
    (first :: rest).findSome? choose = (choose first).or (rest.findSome? choose) := by
  cases hfirst : choose first <;> simp [hfirst]

namespace SettingField

variable {field : SettingField}

/-- What an entry gives a field, as a part of its section or at a path of its
own. -/
def entryData? (field : SettingField) (entry : String × Data) : Option Data :=
  match PathStep.ofKey entry.1 with
  | [.key topic] =>
      if topic = field.sectionName then Data.find? entry.2.entriesOf field.name else none
  | [.key topic, .key name] =>
      if topic = field.sectionName ∧ name = field.name then some entry.2 else none
  | _ => none

/-- What a layer gives a field; later entries are laid over earlier ones. -/
def data? (field : SettingField) (layer : List (String × Data)) : Option Data :=
  layer.reverse.findSome? field.entryData?

/-- The value that a layer gives a field; nothing is converted for it. -/
def value? (field : SettingField) (layer : List (String × Data)) : Option field.Value :=
  (field.data? layer).bind (field.read .toml)

/-- Whether an entry leaves the section of a field a table, and puts nothing
below the field. -/
def keepsSection (field : SettingField) (entry : String × Data) : Bool :=
  match PathStep.ofKey entry.1 with
  | [.key topic] =>
      topic != field.sectionName ||
        match entry.2 with
        | .table _ => true
        | _ => false
  | .key topic :: .key name :: _ :: _ => topic != field.sectionName || name != field.name
  | .key topic :: .index _ :: _ => topic != field.sectionName
  | _ => true

/-- Whether data are a scalar of the type of a field. -/
def fits (field : SettingField) (data : Data) : Bool :=
  data.isScalar && (field.read .toml data).isSome

/-- Whether an entry that has to do with a field gives its section as a table,
and the field itself as a scalar of its type. -/
def isPlain (field : SettingField) (entry : String × Data) : Bool :=
  field.keepsSection entry && (field.entryData? entry).all field.fits

/-- The section of a field is a table with this entry for the field. -/
def Holds (field : SettingField) (data : Data) (given : Option Data) : Prop :=
  ∃ entries, (Data.find? data.entriesOf field.sectionName).getD (.table []) = .table entries ∧
    Data.find? entries field.name = given

end SettingField

namespace Data

def HasDistinctKeys (data : Data) : Prop :=
  ∀ entries, data = .table entries → (entries.map Prod.fst).Nodup

theorem hasDistinctKeys_of_isScalar {data : Data} (hscalar : data.isScalar = true) :
    data.HasDistinctKeys := by
  rintro entries rfl
  contradiction

theorem Alike.hasDistinctKeys {moment : String → Data} {data₁ data₂ : Data}
    (halike : data₁.Alike moment data₂) : data₂.HasDistinctKeys := by
  intro entries hdata
  match halike with
  | .same hscalar => exact hasDistinctKeys_of_isScalar hscalar entries hdata
  | .moment _ => contradiction
  | .list _ => contradiction
  | .table hentries =>
      cases hdata
      rw [← hentries.map_fst_eq]
      exact hentries.nodup_keys

theorem EntriesAlike.hasDistinctKeys {moment : String → Data}
    {entries₁ entries₂ : List (String × Data)} (hentries : EntriesAlike moment entries₁ entries₂) :
    ∀ entry ∈ entries₂, entry.2.HasDistinctKeys := by
  match hentries with
  | .nil => simp
  | .cons key _ hdata hrest =>
      rw [List.forall_mem_cons]
      exact ⟨hdata.hasDistinctKeys, hrest.hasDistinctKeys⟩

end Data

namespace Layers

theorem hasDistinctKeys_of_entries? {text : String} {entries : List (String × Data)}
    (hentries : entries? text = some entries) : ∀ entry ∈ entries, entry.2.HasDistinctKeys := by
  obtain ⟨document, hdocument, rfl⟩ := Option.map_eq_some_iff.mp hentries
  obtain ⟨entries₁, entries₂, -, rfl, halike⟩ :=
    Data.exists_entries_of_ofToml? (fun _ => rfl) hdocument hdocument
  exact halike.hasDistinctKeys

theorem isScalar_variableValue (text : String) : (variableValue text).isScalar = true := by
  unfold variableValue
  dsimp only
  split
  · rfl
  split
  · rfl
  split
  · rfl
  split <;> rfl

theorem hasDistinctKeys_of_mem_variableEntries {start : String}
    {environment : List (String × String)} :
    ∀ entry ∈ variableEntries start environment, entry.2.HasDistinctKeys := by
  intro entry hmem
  obtain ⟨⟨name, text⟩, -, hentry⟩ := List.mem_filterMap.mp hmem
  obtain ⟨path, -, rfl⟩ := Option.map_eq_some_iff.mp hentry
  exact Data.hasDistinctKeys_of_isScalar (isScalar_variableValue text)

theorem hasDistinctKeys_of_mem_fileEntries {contents : Option String} :
    ∀ entry ∈ fileEntries contents, entry.2.HasDistinctKeys := by
  intro entry hmem
  unfold fileEntries at hmem
  cases hentries : contents.bind entries? with
  | none =>
      rw [hentries] at hmem
      contradiction
  | some entries =>
      rw [hentries] at hmem
      obtain ⟨text, -, hentries⟩ := Option.bind_eq_some_iff.mp hentries
      exact hasDistinctKeys_of_entries? hentries entry hmem

end Layers

namespace SettingField

variable {field : SettingField} {data : Data} {given : Option Data} {entry : String × Data}

theorem holds_nil : field.Holds (.table []) none := ⟨[], rfl, rfl⟩

theorem fits_of_entryData? {upper : Data} (hplain : field.isPlain entry = true)
    (hupper : field.entryData? entry = some upper) : field.fits upper = true := by
  rw [isPlain, hupper, Bool.and_eq_true] at hplain
  exact hplain.2

theorem isScalar_of_fits (hfits : field.fits data = true) : data.isScalar = true := by
  rw [fits, Bool.and_eq_true] at hfits
  exact hfits.1

theorem exists_read_of_fits (hfits : field.fits data = true) :
    ∃ value, field.read .toml data = some value := by
  rw [fits, Bool.and_eq_true] at hfits
  exact Option.isSome_iff_exists.mp hfits.2

/-! ## One layer -/

theorem Holds.entriesOf_getD {given : Option Data} (hholds : field.Holds data given) :
    Data.find? ((Data.find? data.entriesOf field.sectionName).getD .null).entriesOf field.name =
      given := by
  obtain ⟨entries, hsection, hgiven⟩ := hholds
  cases hfound : Data.find? data.entriesOf field.sectionName with
  | none =>
      rw [hfound] at hsection
      cases hsection
      exact hgiven
  | some found =>
      rw [hfound] at hsection
      cases hsection
      exact hgiven

/-- A section as a table is laid over the section that there is. -/
theorem Holds.overlay_table {upper : List (String × Data)} (hholds : field.Holds data given)
    (hnodup : (upper.map Prod.fst).Nodup)
    (hfits : ∀ value ∈ Data.find? upper field.name, field.fits value = true) :
    field.Holds (Data.changeAt (Data.overlay (.table upper)) [.key field.sectionName] data)
      ((Data.find? upper field.name).or given) := by
  refine ⟨_, by rw [Data.find?_changeAt, if_pos rfl]; rfl, ?_⟩
  rw [Data.find?_overlayEntries hnodup, hholds.entriesOf_getD]
  cases hupper : Data.find? upper field.name with
  | none => rfl
  | some value =>
      dsimp only
      rw [Data.overlay_of_isScalar (isScalar_of_fits (hfits value hupper))]
      rfl

/-- What is changed below a key of the section is seen under that key only. -/
theorem Holds.changeAt_below (hholds : field.Holds data given) (change : Data → Data)
    (name : String) (path : List PathStep) :
    field.Holds (Data.changeAt change (.key field.sectionName :: .key name :: path) data)
      (if field.name = name then some (Data.changeAt change path (given.getD .null))
        else given) := by
  refine ⟨_, by rw [Data.find?_changeAt, if_pos rfl]; rfl, ?_⟩
  rw [Data.find?_changeEntry]
  split
  next hname => rw [← hname, hholds.entriesOf_getD]
  next => rw [hholds.entriesOf_getD]

theorem entryData?_of_ne {topic : String} {path : List PathStep}
    (hpath : PathStep.ofKey entry.1 = .key topic :: path) (htopic : topic ≠ field.sectionName) :
    field.entryData? entry = none := by
  rw [entryData?, hpath]
  match path with
  | [] => exact if_neg htopic
  | [.key _] => exact if_neg fun hboth => htopic hboth.1
  | .key _ :: _ :: _ => rfl
  | .index _ :: _ => rfl

theorem Holds.changeAt_other (hholds : field.Holds data given) (change : Data → Data)
    {topic : String} (htopic : topic ≠ field.sectionName) (path : List PathStep) :
    field.Holds (Data.changeAt change (.key topic :: path) data) given := by
  obtain ⟨entries, hsection, hgiven⟩ := hholds
  refine ⟨entries, ?_, hgiven⟩
  rwa [Data.find?_changeAt, if_neg (Ne.symm htopic)]

theorem Holds.changeAt (hholds : field.Holds data given) (hplain : field.isPlain entry = true)
    (hkeys : entry.2.HasDistinctKeys) :
    field.Holds (Data.changeAt (Data.overlay entry.2) (PathStep.ofKey entry.1) data)
      ((field.entryData? entry).or given) := by
  have hfits : ∀ upper ∈ field.entryData? entry, field.fits upper = true :=
    fun upper hupper => fits_of_entryData? hplain hupper
  have hkeeps : field.keepsSection entry = true := (Bool.and_eq_true_iff.mp hplain).1
  obtain ⟨topic, path, hpath⟩ := PathStep.exists_ofKey_eq entry.1
  by_cases htopic : topic = field.sectionName
  case neg =>
    -- Another section: the entry neither gives the field nor changes it.
    rw [entryData?_of_ne hpath htopic, hpath]
    exact hholds.changeAt_other _ htopic path
  subst htopic
  unfold entryData? at hfits ⊢
  unfold keepsSection at hkeeps
  rw [hpath] at hfits hkeeps ⊢
  match path with
  | [] =>
      simp only [bne_self_eq_false, Bool.false_or] at hkeeps
      simp only [if_true] at hfits ⊢
      split at hkeeps
      next upper hupper =>
        rw [hupper] at hfits ⊢
        exact hholds.overlay_table (hkeys upper hupper) hfits
      next => contradiction
  | .index position :: path => simp at hkeeps
  | [.key name] =>
      have hlaid := hholds.changeAt_below (Data.overlay entry.2) name []
      simp only [true_and] at hfits ⊢
      by_cases hname : name = field.name
      · rw [if_pos hname] at hfits ⊢
        rw [if_pos hname.symm, Data.changeAt,
          Data.overlay_of_isScalar (isScalar_of_fits (hfits _ rfl))] at hlaid
        exact hlaid
      · rw [if_neg hname]
        rwa [if_neg (Ne.symm hname)] at hlaid
  | .key name :: step :: path =>
      have hlaid := hholds.changeAt_below (Data.overlay entry.2) name (step :: path)
      -- Such a path would make a table of the field.
      have hname : field.name ≠ name := by
        rintro rfl
        simp at hkeeps
      rwa [if_neg hname] at hlaid

theorem data?_cons (entry : String × Data) (layer : List (String × Data)) :
    field.data? (entry :: layer) = (field.data? layer).or (field.entryData? entry) := by
  rw [data?, List.reverse_cons, List.findSome?_append, findSome?_cons_eq_or, List.findSome?_nil,
    Option.or_none]
  rfl

theorem Holds.overlayPaths? {layer : List (String × Data)} {laid : Data}
    (hholds : field.Holds data given)
    (hplain : ∀ entry ∈ layer, field.isPlain entry = true)
    (hkeys : ∀ entry ∈ layer, entry.2.HasDistinctKeys)
    (hlaid : Data.overlayPaths? layer data = some laid) :
    field.Holds laid ((field.data? layer).or given) := by
  induction layer generalizing data given with
  | nil =>
      obtain rfl := Option.some.inj hlaid
      exact hholds
  | cons entry layer ih =>
      have hstep := hholds.changeAt (hplain entry List.mem_cons_self) (hkeys entry List.mem_cons_self)
      rw [data?_cons, Option.or_assoc]
      exact ih hstep (fun other hother => hplain other (List.mem_cons_of_mem _ hother))
        (fun other hother => hkeys other (List.mem_cons_of_mem _ hother))
        (Data.overlayPaths?_cons hlaid)

end SettingField

/-! ## All layers -/

namespace Surroundings

/-- The layers of settings, the highest first. -/
def layers (surroundings : Surroundings Id) (directory start : String) (withUser : Bool) :
    List (List (String × Data)) :=
  [ Layers.variableEntries start surroundings.environment,
    Layers.fileEntries (surroundings.contents (Locations.overrideFile directory)),
    Layers.fileEntries (surroundings.contents (Locations.projectFile directory)),
    Layers.fileEntries (surroundings.userContents withUser) ]

end Surroundings

namespace SettingField

variable {field : SettingField}

theorem fits_of_data? {layer : List (String × Data)} {data : Data}
    (hplain : ∀ entry ∈ layer, field.isPlain entry = true) (hdata : field.data? layer = some data) :
    field.fits data = true := by
  obtain ⟨entry, hmem, hentry⟩ := List.exists_of_findSome?_eq_some hdata
  exact fits_of_entryData? (hplain entry (List.mem_reverse.mp hmem)) hentry

theorem findSome?_value? {layers : List (List (String × Data))}
    (hplain : ∀ layer ∈ layers, ∀ entry ∈ layer, field.isPlain entry = true) :
    layers.findSome? field.value? = (layers.findSome? field.data?).bind (field.read .toml) := by
  induction layers with
  | nil => rfl
  | cons layer layers ih =>
      have hrest := ih fun other hother => hplain other (List.mem_cons_of_mem _ hother)
      cases hdata : field.data? layer with
      | none => simp [value?, hdata, hrest]
      | some data =>
          obtain ⟨value, hvalue⟩ :=
            exists_read_of_fits (fits_of_data? (hplain layer List.mem_cons_self) hdata)
          simp [value?, hdata, hvalue]

theorem Holds.isRead {laid : List (String × Data)} {given : Option Data} {settings : Settings}
    (hholds : field.Holds (.table laid) given)
    (hread : Settings.read .layered .standard (.table laid) = some settings) :
    field.IsRead .layered .standard given settings := by
  obtain ⟨sections, hsections, hfields⟩ := Settings.isRead_of_read hread
  cases hsections
  obtain ⟨entries, hentries, hfield⟩ := hfields field
  obtain ⟨held, hsection, rfl⟩ := hholds
  rw [Data.entriesOf] at hsection
  rw [SettingField.entries?, hsection] at hentries
  cases hentries
  exact hfield

end SettingField

namespace Surroundings

variable {surroundings : Surroundings Id} {directory start : String} {withUser : Bool}
  {settings : Settings}

theorem exists_laid_of_load
    (hload : surroundings.load directory start withUser = .ok settings) :
    ∃ user project override laid,
      Data.overlayPaths? (Layers.fileEntries (surroundings.userContents withUser)) (.table []) =
        some (.table user) ∧
      Data.overlayPaths?
        (Layers.fileEntries (surroundings.contents (Locations.projectFile directory)))
        (.table user) = some (.table project) ∧
      Data.overlayPaths?
        (Layers.fileEntries (surroundings.contents (Locations.overrideFile directory)))
        (.table project) = some (.table override) ∧
      Data.overlayPaths? (Layers.variableEntries start surroundings.environment)
        (.table override) = some (.table laid) ∧
      Settings.read .layered .standard (.table laid) = some settings ∧
      settings.invalid? = none := by
  rw [load_eq_ofLayers] at hload
  obtain ⟨data, laid, hfiles, hlaid, hread, hvalid⟩ := Layers.of_ofLayers hload
  rw [List.foldlM_append] at hfiles
  obtain ⟨user, huser, hfiles⟩ := bind_eq_ok_iff.mp hfiles
  rw [List.foldlM_append] at hfiles
  obtain ⟨project, hproject, hoverride⟩ := bind_eq_ok_iff.mp hfiles
  have huser' := Layers.of_foldlM_layFile huser
  obtain ⟨user, rfl⟩ := Data.exists_table_of_overlayPaths? huser'
  have hproject' := Layers.of_foldlM_layFile hproject
  obtain ⟨project, rfl⟩ := Data.exists_table_of_overlayPaths? hproject'
  have hoverride' := Layers.of_foldlM_layFile hoverride
  obtain ⟨override, rfl⟩ := Data.exists_table_of_overlayPaths? hoverride'
  obtain ⟨laid, rfl⟩ := Data.exists_table_of_overlayPaths? hlaid
  exact ⟨user, project, override, laid, huser', hproject', hoverride', hlaid, hread, hvalid⟩

theorem isRead_of_load {field : SettingField}
    (hload : surroundings.load directory start withUser = .ok settings)
    (hplain : ∀ layer ∈ surroundings.layers directory start withUser,
      ∀ entry ∈ layer, field.isPlain entry = true) :
    field.IsRead .layered .standard
      ((surroundings.layers directory start withUser).findSome? field.data?) settings := by
  obtain ⟨user, project, override, laid, huser, hproject, hoverride, hlaid, hread, -⟩ :=
    exists_laid_of_load hload
  have huserHolds : field.Holds (.table user) _ :=
    SettingField.holds_nil.overlayPaths? (hplain _ (by simp [layers]))
      Layers.hasDistinctKeys_of_mem_fileEntries huser
  have hprojectHolds := huserHolds.overlayPaths? (hplain _ (by simp [layers]))
    Layers.hasDistinctKeys_of_mem_fileEntries hproject
  have hoverrideHolds := hprojectHolds.overlayPaths? (hplain _ (by simp [layers]))
    Layers.hasDistinctKeys_of_mem_fileEntries hoverride
  have hlaidHolds := hoverrideHolds.overlayPaths? (hplain _ (by simp [layers]))
    Layers.hasDistinctKeys_of_mem_variableEntries hlaid
  have hgiven := hlaidHolds.isRead hread
  simpa only [layers, findSome?_cons_eq_or, List.findSome?_nil] using hgiven

theorem get_eq_of_load {field : SettingField}
    (hload : surroundings.load directory start withUser = .ok settings)
    (hplain : ∀ layer ∈ surroundings.layers directory start withUser,
      ∀ entry ∈ layer, field.isPlain entry = true) :
    field.get settings =
      ((surroundings.layers directory start withUser).findSome? field.value?).getD
        (field.get .standard) := by
  have hread := isRead_of_load hload hplain
  rw [SettingField.findSome?_value? hplain]
  cases hgiven : (surroundings.layers directory start withUser).findSome? field.data? with
  | none =>
      rw [hgiven] at hread
      exact hread
  | some data =>
      rw [hgiven] at hread
      obtain ⟨layer, hmem, hdata⟩ := List.exists_of_findSome?_eq_some hgiven
      have hfits := SettingField.fits_of_data? (hplain layer hmem) hdata
      obtain ⟨value, hvalue⟩ := SettingField.exists_read_of_fits hfits
      have hconverted := field.read_layered_of_alike
        (.same (SettingField.isScalar_of_fits hfits)) hvalue
      rw [Option.bind_some, hvalue]
      exact Option.some.inj (hread.symm.trans hconverted)

theorem invalid?_of_load (hload : surroundings.load directory start withUser = .ok settings) :
    settings.invalid? = none := by
  rw [load_eq_ofLayers] at hload
  obtain ⟨_, _, _, _, _, hvalid⟩ := Layers.of_ofLayers hload
  exact hvalid

theorem invalid?_loadOrStandard (surroundings : Surroundings Id) (directory start : String)
    (withUser : Bool) :
    Settings.invalid? (surroundings.loadOrStandard directory start withUser) = none := by
  change Settings.invalid? ((surroundings.load directory start withUser).toOption.getD .standard) =
    none
  cases hload : surroundings.load directory start withUser with
  | error cause => exact Settings.invalid?_standard
  | ok settings => exact invalid?_of_load hload

/-- The layers, as far as they are plain, decide each field on its own, and
what is loaded is valid. -/
theorem load_takes_fields_from_highest_layers (surroundings : Surroundings Id)
    (directory start : String) (withUser : Bool) :
    (∀ settings, surroundings.load directory start withUser = .ok settings →
      settings.invalid? = none ∧
      ∀ field : SettingField,
        (∀ layer ∈ surroundings.layers directory start withUser,
          ∀ entry ∈ layer, field.isPlain entry = true) →
        field.get settings =
          ((surroundings.layers directory start withUser).findSome? field.value?).getD
            (field.get .standard)) ∧
    Settings.invalid? (surroundings.loadOrStandard directory start withUser) = none ∧
    ∀ text settings, Settings.ofFile text = .ok settings → settings.invalid? = none := by
  refine ⟨?_, invalid?_loadOrStandard surroundings directory start withUser, ?_⟩
  · intro settings hload
    exact ⟨invalid?_of_load hload, fun field hplain => get_eq_of_load hload hplain⟩
  · intro text settings hfile
    cases text with
    | none => contradiction
    | some text =>
        obtain ⟨_, _, _, hvalid⟩ := Settings.of_ofFile hfile
        exact hvalid

/-- Surroundings in which all four layers set the history. -/
def ofFourLayers : Surroundings Id where
  contents path :=
    if path = "/home/user/.config/warden/config.toml" then
      some "sensor.history = 10\n[graph]\nstrategy = \"exhaustive\"\n[latency]\nsync_delay_ms = 1\n"
    else if path = "/project/warden.toml" then
      some "[sensor]\nhistory = 20\nsuspicion_delta = 3\n"
    else if path = "/project/warden.local.toml" then
      some "\"latency.sync_delay_ms\" = 2\n[sensor]\nhistory = 30\n"
    else
      none
  environment := [("HOME", "/home/user"), ("WARDEN_SENSOR__HISTORY", "40")]

theorem ofFourLayers_fields :
    ∃ settings, ofFourLayers.load "/project" "WARDEN" true = .ok settings ∧
      settings.sensor.history = 40 ∧ settings.sensor.suspicionDelta = 3 ∧
      settings.graph.strategy = .exhaustive ∧ settings.latency.syncDelay = 2 ∧
      settings.latency.syncPeriod = 10000 := by
  let expected : Settings := { Settings.standard with
    sensor := { SensorSettings.standard with suspicionDelta := 3, history := 40 }
    graph := { GraphSettings.standard with strategy := .exhaustive }
    latency := { LatencySettings.standard with syncDelay := 2 } }
  have hplain : ∀ field : SettingField, ∀ layer ∈ ofFourLayers.layers "/project" "WARDEN" true,
      ∀ entry ∈ layer, field.isPlain entry = true := by
    decide +kernel
  have hvalues : ∀ field : SettingField,
      ((ofFourLayers.layers "/project" "WARDEN" true).findSome? field.value?).getD
        (field.get .standard) = field.get expected := by
    decide +kernel
  obtain ⟨settings, hload⟩ : ∃ settings, ofFourLayers.load "/project" "WARDEN" true = .ok settings :=
    exists_eq_ok_of_isSome (by decide +kernel)
  have hlayers := load_takes_fields_from_highest_layers ofFourLayers "/project" "WARDEN" true
  have hfields (field : SettingField) : field.get settings = field.get expected :=
    ((hlayers.1 settings hload).2 field (hplain field)).trans (hvalues field)
  exact ⟨settings, hload, hfields .history, hfields .suspicionDelta, hfields .strategy,
    hfields .syncDelay, hfields .syncPeriod⟩

def ofVariable (name text : String) : Surroundings Id where
  contents _ := none
  environment := [(name, text)]

/-- An integer of a variable that is too large for a signed word is read as a
float, and rounded. -/
theorem history_of_large_variable :
    Decimal.natural? "9223372036854775809".toList = some 9223372036854775809 ∧
      9223372036854775809 < UInt64.size ∧
      ∃ settings, (ofVariable "WARDEN_SENSOR__HISTORY" "9223372036854775809").load
          "/project" "WARDEN" true = .ok settings ∧
        settings.sensor.history = 9223372036854775808 := by
  refine ⟨by decide +kernel, by decide, { Settings.standard with
    sensor := { SensorSettings.standard with history := 9223372036854775808 } }, ?_, rfl⟩
  exact toOption_eq_some_iff.mp (by decide +kernel)

end Surroundings

end SuspicionMonitor
