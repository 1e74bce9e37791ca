import SuspicionMonitor.Proofs.OverlaidData
import SuspicionMonitor.Settings.Conversion
import SuspicionMonitor.Settings.File

/-!
# The fields of settings

Settings are read field by field: a field has the value of the base, or the one
that its own entry stands for, whatever the other fields are.
-/

namespace SuspicionMonitor

/-- Only dates look different in a file that is read on its own. -/
theorem Data.Alike.eq_of_isScalar {data₁ data₂ : Data}
    (halike : data₁.Alike fileDialect.moment data₂) (hscalar : data₁.isScalar = true) :
    data₂ = data₁ := by
  match halike with
  | .same _ => rfl
  | .moment hmoment =>
      subst hmoment
      contradiction
  | .list _ => contradiction
  | .table _ => contradiction

namespace ScalarRules

variable {data : Data}

theorem isScalar_of_exactInteger {low high value : Int}
    (hread : exactInteger low high data = some value) : data.isScalar = true := by
  cases data <;> first | rfl | contradiction

theorem isScalar_of_exactFloat {value : Float} (hread : exactFloat data = some value) :
    data.isScalar = true := by
  cases data <;> first | rfl | contradiction

theorem convertedSigned_of_exactInteger {low high value : Int}
    (hread : exactInteger low high data = some value) :
    convertedSigned low high data = some value := by
  cases data with
  | integer given => exact hread
  | _ => contradiction

theorem convertedUnsigned_of_exactNatural {high value : Nat}
    (hread : exactNatural high data = some value) :
    convertedUnsigned high data = some value := by
  obtain ⟨whole, hwhole, rfl⟩ := Option.map_eq_some_iff.mp hread
  cases data with
  | integer given =>
      obtain ⟨hrange, hgiven⟩ := Option.ite_none_right_eq_some.mp hwhole
      cases hgiven
      have hnonnegative : 0 ≤ whole ∧ whole ≤ high := by simpa using hrange
      simpa [convertedUnsigned] using hnonnegative
  | _ => contradiction

theorem convertedFloat_of_exactFloat {value : Float} (hread : exactFloat data = some value) :
    convertedFloat data = some value := by
  cases data with
  | float given => exact hread
  | integer given =>
      obtain ⟨-, hvalue⟩ := Option.ite_none_right_eq_some.mp hread
      exact hvalue
  | _ => contradiction

/-- A name, or a table with one name and nothing behind it. -/
theorem convertedStrategy_of_emptyTaggedStrategy {data₁ data₂ : Data}
    {strategy : CandidateStrategy} (halike : data₁.Alike fileDialect.moment data₂)
    (hread : emptyTaggedStrategy data₁ = some strategy) :
    convertedStrategy data₂ = some strategy := by
  match halike with
  | .same hscalar => cases data₁ <;> first | exact hread | contradiction
  | .moment hmoment =>
      subst hmoment
      contradiction
  | .list _ => contradiction
  | .table hentries =>
      match hentries, hread with
      | .cons name _ (.table .nil) .nil, hread => exact hread
      | .cons name _ (.list .nil) .nil, hread => exact hread

end ScalarRules

/-! ## Fields -/

inductive SettingField where
  | suspicionDelta
  | calculationInterval
  | calculationDelay
  | history
  | decayInterval
  | decayRate
  | retention
  | strategy
  | exhaustiveBudget
  | exhaustiveMaxVertices
  | monitoringWindow
  | syncDelay
  | syncPeriod
  | expectationRefresh
  deriving DecidableEq

namespace SettingField

instance : Fintype SettingField where
  elems := {suspicionDelta, calculationInterval, calculationDelay, history, decayInterval,
    decayRate, retention, strategy, exhaustiveBudget, exhaustiveMaxVertices, monitoringWindow,
    syncDelay, syncPeriod, expectationRefresh}
  complete := by
    intro field
    cases field <;> decide

def Value : SettingField → Type
  | suspicionDelta | decayRate => Float
  | calculationInterval | calculationDelay => Int32
  | decayInterval | retention => UInt32
  | strategy => CandidateStrategy
  | history | exhaustiveBudget | exhaustiveMaxVertices | monitoringWindow | syncDelay | syncPeriod
  | expectationRefresh => UInt64

instance : (field : SettingField) → DecidableEq field.Value
  | suspicionDelta | decayRate => inferInstanceAs (DecidableEq Float)
  | calculationInterval | calculationDelay => inferInstanceAs (DecidableEq Int32)
  | decayInterval | retention => inferInstanceAs (DecidableEq UInt32)
  | strategy => inferInstanceAs (DecidableEq CandidateStrategy)
  | history | exhaustiveBudget | exhaustiveMaxVertices | monitoringWindow | syncDelay | syncPeriod
  | expectationRefresh => inferInstanceAs (DecidableEq UInt64)

def get : (field : SettingField) → Settings → field.Value
  | suspicionDelta, settings => settings.sensor.suspicionDelta
  | calculationInterval, settings => settings.sensor.calculationInterval
  | calculationDelay, settings => settings.sensor.calculationDelay
  | history, settings => settings.sensor.history
  | decayInterval, settings => settings.ledger.decayInterval
  | decayRate, settings => settings.ledger.decayRate
  | retention, settings => settings.ledger.retention
  | strategy, settings => settings.graph.strategy
  | exhaustiveBudget, settings => settings.graph.exhaustiveBudget
  | exhaustiveMaxVertices, settings => settings.graph.exhaustiveMaxVertices
  | monitoringWindow, settings => settings.latency.monitoringWindow
  | syncDelay, settings => settings.latency.syncDelay
  | syncPeriod, settings => settings.latency.syncPeriod
  | expectationRefresh, settings => settings.latency.expectationRefresh

/-- The name of the section that has the field. -/
def sectionName : SettingField → String
  | suspicionDelta | calculationInterval | calculationDelay | history => "sensor"
  | decayInterval | decayRate | retention => "aggregator"
  | strategy | exhaustiveBudget | exhaustiveMaxVertices => "graph"
  | monitoringWindow | syncDelay | syncPeriod | expectationRefresh => "latency"

def name : SettingField → String
  | suspicionDelta => "suspicion_delta"
  | calculationInterval => "calculation_interval"
  | calculationDelay => "calculation_delay"
  | history => "history"
  | decayInterval => "decay_interval"
  | decayRate => "decay_rate"
  | retention => "gc_retention"
  | strategy => "strategy"
  | exhaustiveBudget => "exhaustive_budget_ms"
  | exhaustiveMaxVertices => "exhaustive_max_vertices"
  | monitoringWindow => "monitoring_window"
  | syncDelay => "sync_delay_ms"
  | syncPeriod => "sync_period_ms"
  | expectationRefresh => "expectation_refresh_ms"

/-- The names of the fields of its section, in order. -/
def siblings : SettingField → List String
  | suspicionDelta | calculationInterval | calculationDelay | history =>
      ["suspicion_delta", "calculation_interval", "calculation_delay", "history"]
  | decayInterval | decayRate | retention => ["decay_interval", "decay_rate", "gc_retention"]
  | strategy | exhaustiveBudget | exhaustiveMaxVertices =>
      ["strategy", "exhaustive_budget_ms", "exhaustive_max_vertices"]
  | monitoringWindow | syncDelay | syncPeriod | expectationRefresh =>
      ["monitoring_window", "sync_delay_ms", "sync_period_ms", "expectation_refresh_ms"]

def read (rules : ScalarRules) : (field : SettingField) → Data → Option field.Value
  | suspicionDelta | decayRate => rules.float
  | calculationInterval | calculationDelay => rules.int32
  | decayInterval | retention => rules.uint32
  | strategy => rules.strategy
  | history | exhaustiveBudget | exhaustiveMaxVertices | monitoringWindow | syncDelay | syncPeriod
  | expectationRefresh => rules.uint64

/-- A field that a file gives strictly is converted from its layer to the same
value. -/
theorem read_layered_of_alike {field : SettingField} {value : field.Value} {data₁ data₂ : Data}
    (halike : data₁.Alike fileDialect.moment data₂) (hread : field.read .toml data₁ = some value) :
    field.read .layered data₂ = some value := by
  cases field
  case strategy => exact ScalarRules.convertedStrategy_of_emptyTaggedStrategy halike hread
  case suspicionDelta | decayRate =>
    rw [halike.eq_of_isScalar (ScalarRules.isScalar_of_exactFloat hread)]
    exact ScalarRules.convertedFloat_of_exactFloat hread
  case calculationInterval | calculationDelay =>
    obtain ⟨whole, hwhole, rfl⟩ := Option.map_eq_some_iff.mp hread
    rw [halike.eq_of_isScalar (ScalarRules.isScalar_of_exactInteger hwhole)]
    exact congrArg (Option.map _) (ScalarRules.convertedSigned_of_exactInteger hwhole)
  all_goals
    obtain ⟨natural, hnatural, rfl⟩ := Option.map_eq_some_iff.mp hread
    obtain ⟨whole, hwhole, -⟩ := Option.map_eq_some_iff.mp hnatural
    rw [halike.eq_of_isScalar (ScalarRules.isScalar_of_exactInteger hwhole)]
    exact congrArg (Option.map _) (ScalarRules.convertedUnsigned_of_exactNatural hnatural)

/-- How a field of settings comes about: from the data that are given for it, or
from the base. -/
def IsRead (field : SettingField) (rules : ScalarRules) (base : Settings) (given : Option Data)
    (settings : Settings) : Prop :=
  match given with
  | none => field.get settings = field.get base
  | some data => field.read rules data = some (field.get settings)

/-- A field is read from its entry in the data of its section. -/
def IsReadFrom (field : SettingField) (rules : ScalarRules) (base : Settings) (data : Data)
    (settings : Settings) : Prop :=
  ∃ entries, Settings.fields? rules.surplusItems field.siblings data = some entries ∧
    field.IsRead rules base (Data.find? entries field.name) settings

/-- The entries of the section of a field; a section that is missing is
empty. -/
def entries? (field : SettingField) (surplusItems : Bool) (sections : List (String × Data)) :
    Option (List (String × Data)) :=
  Settings.fields? surplusItems field.siblings
    ((Data.find? sections field.sectionName).getD (.table []))

end SettingField

namespace Settings

theorem ext_get {settings₁ settings₂ : Settings}
    (hget : ∀ field : SettingField, field.get settings₁ = field.get settings₂) :
    settings₁ = settings₂ := by
  obtain ⟨⟨_, _, _, _⟩, ⟨_, _, _⟩, ⟨_, _, _⟩, ⟨_, _, _, _⟩⟩ := settings₁
  obtain ⟨⟨_, _, _, _⟩, ⟨_, _, _⟩, ⟨_, _, _⟩, ⟨_, _, _, _⟩⟩ := settings₂
  cases hget .suspicionDelta
  cases hget .calculationInterval
  cases hget .calculationDelay
  cases hget .history
  cases hget .decayInterval
  cases hget .decayRate
  cases hget .retention
  cases hget .strategy
  cases hget .exhaustiveBudget
  cases hget .exhaustiveMaxVertices
  cases hget .monitoringWindow
  cases hget .syncDelay
  cases hget .syncPeriod
  cases hget .expectationRefresh
  rfl

theorem field_eq_some_iff {α : Type} {entries : List (String × Data)} {name : String}
    {base value : α} {read : Data → Option α} :
    field entries name base read = some value ↔
      match Data.find? entries name with
      | none => value = base
      | some data => read data = some value := by
  unfold field
  cases Data.find? entries name with
  | none => simp [eq_comm]
  | some data => rfl

/-- A section that is missing is read as an empty one. -/
theorem field_section_eq {α : Type} {sections : List (String × Data)} {name : String} {base : α}
    (read : Data → Option α) (hempty : read (.table []) = some base) :
    field sections name base read = read ((Data.find? sections name).getD (.table [])) := by
  unfold field
  cases Data.find? sections name with
  | none => exact hempty.symm
  | some data => rfl

section

variable {rules : ScalarRules} {base settings : Settings} {data : Data}

/-- A section is read field by field, each field from its own entry. -/
theorem isReadFrom_of_section (fields : List SettingField) {sectionName : String}
    {entries : List (String × Data)}
    (hsection : ∀ field : SettingField, field.sectionName = sectionName →
      field ∈ fields ∧ field.siblings = fields.map SettingField.name)
    (hentries : fields? rules.surplusItems (fields.map SettingField.name) data = some entries)
    (hread : ∀ field ∈ fields,
      Settings.field entries field.name (field.get base) (field.read rules) =
        some (field.get settings))
    (field : SettingField) (hfield : field.sectionName = sectionName) :
    field.IsReadFrom rules base data settings := by
  obtain ⟨hmem, hsiblings⟩ := hsection field hfield
  refine ⟨entries, ?_, field_eq_some_iff.mp (hread field hmem)⟩
  rw [hsiblings]
  exact hentries

theorem isReadFrom_of_readSensor
    (hread : readSensor rules base.sensor data = some settings.sensor) :
    ∀ field : SettingField, field.sectionName = "sensor" →
      field.IsReadFrom rules base data settings := by
  obtain ⟨entries, hentries, hread⟩ := Option.bind_eq_some_iff.mp hread
  obtain ⟨delta, hdelta, hread⟩ := Option.bind_eq_some_iff.mp hread
  obtain ⟨interval, hinterval, hread⟩ := Option.bind_eq_some_iff.mp hread
  obtain ⟨delay, hdelay, hread⟩ := Option.bind_eq_some_iff.mp hread
  obtain ⟨history, hhistory, hread⟩ := Option.bind_eq_some_iff.mp hread
  obtain ⟨sensor, ledger, graph, latency⟩ := settings
  cases hread
  refine isReadFrom_of_section
    [.suspicionDelta, .calculationInterval, .calculationDelay, .history] (by decide) hentries ?_
  simp only [List.forall_mem_cons]
  exact ⟨hdelta, hinterval, hdelay, hhistory, List.forall_mem_nil _⟩

theorem isReadFrom_of_readLedger
    (hread : readLedger rules base.ledger data = some settings.ledger) :
    ∀ field : SettingField, field.sectionName = "aggregator" →
      field.IsReadFrom rules base data settings := by
  obtain ⟨entries, hentries, hread⟩ := Option.bind_eq_some_iff.mp hread
  obtain ⟨interval, hinterval, hread⟩ := Option.bind_eq_some_iff.mp hread
  obtain ⟨rate, hrate, hread⟩ := Option.bind_eq_some_iff.mp hread
  obtain ⟨retention, hretention, hread⟩ := Option.bind_eq_some_iff.mp hread
  obtain ⟨sensor, ledger, graph, latency⟩ := settings
  cases hread
  refine isReadFrom_of_section [.decayInterval, .decayRate, .retention] (by decide) hentries ?_
  simp only [List.forall_mem_cons]
  exact ⟨hinterval, hrate, hretention, List.forall_mem_nil _⟩

theorem isReadFrom_of_readGraph (hread : readGraph rules base.graph data = some settings.graph) :
    ∀ field : SettingField, field.sectionName = "graph" →
      field.IsReadFrom rules base data settings := by
  obtain ⟨entries, hentries, hread⟩ := Option.bind_eq_some_iff.mp hread
  obtain ⟨strategy, hstrategy, hread⟩ := Option.bind_eq_some_iff.mp hread
  obtain ⟨budget, hbudget, hread⟩ := Option.bind_eq_some_iff.mp hread
  obtain ⟨vertices, hvertices, hread⟩ := Option.bind_eq_some_iff.mp hread
  obtain ⟨sensor, ledger, graph, latency⟩ := settings
  cases hread
  refine isReadFrom_of_section [.strategy, .exhaustiveBudget, .exhaustiveMaxVertices]
    (by decide) hentries ?_
  simp only [List.forall_mem_cons]
  exact ⟨hstrategy, hbudget, hvertices, List.forall_mem_nil _⟩

theorem isReadFrom_of_readLatency
    (hread : readLatency rules base.latency data = some settings.latency) :
    ∀ field : SettingField, field.sectionName = "latency" →
      field.IsReadFrom rules base data settings := by
  obtain ⟨entries, hentries, hread⟩ := Option.bind_eq_some_iff.mp hread
  obtain ⟨window, hwindow, hread⟩ := Option.bind_eq_some_iff.mp hread
  obtain ⟨delay, hdelay, hread⟩ := Option.bind_eq_some_iff.mp hread
  obtain ⟨period, hperiod, hread⟩ := Option.bind_eq_some_iff.mp hread
  obtain ⟨refresh, hrefresh, hread⟩ := Option.bind_eq_some_iff.mp hread
  obtain ⟨sensor, ledger, graph, latency⟩ := settings
  cases hread
  refine isReadFrom_of_section
    [.monitoringWindow, .syncDelay, .syncPeriod, .expectationRefresh] (by decide) hentries ?_
  simp only [List.forall_mem_cons]
  exact ⟨hwindow, hdelay, hperiod, hrefresh, List.forall_mem_nil _⟩

/-- Each field is read from its own entry in its own section. -/
theorem isRead_of_read (hread : Settings.read rules base data = some settings) :
    ∃ sections,
      fields? rules.surplusItems ["sensor", "aggregator", "graph", "latency"] data =
        some sections ∧
      ∀ field : SettingField, ∃ entries,
        field.entries? rules.surplusItems sections = some entries ∧
          field.IsRead rules base (Data.find? entries field.name) settings := by
  obtain ⟨sections, hsections, hread⟩ := Option.bind_eq_some_iff.mp hread
  obtain ⟨sensor, hsensor, hread⟩ := Option.bind_eq_some_iff.mp hread
  obtain ⟨ledger, hledger, hread⟩ := Option.bind_eq_some_iff.mp hread
  obtain ⟨graph, hgraph, hread⟩ := Option.bind_eq_some_iff.mp hread
  obtain ⟨latency, hlatency, hread⟩ := Option.bind_eq_some_iff.mp hread
  cases hread
  rw [field_section_eq (readSensor rules base.sensor) rfl] at hsensor
  rw [field_section_eq (readLedger rules base.ledger) rfl] at hledger
  rw [field_section_eq (readGraph rules base.graph) rfl] at hgraph
  rw [field_section_eq (readLatency rules base.latency) rfl] at hlatency
  refine ⟨sections, hsections, ?_⟩
  intro field
  have hsection : field.sectionName = "sensor" ∨ field.sectionName = "aggregator" ∨
      field.sectionName = "graph" ∨ field.sectionName = "latency" := by
    cases field <;> decide
  change field.IsReadFrom rules base ((Data.find? sections field.sectionName).getD (.table []))
    ⟨sensor, ledger, graph, latency⟩
  obtain hsection | hsection | hsection | hsection := hsection
  · rw [hsection]
    exact isReadFrom_of_readSensor hsensor field hsection
  · rw [hsection]
    exact isReadFrom_of_readLedger hledger field hsection
  · rw [hsection]
    exact isReadFrom_of_readGraph hgraph field hsection
  · rw [hsection]
    exact isReadFrom_of_readLatency hlatency field hsection

end

end Settings

end SuspicionMonitor
