import SuspicionMonitor.Settings.Validation
import Mathlib.Tactic

/-!
# Valid settings

Validation asks whether a rule is broken, and for the first one that is.  What
it lets through is described here without that order.
-/

namespace SuspicionMonitor

namespace Settings

/-- The rules that settings have to keep.  Nothing is said of the delay of a
reconfiguration, the limits of the search, the retention of suspicions and the
delay of the first report. -/
structure IsValid (settings : Settings) : Prop where
  suspicionDelta : 1.0 < settings.sensor.suspicionDelta
  calculationInterval : 0 < settings.sensor.calculationInterval
  history : 2 ≤ settings.sensor.history
  decayInterval : settings.ledger.decayInterval ≠ 0
  decayRate : 0.0 ≤ settings.ledger.decayRate
  decayRateFinite : settings.ledger.decayRate.isFinite = true
  monitoringWindow : settings.latency.monitoringWindow ≠ 0
  syncPeriod : settings.latency.syncPeriod ≠ 0
  expectationRefresh : settings.latency.expectationRefresh ≠ 0

theorem invalid?_eq_none_iff {settings : Settings} : settings.invalid? = none ↔ settings.IsValid := by
  unfold invalid?
  constructor
  · intro hvalid
    split_ifs at hvalid with hdelta hinterval hhistory hdecay hrate hwindow hperiods
    simp only [Bool.not_eq_true', Bool.not_eq_false, decide_eq_true_eq, Bool.and_eq_true,
      Bool.or_eq_true, not_or] at hdelta hrate hperiods
    exact ⟨hdelta, Int32.not_le.mp hinterval, UInt64.not_lt.mp hhistory, hdecay, hrate.1, hrate.2,
      hwindow, hperiods.1, hperiods.2⟩
  · intro hvalid
    have hdelta := hvalid.suspicionDelta
    have hinterval := Int32.not_le.mpr hvalid.calculationInterval
    have hhistory := UInt64.not_lt.mpr hvalid.history
    have hrate := hvalid.decayRate
    simp [*, hvalid.decayInterval, hvalid.decayRateFinite, hvalid.monitoringWindow,
      hvalid.syncPeriod, hvalid.expectationRefresh]

theorem validate_eq_ok_iff {settings result : Settings} :
    settings.validate = .ok result ↔ settings.invalid? = none ∧ settings = result := by
  unfold validate
  cases settings.invalid? with
  | none => simp
  | some cause => simp

theorem mapError_validate_eq_ok_iff {ε : Type} {wrap : InvalidSettings → ε}
    {settings result : Settings} :
    settings.validate.mapError wrap = .ok result ↔
      settings.invalid? = none ∧ settings = result := by
  rw [← validate_eq_ok_iff]
  cases settings.validate <;> simp [Except.mapError]

theorem invalid?_standard : standard.invalid? = none := by
  decide

end Settings

end SuspicionMonitor
