import SuspicionMonitor.Decimal.Shortest
import SuspicionMonitor.Settings.Basic

/-!
# Which settings are valid

The first rule that is broken, in a fixed order, is the reason for which
settings are refused.
-/

namespace SuspicionMonitor

inductive InvalidSettings where
  | suspicionDelta (value : Float)
  | calculationInterval
  | history
  | decayInterval
  | decayRate (value : Float)
  | monitoringWindow
  | timerPeriod

def InvalidSettings.reason : InvalidSettings → String
  | suspicionDelta value =>
      "sensor.suspicion_delta must be > 1.0, got " ++ Decimal.shortestText value
  | calculationInterval => "sensor.calculation_interval must be positive"
  | history => "sensor.history must keep at least two rounds"
  | decayInterval => "aggregator.decay_interval must be positive"
  | decayRate value =>
      "aggregator.decay_rate must be a non-negative number, got " ++ Decimal.shortestText value
  | monitoringWindow => "latency.monitoring_window must be positive"
  | timerPeriod => "latency timer periods must be positive"

def InvalidSettings.message (invalid : InvalidSettings) : String :=
  "Invalid configuration: " ++ invalid.reason

def Settings.invalid? (settings : Settings) : Option InvalidSettings :=
  if !(settings.sensor.suspicionDelta > 1.0) then
    some (.suspicionDelta settings.sensor.suspicionDelta)
  else if settings.sensor.calculationInterval ≤ 0 then
    some .calculationInterval
  else if settings.sensor.history < 2 then
    some .history
  else if settings.ledger.decayInterval = 0 then
    some .decayInterval
  else if !(settings.ledger.decayRate ≥ 0.0 && settings.ledger.decayRate.isFinite) then
    some (.decayRate settings.ledger.decayRate)
  else if settings.latency.monitoringWindow = 0 then
    some .monitoringWindow
  else if settings.latency.syncPeriod = 0 || settings.latency.expectationRefresh = 0 then
    some .timerPeriod
  else
    none

def Settings.validate (settings : Settings) : Except InvalidSettings Settings :=
  match settings.invalid? with
  | some invalid => .error invalid
  | none => .ok settings

end SuspicionMonitor
