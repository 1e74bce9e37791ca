import SuspicionMonitor.DecodeError
import SuspicionMonitor.Settings.Validation
import SuspicionMonitor.View

/-!
# Failures of a monitor
-/

namespace SuspicionMonitor

/-- A whole number of milliseconds, in seconds from one second on. -/
def durationText (milliseconds : Nat) : String :=
  if milliseconds = 0 then "0ns"
  else if milliseconds < 1000 then toString milliseconds ++ "ms"
  else Decimal.positionalText milliseconds (-3) ++ "s"

inductive MonitorError where
  | decode (cause : DecodeError)
  | dimensions (expected actual : Nat)
  | searchTimeout (milliseconds : Nat)
  | invalidView (cause : ViewError)
  | notAMember (id : ReplicaId) (view : View)
  | invalidSettings (cause : InvalidSettings)

def MonitorError.message : MonitorError → String
  | decode cause => "failed to decode measurement: " ++ cause.message
  | dimensions expected actual =>
      "latency matrices sized for " ++ toString actual ++ " replicas, view has " ++
        toString expected
  | searchTimeout milliseconds =>
      "exhaustive candidate search exceeded its budget of " ++ durationText milliseconds
  | invalidView cause => "invalid view: " ++ cause.message
  | notAMember id view =>
      "replica " ++ toString id.toNat ++ " is not a member of view " ++ view.text
  | invalidSettings cause => "invalid configuration: " ++ cause.message

end SuspicionMonitor
