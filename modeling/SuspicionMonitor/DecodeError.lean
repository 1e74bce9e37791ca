/-!
# Undecodable payloads

The reasons for which a payload is no measurement.
-/

namespace SuspicionMonitor

inductive DecodeError where
  | truncated (needed available : Nat)
  | trailingBytes (extra : Nat)
  | negativeReplicaCount (count : Int)
  | tooManyReplicas (count : Nat)
  | negativeSuspect (id : Int)
  | unknownKind (code : Int)
  deriving DecidableEq

/-- The most replicas a latency vector may cover, so that a hostile count
cannot make the reader wait for a huge payload. -/
def maxReplicas : Nat := 1024

def DecodeError.message : DecodeError → String
  | .truncated needed available =>
      "truncated payload: needed " ++ toString needed ++ " bytes, got " ++ toString available
  | .trailingBytes extra => toString extra ++ " trailing bytes after measurement"
  | .negativeReplicaCount count => "negative replica count " ++ toString count
  | .tooManyReplicas count =>
      "replica count " ++ toString count ++ " exceeds maximum " ++ toString maxReplicas
  | .negativeSuspect id => "negative suspect id " ++ toString id
  | .unknownKind code => "unknown suspicion kind code " ++ toString code

end SuspicionMonitor
