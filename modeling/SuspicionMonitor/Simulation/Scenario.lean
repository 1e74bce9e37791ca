import SuspicionMonitor.Cluster
import SuspicionMonitor.Random.ChaCha
import SuspicionMonitor.Random.Sample

/-!
# Liars in a full replica set

Liars accuse honest replicas of slowness.  The accused answer, each pair
becomes mutually suspicious, and every replica should exclude it from the same
candidate set.
-/

namespace SuspicionMonitor

inductive ScenarioError where
  | tooManyLiars (liars f : Nat)
  | view (cause : ViewError)
  | replica (cause : MonitorError)
  | noLatencies (id : ReplicaId)
  | unsettled

def ScenarioError.message : ScenarioError → String
  | tooManyLiars liars f =>
      toString liars ++ " liars exceed the fault bound f = " ++ toString f
  | view cause => cause.message
  | replica cause => cause.message
  | noLatencies id => "replica " ++ toString id.toNat ++ " has no latency matrices"
  | unsettled =>
      "ordering did not settle after " ++ toString Cluster.settleLimit ++ " instances"

structure Accusation where
  liar : ReplicaId
  victim : ReplicaId
  deriving DecidableEq

structure ScenarioReport where
  view : View
  seed : UInt64
  accusations : List Accusation
  instances : Round
  edges : List Edge
  candidates : List ReplicaId
  agreed : Bool
  deriving DecidableEq

/-- A cluster for a view that never changes. -/
structure Scenario where
  view : View
  cluster : Cluster

namespace Scenario

def ofSettings (n f : Nat) (settings : Settings) : Except ScenarioError Scenario := do
  let view ← (View.ofCounts n f).mapError ScenarioError.view
  let cluster ← (Cluster.ofSettings view settings).mapError ScenarioError.replica
  return { view, cluster }

/-- The latencies of votes and of proposals in a scenario. -/
def writeLatency : Nanos := 1000000
def proposeLatency : Nanos := 2000000

/-- The round in which liars claim to have seen a delay. -/
def accusedRound : Round := 5

/-- Arms replicas one after the other, up to the first without latencies. -/
def armReplicas : List Replica → Logged (List Replica × Except ScenarioError Unit)
  | [] => return ([], .ok ())
  | replica :: rest => do
      let (replica, armed) ← replica.refreshExpectation 0
      if armed then
        let (rest, outcome) ← armReplicas rest
        return (replica :: rest, outcome)
      else
        return (replica :: rest, .error (.noLatencies replica.id))

/-- Gives all replicas latencies to expect from each other. -/
def arm (scenario : Scenario) : Logged (Scenario × Except ScenarioError Unit) := do
  let (cluster, _) ← scenario.cluster.onEach fun replica => do
    let peers := scenario.view.replicas
    let replica := Cluster.recordUniform writeLatency proposeLatency replica peers
    replica.disseminate
    return (replica, ())
  let (cluster, _) ← cluster.deliver
  let (replicas, outcome) ← armReplicas cluster.replicas
  return ({ scenario with cluster := { cluster with replicas } }, outcome)

def settle (scenario : Scenario) : Logged (Scenario × Except ScenarioError Unit) := do
  let (cluster, _) ← scenario.cluster.settle
  return ({ scenario with cluster },
    if cluster.pending.isEmpty then .ok () else .error .unsettled)

/-- Draws liars, and for each of them, in ascending order, an honest victim.
If nobody is honest there are no accusations. -/
def drawAccusations {σ : Type} [WordSource σ] (n liars : Nat) : StateM σ (List Accusation) := do
  let sampled ← Random.sample n (min liars n)
  let chosen := (List.range n).filter sampled.contains
  let honest := (List.range n).filter fun id => !sampled.contains id
  if honest.isEmpty then
    return []
  else
    chosen.mapM fun liar => do
      let index ← Random.below64 honest.length
      return ⟨UInt32.ofNat liar, UInt32.ofNat (honest[index]?.getD 0)⟩

def Accusation.suspicion (accusation : Accusation) : Suspicion where
  round := accusedRound
  phase := .write
  kind := .slow
  suspect := accusation.victim
  reporter := accusation.liar

/-- Lets liars drawn from the source accuse honest replicas. -/
def accuse {σ : Type} [WordSource σ] (scenario : Scenario) (liars : Nat) (source : σ) :
    Logged (Scenario × List Accusation) := do
  let (accusations, _) := drawAccusations scenario.view.n liars source
  let cluster ← accusations.foldlM
    (fun (cluster : Cluster) accusation =>
      cluster.publish accusation.liar (Accusation.suspicion accusation))
    scenario.cluster
  return ({ scenario with cluster }, accusations)

def candidateSets (scenario : Scenario) : Logged (List (Option (List ReplicaId))) :=
  scenario.cluster.replicas.mapM Replica.candidateSet?

/-- The edges at the first replica. -/
def edges (scenario : Scenario) : List Edge :=
  match scenario.cluster.replicas with
  | [] => []
  | replica :: _ => replica.ledger.graph.edges.map Prod.fst

/-! ## The whole run -/

def report (scenario : Scenario) (seed : UInt64) (accusations : List Accusation)
    (sets : List (Option (List ReplicaId))) : ScenarioReport where
  view := scenario.view
  seed
  accusations
  instances := scenario.cluster.nextRound.minus 1
  edges := scenario.edges
  candidates := (sets.head?.join).getD []
  agreed := sets.all (· == sets.head?.join)

/-- Arms a fresh cluster, lets liars accuse, settles, and compares the
candidates. -/
def run (n f liars : Nat) (seed : UInt64) (settings : Settings) :
    Logged (Except ScenarioError ScenarioReport) := do
  if f < liars then
    return .error (.tooManyLiars liars f)
  else
    match ofSettings n f settings with
    | .error error => return .error error
    | .ok scenario =>
        match ← scenario.arm with
        | (_, .error error) => return .error error
        | (scenario, .ok ()) =>
            let (scenario, accusations) ←
              scenario.accuse liars (ChaCha.Generator.ofSeed seed)
            match ← scenario.settle with
            | (_, .error error) => return .error error
            | (scenario, .ok ()) =>
                let sets ← scenario.candidateSets
                return .ok (scenario.report seed accusations sets)

end Scenario

end SuspicionMonitor
