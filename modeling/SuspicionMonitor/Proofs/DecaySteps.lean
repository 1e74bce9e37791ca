import SuspicionMonitor.Proofs.Reconfiguration
import SuspicionMonitor.Proofs.Retention

/-!
# How far apart decay steps are

The graph of a replica decays with a delivery once the decay interval has
passed since the last step that its ledger remembers.  A change of view makes
the ledger forget the step, but the numbering of the rounds goes on: it counts
from round zero again, and the next delivery is a step if its number alone
reaches the interval.  So the steps are an interval apart as long as the view
is kept, and in every run exactly if the interval is one round at most or as
long as the numbering itself.
-/

namespace SuspicionMonitor

namespace Round

/-- The later round comes at least `gap` rounds after the earlier one. -/
def AreApart (gap : Nat) (earlier later : Round) : Prop :=
  earlier.toInt + gap ≤ later.toInt

instance (gap : Nat) : DecidableRel (AreApart gap) :=
  fun earlier later => inferInstanceAs (Decidable (earlier.toInt + gap ≤ later.toInt))

theorem AreApart.trans {gap : Nat} {first second third : Round}
    (hfirst : AreApart gap first second) (hsecond : AreApart gap second third) :
    AreApart gap first third := by
  unfold AreApart at *
  omega

theorem since_of_le {round earlier : Round} (hnonneg : 0 ≤ earlier.toInt)
    (hle : earlier.toInt ≤ round.toInt) :
    (round.since earlier : Int) = round.toInt - earlier.toInt := by
  have hmin := Int32.toInt_minValue
  have hround := round.toInt_le
  unfold since minus
  rw [Int32.toInt_ofIntClamp (by omega) (by omega)]
  omega

theorem toInt_ofNat {number : Nat} (hnumber : number < 2 ^ 31) :
    Int32.toInt (Int32.ofNat number) = number :=
  Int32.toInt_ofNat_of_lt hnumber

theorem since_zero {number : Nat} (hnumber : number < 2 ^ 31) :
    since (Int32.ofNat number) 0 = number := by
  have hround := toInt_ofNat hnumber
  have hzero := Int32.toInt_zero
  have hsince : (since (Int32.ofNat number) 0 : Int) = (Int32.ofNat number).toInt - Int32.toInt 0 :=
    since_of_le (by omega) (by omega)
  omega

end Round

namespace Ledger

theorem bookkeeping_deliver (ledger : Ledger) (settings : LedgerSettings)
    (round : Round) (values : List Submission) :
    (ledger.deliver settings round values).lastDecay =
        (if round.since ledger.lastDecay < settings.decayInterval.toNat then ledger.lastDecay
          else round) ∧
      (ledger.deliver settings round values).decaySteps =
        (if round.since ledger.lastDecay < settings.decayInterval.toNat then ledger.decaySteps
          else ledger.decaySteps + 1) := by
  rw [deliver_eq_run, value_run_cons, value_run_cons, value_run_cons, value_perform_decay,
    value_perform_build_of_due, value_perform_store, foldl_store_eq]
  split <;> exact ⟨rfl, rfl⟩

theorem lastDecay_notify (ledger : Ledger) (sender : ReplicaId) (payload : Bytes) :
    (ledger.notify sender payload).value.lastDecay = ledger.lastDecay := by
  unfold notify
  split
  next suspicion _ =>
    rw [Logged.value_pure, store_eq]
  next => rfl

end Ledger

def Settings.withDecayInterval (settings : Settings) (decayInterval : UInt32) : Settings :=
  { settings with ledger := { settings.ledger with decayInterval } }

namespace ReplicaCall

def round? : ReplicaCall → Option Round
  | .deliver round _ => some round
  | _ => none

theorem eq_deliver_of_round? {call : ReplicaCall} {round : Round}
    (hround : call.round? = some round) : ∃ values, call = .deliver round values := by
  cases call with
  | deliver other values =>
      obtain rfl : other = round := Option.some.inj hround
      exact ⟨values, rfl⟩
  | _ => contradiction

/-- The deliveries among the calls come in the rounds `first`, `first + 1` and
so on. -/
def AreNumberedFrom : (first : Int) → List ReplicaCall → Prop
  | _, [] => True
  | first, call :: calls =>
      match call.round? with
      | some round => round.toInt = first ∧ AreNumberedFrom (first + 1) calls
      | none => AreNumberedFrom first calls

theorem areNumberedFrom_deliver {first : Int} {round : Round} {values : List Submission}
    {calls : List ReplicaCall} :
    AreNumberedFrom first (.deliver round values :: calls) ↔
      round.toInt = first ∧ AreNumberedFrom (first + 1) calls := Iff.rfl

theorem areNumberedFrom_of_none {first : Int} {call : ReplicaCall} {calls : List ReplicaCall}
    (hnone : call.round? = none) :
    AreNumberedFrom first (call :: calls) ↔ AreNumberedFrom first calls := by
  rw [AreNumberedFrom, hnone]

theorem AreNumberedFrom.cons_cases {first : Int} {call : ReplicaCall} {calls : List ReplicaCall}
    (hnumbered : AreNumberedFrom first (call :: calls)) :
    (∃ round values, call = .deliver round values ∧ round.toInt = first ∧
        AreNumberedFrom (first + 1) calls) ∨
      call.round? = none ∧ AreNumberedFrom first calls := by
  cases hround : call.round? with
  | none => exact Or.inr ⟨rfl, (areNumberedFrom_of_none hround).mp hnumbered⟩
  | some round =>
      obtain ⟨values, rfl⟩ := eq_deliver_of_round? hround
      obtain ⟨hfirst, hrest⟩ := areNumberedFrom_deliver.mp hnumbered
      exact Or.inl ⟨round, values, rfl, hfirst, hrest⟩

end ReplicaCall

namespace Replica

open ReplicaCall

/-- The rounds of a run with whose deliveries the graph decays. -/
def decayRounds (replica : Replica) : List ReplicaCall → List Round
  | [] => []
  | call :: calls =>
      let next := (replica.respond call).value.1
      (if replica.ledger.decaySteps < next.ledger.decaySteps then call.round?.toList else []) ++
        next.decayRounds calls

theorem decayRounds_append (replica : Replica) (before later : List ReplicaCall) :
    replica.decayRounds (before ++ later) =
      replica.decayRounds before ++ (replica.run before).value.1.decayRounds later := by
  induction before generalizing replica with
  | nil => rfl
  | cons call before ih =>
      rw [List.cons_append, decayRounds, ih, decayRounds, run_cons, List.append_assoc]

theorem mem_of_mem_orderedCalls {replica : Replica} {calls : List ReplicaCall}
    {call : ReplicaCall} (hcall : call ∈ replica.orderedCalls calls) : call ∈ calls := by
  obtain ⟨⟨made, answer⟩, hmade, rfl⟩ := List.mem_map.mp hcall
  exact (List.of_mem_zip (List.mem_filter.mp hmade).1).1

theorem ledger_respond_deliver (replica : Replica) (round : Round)
    (values : List Submission) :
    (replica.respond (.deliver round values)).value.1.ledger =
      replica.ledger.deliver replica.settings.ledger round values :=
  congrArg OrderedState.ledger (replica.orderedState_deliver round values)

variable {replica : Replica} {id : ReplicaId} {settings : Settings} {first : Int}

/-- A delivery is a step once the interval has passed since the step that the
ledger remembers. -/
theorem decayRounds_deliver (hwired : replica.IsWired id settings) (round : Round)
    (values : List Submission) (calls : List ReplicaCall) :
    replica.decayRounds (.deliver round values :: calls) =
      (if round.since replica.ledger.lastDecay < settings.ledger.decayInterval.toNat then []
        else [round]) ++
        (replica.respond (.deliver round values)).value.1.decayRounds calls := by
  rw [decayRounds, ledger_respond_deliver, hwired.setUp,
    (Ledger.bookkeeping_deliver _ _ _ _).2]
  split <;> simp [round?]

theorem decayRounds_of_none {call : ReplicaCall} (hnone : call.round? = none)
    (calls : List ReplicaCall) :
    replica.decayRounds (call :: calls) =
      (replica.respond call).value.1.decayRounds calls := by
  rw [decayRounds, hnone]
  simp

theorem lastDecay_deliver (hwired : replica.IsWired id settings) (round : Round)
    (values : List Submission) :
    (replica.respond (.deliver round values)).value.1.ledger.lastDecay =
      if round.since replica.ledger.lastDecay < settings.ledger.decayInterval.toNat then
        replica.ledger.lastDecay
      else round := by
  rw [ledger_respond_deliver, hwired.setUp, (Ledger.bookkeeping_deliver _ _ _ _).1]

/-- No call but a delivery and a change of view touches the remembered step. -/
theorem lastDecay_respond_of_none (replica : Replica) {call : ReplicaCall}
    (hnone : call.round? = none) :
    (replica.respond call).value.1.ledger.lastDecay = replica.ledger.lastDecay ∨
      (∃ view, call = .reconfigure view) ∧ call.isOrdered (replica.respond call).value.2 = true ∧
        (replica.respond call).value.1.ledger.lastDecay = 0 := by
  have hledger := congrArg OrderedState.ledger (replica.orderedState_respond call)
  rw [apply_ite OrderedState.ledger] at hledger
  change (replica.respond call).value.1.ledger = _ at hledger
  split at hledger
  next hordered =>
    rw [hledger]
    cases call with
    | deliver round values => contradiction
    | notify sender payload => exact Or.inl (replica.ledger.lastDecay_notify sender payload)
    | reconfigure view => exact Or.inr ⟨⟨view, rfl⟩, hordered, rfl⟩
    | _ => exact Or.inl rfl
  next =>
    rw [hledger]
    exact Or.inl rfl

/-! ## What a run keeps -/

/-- The step that the ledger remembers lies before the round `first`. -/
structure DecayedBefore (replica : Replica) (first : Int) : Prop where
  nonneg : 0 ≤ replica.ledger.lastDecay.toInt
  lt : replica.ledger.lastDecay.toInt < first

theorem decayedBefore_fresh (id : ReplicaId) (view : View) (settings : Settings) :
    (fresh id view settings).DecayedBefore 1 := by
  have hzero : (fresh id view settings).ledger.lastDecay.toInt = 0 := Int32.toInt_zero
  exact ⟨by omega, by omega⟩

theorem DecayedBefore.deliver (hbefore : replica.DecayedBefore first)
    (hwired : replica.IsWired id settings) {round : Round} (hround : round.toInt = first)
    (values : List Submission) :
    (replica.respond (.deliver round values)).value.1.DecayedBefore (first + 1) := by
  have hnonneg := hbefore.nonneg
  have hlt := hbefore.lt
  constructor <;> rw [lastDecay_deliver hwired] <;> split <;> omega

theorem DecayedBefore.respond_of_none (hbefore : replica.DecayedBefore first)
    {call : ReplicaCall} (hnone : call.round? = none) :
    (replica.respond call).value.1.DecayedBefore first := by
  have hnonneg := hbefore.nonneg
  have hlt := hbefore.lt
  rcases replica.lastDecay_respond_of_none hnone with hkept | ⟨-, -, hzero⟩
  · rw [← hkept] at hnonneg hlt
    exact ⟨hnonneg, hlt⟩
  · rw [← Int32.toInt_inj, Int32.toInt_zero] at hzero
    exact ⟨by omega, by omega⟩

theorem DecayedBefore.areApart_of_due (hbefore : replica.DecayedBefore first) {round : Round}
    (hround : round.toInt = first) {interval : Nat}
    (hdue : ¬ round.since replica.ledger.lastDecay < interval) :
    Round.AreApart interval replica.ledger.lastDecay round := by
  have hlt := hbefore.lt
  have hsince : (round.since replica.ledger.lastDecay : Int) =
      round.toInt - replica.ledger.lastDecay.toInt := Round.since_of_le hbefore.nonneg (by omega)
  unfold Round.AreApart
  omega

theorem DecayedBefore.run (hbefore : replica.DecayedBefore first)
    (hwired : replica.IsWired id settings) {before later : List ReplicaCall}
    (hnumbered : AreNumberedFrom first (before ++ later)) :
    ∃ next, (replica.run before).value.1.DecayedBefore next ∧ AreNumberedFrom next later := by
  induction before generalizing replica first with
  | nil => exact ⟨first, hbefore, hnumbered⟩
  | cons call before ih =>
      rw [run_cons]
      rcases AreNumberedFrom.cons_cases hnumbered with
        ⟨round, values, rfl, hfirst, hrest⟩ | ⟨hnone, hrest⟩
      · exact ih (hbefore.deliver hwired hfirst values) (hwired.respond _) hrest
      · exact ih (hbefore.respond_of_none hnone) (hwired.respond _) hrest

/-- While the view is kept, every step is an interval after the one before it,
the first one after the remembered step. -/
theorem DecayedBefore.pairwise_areApart (hbefore : replica.DecayedBefore first)
    (hwired : replica.IsWired id settings) {calls : List ReplicaCall}
    (hnumbered : AreNumberedFrom first calls)
    (hkept : ∀ view, .reconfigure view ∉ replica.orderedCalls calls) :
    (replica.ledger.lastDecay :: replica.decayRounds calls).Pairwise
      (Round.AreApart settings.ledger.decayInterval.toNat) := by
  induction calls generalizing replica first with
  | nil => exact List.pairwise_singleton _ _
  | cons call calls ih =>
      have hrestKept : ∀ view, .reconfigure view ∉
          (replica.respond call).value.1.orderedCalls calls := by
        intro view hmem
        rw [orderedCalls_cons] at hkept
        exact hkept view (List.mem_append_right _ hmem)
      -- The remembered step heads the list, so the first step to come is held against it.
      rcases AreNumberedFrom.cons_cases hnumbered with
        ⟨round, values, rfl, hfirst, hrest⟩ | ⟨hnone, hrest⟩
      · have hlater := ih (hbefore.deliver hwired hfirst values) (hwired.respond _) hrest
          hrestKept
        rw [lastDecay_deliver hwired] at hlater
        rw [decayRounds_deliver hwired]
        split at hlater
        next hearly =>
          rw [if_pos hearly]
          exact hlater
        next hdue =>
          have hapart := hbefore.areApart_of_due hfirst hdue
          rw [if_neg hdue]
          refine List.pairwise_cons.mpr ⟨?_, hlater⟩
          intro step hstep
          rcases List.mem_cons.mp hstep with rfl | hlaterStep
          · exact hapart
          · exact hapart.trans (List.rel_of_pairwise_cons hlater hlaterStep)
      · have hlater := ih (hbefore.respond_of_none hnone) (hwired.respond _) hrest hrestKept
        rw [decayRounds_of_none hnone]
        rcases replica.lastDecay_respond_of_none hnone with hsame | ⟨⟨view, rfl⟩, hordered, -⟩
        · rwa [hsame] at hlater
        · rw [orderedCalls_cons, if_pos hordered] at hkept
          exact absurd List.mem_cons_self (hkept view)

/-- In every run the steps come one after the other, and none before the
interval has passed since round zero. -/
theorem DecayedBefore.pairwise_ascending (hbefore : replica.DecayedBefore first)
    (hwired : replica.IsWired id settings) {calls : List ReplicaCall}
    (hnumbered : AreNumberedFrom first calls) :
    (∀ round ∈ replica.decayRounds calls, first ≤ round.toInt ∧
        settings.ledger.decayInterval.toNat ≤ round.toInt) ∧
      (replica.decayRounds calls).Pairwise (Round.AreApart 1) := by
  induction calls generalizing replica first with
  | nil => exact ⟨nofun, List.Pairwise.nil⟩
  | cons call calls ih =>
      rcases AreNumberedFrom.cons_cases hnumbered with
        ⟨round, values, rfl, hfirst, hrest⟩ | ⟨hnone, hrest⟩
      · obtain ⟨hbounds, hascending⟩ :=
          ih (hbefore.deliver hwired hfirst values) (hwired.respond _) hrest
        have hlater : ∀ later ∈
            (replica.respond (.deliver round values)).value.1.decayRounds calls,
            first ≤ later.toInt ∧ settings.ledger.decayInterval.toNat ≤ later.toInt :=
          fun later hmem => ⟨by linarith [(hbounds later hmem).1], (hbounds later hmem).2⟩
        rw [decayRounds_deliver hwired]
        split
        next => exact ⟨hlater, hascending⟩
        next hdue =>
          have hnonneg := hbefore.nonneg
          have hapart := hbefore.areApart_of_due hfirst hdue
          unfold Round.AreApart at hapart
          refine ⟨List.forall_mem_cons.mpr ⟨⟨hfirst.ge, by omega⟩, hlater⟩,
            List.pairwise_cons.mpr ⟨fun later hmem => ?_, hascending⟩⟩
          have hbound := (hbounds later hmem).1
          unfold Round.AreApart
          omega
      · rw [decayRounds_of_none hnone]
        exact ih (hbefore.respond_of_none hnone) (hwired.respond _) hrest

/-! ## A step right after another one -/

/-- Deliveries of nothing, in `count` rounds from `first` on. -/
def idleFrom : (first count : Nat) → List ReplicaCall
  | _, 0 => []
  | first, count + 1 => .deliver (Int32.ofNat first) [] :: idleFrom (first + 1) count

/-- The view changes between the first round that the interval allows for a
step and the next round. -/
def hastyRun (view : View) (interval : Nat) : List ReplicaCall :=
  idleFrom 1 (interval - 1) ++
    [.deliver (Int32.ofNat interval) [], .reconfigure view,
      .deliver (Int32.ofNat (interval + 1)) []]

theorem areNumberedFrom_idleFrom {first count : Nat} (hids : first + count ≤ 2 ^ 31)
    (later : List ReplicaCall) :
    AreNumberedFrom first (idleFrom first count ++ later) ↔
      AreNumberedFrom (first + count : Nat) later := by
  induction count generalizing first with
  | zero => rfl
  | succ count ih =>
      have hrest : AreNumberedFrom (first + 1 : Nat) (idleFrom (first + 1) count ++ later) ↔
          AreNumberedFrom (first + 1 + count : Nat) later := ih (by omega)
      rw [idleFrom, List.cons_append, areNumberedFrom_deliver, Round.toInt_ofNat (by omega)]
      simpa [Nat.add_assoc, Nat.add_comm 1] using hrest

theorem areNumberedFrom_hastyRun (view : View) {interval : Nat} (hpos : 1 ≤ interval)
    (hids : interval + 1 < 2 ^ 31) : AreNumberedFrom 1 (hastyRun view interval) := by
  have hidle : 1 + (interval - 1) = interval := by omega
  have hnumbered : AreNumberedFrom (1 : Nat) (hastyRun view interval) := by
    refine (areNumberedFrom_idleFrom (by omega) _).mpr ?_
    rw [hidle, areNumberedFrom_deliver, areNumberedFrom_of_none rfl, areNumberedFrom_deliver,
      Round.toInt_ofNat (by omega), Round.toInt_ofNat hids]
    exact ⟨rfl, rfl, trivial⟩
  exact hnumbered

theorem lastDecay_run_idleFrom (hwired : replica.IsWired id settings)
    (hzero : replica.ledger.lastDecay = 0) {first count : Nat}
    (hearly : first + count ≤ settings.ledger.decayInterval.toNat)
    (hids : first + count ≤ 2 ^ 31) :
    (replica.run (idleFrom first count)).value.1.ledger.lastDecay = 0 := by
  induction count generalizing replica first with
  | zero => exact hzero
  | succ count ih =>
      rw [idleFrom, run_cons]
      refine ih (hwired.respond _) ?_ (by omega) (by omega)
      rw [lastDecay_deliver hwired, hzero, Round.since_zero (by omega), if_pos (by omega)]

theorem value_respond_reconfigure_of_member (hwired : replica.IsWired id settings) {view : View}
    (hmember : view.contains id = true) :
    (replica.respond (.reconfigure view)).value.1.ledger = Ledger.empty view := by
  have hself : view.contains replica.id = true := by rwa [hwired.identity]
  rw [value_respond_reconfigure, value_reconfigure_of_contains hself]
  rfl

theorem not_pairwise_areApart_hastyRun {view : View} (hmember : view.contains id = true)
    (hlong : 2 ≤ settings.ledger.decayInterval.toNat)
    (hids : settings.ledger.decayInterval.toNat + 1 < 2 ^ 31) :
    ¬ ((fresh id view settings).decayRounds
        (hastyRun view settings.ledger.decayInterval.toNat)).Pairwise
      (Round.AreApart settings.ledger.decayInterval.toNat) := by
  intro hapart
  let start := ((fresh id view settings).run
    (idleFrom 1 (settings.ledger.decayInterval.toNat - 1))).value.1
  have hwired : start.IsWired id settings := (isWired_fresh hmember settings).run _
  have hzero : start.ledger.lastDecay = 0 :=
    lastDecay_run_idleFrom (isWired_fresh hmember settings) rfl (by omega) (by omega)
  have hafter := hwired.respond (.deliver (Int32.ofNat settings.ledger.decayInterval.toNat) [])
  have hledger := value_respond_reconfigure_of_member hafter hmember
  rw [hastyRun, decayRounds_append, decayRounds_deliver hwired, hzero,
    Round.since_zero (by omega), if_neg (by omega), decayRounds_of_none rfl,
    decayRounds_deliver (hafter.respond _), hledger] at hapart
  have hnext : Round.since (Int32.ofNat (settings.ledger.decayInterval.toNat + 1))
      (Ledger.empty view).lastDecay = settings.ledger.decayInterval.toNat + 1 :=
    Round.since_zero hids
  rw [hnext, if_neg (by omega)] at hapart
  have htwo : Round.AreApart settings.ledger.decayInterval.toNat
      (Int32.ofNat settings.ledger.decayInterval.toNat)
      (Int32.ofNat (settings.ledger.decayInterval.toNat + 1)) :=
    (List.pairwise_cons.mp (List.pairwise_append.mp hapart).2.1).1 _ List.mem_cons_self
  unfold Round.AreApart at htwo
  rw [Round.toInt_ofNat (by omega), Round.toInt_ofNat hids] at htwo
  omega

/-- With deliveries numbered from one on, two decay steps of a replica are an
interval apart if the view is kept between them.  They are in every run, with
changes of view anywhere, exactly if the interval is one round at most or
leaves room for one step only. -/
theorem decay_steps_stay_apart_iff {id : ReplicaId} {view : View}
    (hmember : view.contains id = true) (settings : Settings) :
    let interval := settings.ledger.decayInterval.toNat
    (∀ before during, AreNumberedFrom 1 (before ++ during) →
      let replica := ((fresh id view settings).run before).value.1
      (∀ next, .reconfigure next ∉ replica.orderedCalls during) →
        (replica.decayRounds during).Pairwise (Round.AreApart interval)) ∧
      ((∀ calls, AreNumberedFrom 1 calls →
          ((fresh id view settings).decayRounds calls).Pairwise (Round.AreApart interval)) ↔
        interval ≤ 1 ∨ 2 ^ 31 - 1 ≤ interval) := by
  intro interval
  have hfresh := decayedBefore_fresh id view settings
  have hwired := isWired_fresh hmember settings
  refine ⟨?_, ?_, ?_⟩
  · intro before during hnumbered replica hkept
    obtain ⟨next, hbefore, hrest⟩ := hfresh.run hwired hnumbered
    exact (hbefore.pairwise_areApart (hwired.run before) hrest hkept).tail
  · intro hapart
    by_contra! hlong
    have hids : interval + 1 < 2 ^ 31 := by omega
    exact not_pairwise_areApart_hastyRun hmember hlong.1 hids
      (hapart _ (areNumberedFrom_hastyRun view hlong.1.le hids))
  · intro hinterval calls hnumbered
    obtain ⟨hbounds, hascending⟩ := hfresh.pairwise_ascending hwired hnumbered
    refine hascending.imp_of_mem ?_
    intro earlier later hearlier hlater hless
    have hfirst := (hbounds earlier hearlier).2
    have hlast := later.toInt_le
    have hmax := Int32.toInt_maxValue
    unfold Round.AreApart at *
    omega

/-- After a change of view the steps are apart again, the first one counted
from round zero. -/
theorem steps_apart_in_wider_view :
    let view : View := ⟨4, 1, by decide⟩
    let wider : View := ⟨7, 2, by decide⟩
    let settings := Settings.standard.withDecayInterval 2
    let before : List ReplicaCall := [.deliver 1 [], .deliver 2 [], .reconfigure wider]
    let during : List ReplicaCall :=
      [.deliver 3 [], .noteRequest 5, .deliver 4 [], .deliver 5 []]
    let replica := ((fresh 3 view settings).run before).value.1
    view.contains 3 = true ∧ AreNumberedFrom 1 (before ++ during) ∧
      replica.decayRounds during = [3, 5] ∧
      (replica.decayRounds during).Pairwise (Round.AreApart 2) := by
  intro view wider settings before during replica
  have hmember : view.contains 3 = true := by decide
  have hnumbered : AreNumberedFrom 1 (before ++ during) :=
    ⟨by decide, by decide, by decide, by decide, by decide, trivial⟩
  have hkept : ∀ next, .reconfigure next ∉ replica.orderedCalls during := by
    intro next hmem
    have hcall := mem_of_mem_orderedCalls hmem
    simp [during] at hcall
  exact ⟨hmember, hnumbered, by decide +kernel,
    (decay_steps_stay_apart_iff hmember settings).1 before during hnumbered hkept⟩

/-- With an interval of two rounds a change of view after round two makes
round three a step as well. -/
theorem steps_in_two_rounds_in_a_row :
    let view : View := ⟨4, 1, by decide⟩
    let settings := Settings.standard.withDecayInterval 2
    let calls : List ReplicaCall :=
      [.deliver 1 [], .deliver 2 [], .reconfigure view, .deliver 3 []]
    settings.invalid?.isNone = true ∧ AreNumberedFrom 1 calls ∧
      (fresh 0 view settings).decayRounds calls = [2, 3] ∧
      ¬ ((fresh 0 view settings).decayRounds calls).Pairwise (Round.AreApart 2) := by
  intro view settings calls
  have hsteps : (fresh 0 view settings).decayRounds calls = [2, 3] := by decide +kernel
  refine ⟨by decide +kernel, ⟨by decide, by decide, by decide, trivial⟩, hsteps, ?_⟩
  rw [hsteps]
  decide

end Replica
end SuspicionMonitor
