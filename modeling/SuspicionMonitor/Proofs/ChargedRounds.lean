import SuspicionMonitor.Proofs.DecaySteps

/-!
# The rounds that decay steps are charged for

A ledger is asked to decay in rounds of any number: in negative ones, in the
same one again, or in one before the last step.  The strength of a step grows
with the rounds since the step before it, and the ledger remembers its round.
With an interval of one round or more only a later round can be a step, so
every step begins where the one before it ended.  Together the steps are
charged for the rounds from one to the remembered round, for each of them once.
-/

namespace SuspicionMonitor

namespace Round

theorem since_eq_zero_of_le {round earlier : Round} (hle : round.toInt ≤ earlier.toInt) :
    round.since earlier = 0 := by
  have hclamp : Int32.ofIntClamp (round.toInt - earlier.toInt) ≤ Int32.ofIntClamp 0 :=
    ofIntClamp_le_ofIntClamp (by omega)
  have hzero : (Int32.ofIntClamp 0).toInt = 0 := rfl
  rw [Int32.le_iff_toInt_le, hzero] at hclamp
  exact Int.toNat_eq_zero.mpr hclamp

end Round

/-- A decay that was carried out. -/
structure DecayStep where
  round : Round
  /-- How many rounds the graph was weakened for. -/
  elapsed : Nat
deriving DecidableEq

namespace DecayStep

/-- The step is charged for the last `elapsed` rounds up to its own. -/
def charges (step : DecayStep) (number : Int) : Bool :=
  step.round.toInt - step.elapsed < number ∧ number ≤ step.round.toInt

/-- How much the graph was weakened. -/
def strength (step : DecayStep) (settings : LedgerSettings) : Float :=
  settings.decayRate * Float.ofNat step.elapsed

/-- Every step is charged for the rounds since the one before, the first one
for those since `start`; these are `interval` rounds at least.  The last step is
in the round `stop`. -/
inductive AreLinked (interval : Nat) :
    (start : Round) → List DecayStep → (stop : Round) → Prop where
  | nil (start : Round) : AreLinked interval start [] start
  | cons {start stop : Round} {step : DecayStep} {steps : List DecayStep}
      (hdue : interval ≤ step.elapsed)
      (hround : step.round.toInt = start.toInt + step.elapsed)
      (hrest : AreLinked interval step.round steps stop) :
      AreLinked interval start (step :: steps) stop

namespace AreLinked

variable {interval : Nat} {start stop : Round} {steps : List DecayStep}

theorem append {middle : Round} {later : List DecayStep}
    (hsteps : AreLinked interval start steps middle)
    (hlater : AreLinked interval middle later stop) :
    AreLinked interval start (steps ++ later) stop := by
  induction hsteps with
  | nil => exact hlater
  | cons hdue hround _ ih => exact .cons hdue hround (ih hlater)

theorem stop_eq_getLast? (hsteps : AreLinked interval start steps stop) :
    stop = (steps.getLast?.map DecayStep.round).getD start := by
  induction hsteps with
  | nil => rfl
  | cons _ _ _ ih =>
      rw [List.getLast?_cons, ih]
      cases List.getLast? _ <;> rfl

/-- The sum telescopes. -/
theorem start_add_sum_elapsed (hsteps : AreLinked interval start steps stop) :
    start.toInt + (steps.map DecayStep.elapsed).sum = stop.toInt := by
  induction hsteps with
  | nil => simp
  | cons hdue hround _ ih =>
      rw [List.map_cons, List.sum_cons]
      omega

theorem start_le_stop (hsteps : AreLinked interval start steps stop) :
    start.toInt ≤ stop.toInt := by
  have hsum := hsteps.start_add_sum_elapsed
  omega

theorem length_mul_le_sum_elapsed (hsteps : AreLinked interval start steps stop) :
    steps.length * interval ≤ (steps.map DecayStep.elapsed).sum := by
  induction hsteps with
  | nil => simp
  | cons hdue _ _ ih =>
      rw [List.length_cons, List.map_cons, List.sum_cons, Nat.succ_mul]
      omega

/-- The rounds between the first and the last one are shared out among the
steps. -/
theorem countP_charges (hsteps : AreLinked interval start steps stop) (number : Int) :
    steps.countP (·.charges number) =
      if start.toInt < number ∧ number ≤ stop.toInt then 1 else 0 := by
  induction hsteps with
  | nil => rw [List.countP_nil, if_neg (by omega)]
  | cons hdue hround hrest ih =>
      -- The rounds of the first step end where those of the others begin.
      have hle := hrest.start_le_stop
      rw [List.countP_cons, ih]
      simp only [charges, decide_eq_true_eq]
      split_ifs <;> omega

end AreLinked

end DecayStep

namespace GraphCall

/-- How much the call weakens the graph, if it does. -/
def strength? : GraphCall → Option Float
  | .remove strength => some strength
  | _ => none

end GraphCall

namespace Ledger

/-! ## The steps of a run -/

/-- The step that the call carries out, if it does. -/
def decayStep? (ledger : Ledger) (settings : LedgerSettings) : LedgerCall → Option DecayStep
  | .decay round =>
      if (ledger.decay settings round).value.2 then
        some { round, elapsed := round.since ledger.lastDecay }
      else
        none
  | _ => none

def decayStepsOver (ledger : Ledger) (settings : LedgerSettings) :
    List LedgerCall → List DecayStep
  | [] => []
  | call :: calls =>
      (ledger.decayStep? settings call).toList ++
        (ledger.perform settings call).value.decayStepsOver settings calls

theorem decayStep?_decay (ledger : Ledger) (settings : LedgerSettings) (round : Round) :
    ledger.decayStep? settings (.decay round) =
      if round.since ledger.lastDecay < settings.decayInterval.toNat then none
      else some { round, elapsed := round.since ledger.lastDecay } := by
  simp only [decayStep?, decay]
  split <;> rfl

/-- A step is remembered and counted, and no other call is. -/
theorem bookkeeping_perform (ledger : Ledger) (settings : LedgerSettings) (call : LedgerCall) :
    (ledger.perform settings call).value.lastDecay =
        ((ledger.decayStep? settings call).map DecayStep.round).getD ledger.lastDecay ∧
      (ledger.perform settings call).value.decaySteps =
        ledger.decaySteps + (ledger.decayStep? settings call).toList.length := by
  cases call with
  | store suspicions =>
      rw [value_perform_store, foldl_store_eq]
      exact ⟨rfl, rfl⟩
  | build =>
      rw [value_perform_build_of_due]
      exact ⟨rfl, rfl⟩
  | decay round =>
      rw [value_perform_decay, decayStep?_decay]
      split <;> exact ⟨rfl, rfl⟩
  | collect low => exact ⟨rfl, rfl⟩

/-- The graph is weakened by the steps and by nothing else. -/
theorem filterMap_strength?_graphCalls (ledger : Ledger) (settings : LedgerSettings)
    (call : LedgerCall) :
    (ledger.graphCalls settings call).filterMap GraphCall.strength? =
      (ledger.decayStep? settings call).toList.map (·.strength settings) := by
  cases call with
  | store suspicions => rfl
  | build =>
      rw [graphCalls]
      split <;> rfl
  | decay round =>
      rw [graphCalls, decayStep?_decay]
      split <;> rfl
  | collect low => rfl

theorem filterMap_strength?_graphCallsOver (ledger : Ledger) (settings : LedgerSettings)
    (calls : List LedgerCall) :
    (ledger.graphCallsOver settings calls).filterMap GraphCall.strength? =
      (ledger.decayStepsOver settings calls).map (·.strength settings) := by
  induction calls generalizing ledger with
  | nil => rfl
  | cons call calls ih =>
      rw [graphCallsOver, decayStepsOver, List.filterMap_append, List.map_append, ih,
        filterMap_strength?_graphCalls]

theorem decaySteps_run (ledger : Ledger) (settings : LedgerSettings) (calls : List LedgerCall) :
    (ledger.run settings calls).value.decaySteps =
      ledger.decaySteps + (ledger.decayStepsOver settings calls).length := by
  induction calls generalizing ledger with
  | nil => rfl
  | cons call calls ih =>
      rw [value_run_cons, ih, (ledger.bookkeeping_perform settings call).2, decayStepsOver,
        List.length_append, Nat.add_assoc]

variable {ledger : Ledger} {settings : LedgerSettings}

/-- A step is due only after the remembered one, so it is charged for all
rounds in between. -/
theorem areLinked_perform (hinterval : 1 ≤ settings.decayInterval.toNat)
    (hnonneg : 0 ≤ ledger.lastDecay.toInt) (call : LedgerCall) :
    DecayStep.AreLinked settings.decayInterval.toNat ledger.lastDecay
      (ledger.decayStep? settings call).toList
      (ledger.perform settings call).value.lastDecay := by
  rw [(ledger.bookkeeping_perform settings call).1]
  cases call with
  | decay round =>
      rw [decayStep?_decay]
      split
      next => exact .nil ledger.lastDecay
      next hdue =>
        have hlater : ledger.lastDecay.toInt < round.toInt := by
          by_contra! hle
          have hzero := Round.since_eq_zero_of_le hle
          omega
        have hsince := Round.since_of_le hnonneg hlater.le
        exact .cons (Nat.le_of_not_lt hdue) (by dsimp only; omega) (.nil round)
  | _ => exact .nil ledger.lastDecay

theorem areLinked_run (hinterval : 1 ≤ settings.decayInterval.toNat)
    (hnonneg : 0 ≤ ledger.lastDecay.toInt) (calls : List LedgerCall) :
    DecayStep.AreLinked settings.decayInterval.toNat ledger.lastDecay
      (ledger.decayStepsOver settings calls) (ledger.run settings calls).value.lastDecay := by
  induction calls generalizing ledger with
  | nil => exact .nil ledger.lastDecay
  | cons call calls ih =>
      have hfirst := areLinked_perform hinterval hnonneg call
      have hle := hfirst.start_le_stop
      exact hfirst.append (ih (by omega))

/-- In a run from the creation of a ledger or from its last reset, with an
interval of one round at least, the rounds that the decay steps are charged for
add up to the round of the last one, and each round up to it is charged once. -/
theorem decay_steps_charge_each_round_once (settings : LedgerSettings)
    (hinterval : 1 ≤ settings.decayInterval.toNat) (view : View) (start : Ledger)
    (hstart : start = empty view ∨ ∃ before : Ledger, start = (before.reset view).value)
    (calls : List LedgerCall) :
    let ledger := (start.run settings calls).value
    let made := start.graphCallsOver settings calls
    let steps := start.decayStepsOver settings calls
    ledger.graph = SuspicionGraph.after view made ∧
      made.filterMap GraphCall.strength? = steps.map (·.strength settings) ∧
      (steps.map DecayStep.elapsed).sum = ledger.lastDecay.toInt ∧
      ledger.lastDecay = (steps.getLast?.map DecayStep.round).getD 0 ∧
      (∀ before, before <+: calls →
        (start.run settings before).value.lastDecay ≤ ledger.lastDecay) ∧
      ledger.decaySteps = steps.length ∧
      ledger.decaySteps * settings.decayInterval.toNat ≤ ledger.lastDecay.toInt ∧
      ∀ number : Int, steps.countP (·.charges number) =
        if 0 < number ∧ number ≤ ledger.lastDecay.toInt then 1 else 0 := by
  obtain rfl : start = empty view := by
    rcases hstart with hcreated | ⟨before, hreset⟩
    · exact hcreated
    · exact hreset.trans (before.value_reset view)
  intro ledger made steps
  have hzero : (empty view).lastDecay.toInt = 0 := Int32.toInt_zero
  have hsteps : DecayStep.AreLinked settings.decayInterval.toNat 0 steps ledger.lastDecay :=
    areLinked_run hinterval hzero.ge calls
  have hcount : ledger.decaySteps = steps.length :=
    ((empty view).decaySteps_run settings calls).trans (Nat.zero_add _)
  have hsum : (steps.map DecayStep.elapsed).sum = ledger.lastDecay.toInt :=
    (zero_add _).symm.trans hsteps.start_add_sum_elapsed
  refine ⟨(empty view).graph_run settings calls,
    (empty view).filterMap_strength?_graphCallsOver settings calls, hsum,
    hsteps.stop_eq_getLast?, ?_, hcount, ?_, hsteps.countP_charges⟩
  · rintro before ⟨later, rfl⟩
    have hbefore := (areLinked_run hinterval hzero.ge before).start_le_stop
    have hlater := (areLinked_run hinterval (hzero.ge.trans hbefore) later).start_le_stop
    rw [← value_run_append] at hlater
    exact Int32.le_iff_toInt_le.mpr hlater
  · have hmul := hsteps.length_mul_le_sum_elapsed
    rw [hcount]
    omega

/-- Of six requests to decay two are steps, for the rounds up to three and for
those from four to ten. -/
theorem two_steps_charge_ten_rounds :
    let settings : LedgerSettings := { LedgerSettings.standard with decayInterval := 2 }
    let start := ((empty ⟨7, 2, by decide⟩).reset ⟨4, 1, by decide⟩).value
    let calls : List LedgerCall :=
      [.decay (-5), .decay 1, .decay 3, .build, .decay 3, .collect 2, .decay 10, .decay 4]
    let steps := start.decayStepsOver settings calls
    1 ≤ settings.decayInterval.toNat ∧ steps = [⟨3, 3⟩, ⟨10, 7⟩] ∧
      (steps.map DecayStep.elapsed).sum = (start.run settings calls).value.lastDecay.toInt ∧
      steps.countP (·.charges 4) = 1 ∧ steps.countP (·.charges 11) = 0 := by
  intro settings start calls steps
  have hinterval : 1 ≤ settings.decayInterval.toNat := by decide
  have hlast : (start.run settings calls).value.lastDecay = 10 := by decide +kernel
  obtain ⟨-, -, hsum, -, -, -, -, hcharged⟩ :=
    decay_steps_charge_each_round_once settings hinterval ⟨4, 1, by decide⟩ start
      (Or.inr ⟨empty ⟨7, 2, by decide⟩, rfl⟩) calls
  rw [hlast] at hcharged
  exact ⟨hinterval, by decide +kernel, hsum, hcharged 4, hcharged 11⟩

end Ledger

end SuspicionMonitor
