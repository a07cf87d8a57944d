import LightFee.Engine.PendingEntry

/-!
# Zero-fill cycles of a pending entry

A maker cycle that ends without a fill is counted, and the next step depends on the count. Within
the phase's budget the next cycle is submitted. At its end the maker leg is switched, and at the
end of the second phase the entry is left to a dual taker. A candidate that is not tradeable ends
the entry without moving the phase.
-/

namespace LightFee.Engine

namespace ZeroFill

/-! ## Cycles and candidates -/

/-- What a strategy says about maker cycles. -/
structure CycleStrategy where
  pendingEntryPhaseZeroFillBudget : Int := 2
  makerPhaseMaxZeroFillCycles : Int := 3
  makerCycleRetryDelaysMs : List Int := [500, 1000, 1000]

def pendingEntryPhaseZeroFillBudget (strategy : CycleStrategy) : Int :=
  max 1 (if strategy.pendingEntryPhaseZeroFillBudget ≤ 0 then strategy.makerPhaseMaxZeroFillCycles
    else strategy.pendingEntryPhaseZeroFillBudget)

/-- The last delay stands for every later cycle. -/
def makerCycleRetryDelayMs (strategy : CycleStrategy) (completedCycles : Int) : Int :=
  let delays := strategy.makerCycleRetryDelaysMs
  max 0 (delays.getD (min (max (completedCycles - 1) 0) (delays.length - 1)).toNat 0)

/-- The entry with a counted cycle, and the delay of the next one. -/
def recordPendingEntryZeroFillCycle (pending : PendingEntry ℚ) (strategy : CycleStrategy)
    (nowMs : Int) : PendingEntry ℚ × Int :=
  let phaseState := ensurePendingEntryPhaseState pending nowMs
  let completedCycles := phaseState.zeroFillCyclesInPhase + 1
  let delayMs := makerCycleRetryDelayMs strategy completedCycles
  ({ pending with
      phaseState := some { phaseState with
        zeroFillCyclesInPhase := completedCycles
        cycleAttempt := completedCycles
        nextCycleDelayMs := some delayMs
        hedgeDeadlineAtMs := none }
      repostAttemptCount := completedCycles
      passiveAttemptCount := 0
      nextProgressPollMs := nowMs + delayMs },
    delayMs)

/-- A candidate: none, an object that says whether it is tradeable, or one with a flag. -/
inductive Candidate where
  | absent
  | tradeable (isTradeable : Bool) (blockedReasons : List String)
  | flagged (blocked : Bool) (blockedReasons : List String)

/-- `_candidate_blocked`. -/
def Candidate.blocked : Candidate → Bool × List String
  | .absent => (true, [])
  | .tradeable isTradeable blockedReasons => (!isTradeable, blockedReasons)
  | .flagged blocked blockedReasons => (blocked || !blockedReasons.isEmpty, blockedReasons)

inductive ActionKind where
  | submitNextCycle
  | triggerDualTaker
  | finalized
deriving DecidableEq

structure PendingEntryLifecycleAction where
  kind : ActionKind
  reason : String := ""
  blockedReasons : Option (List String) := none

def oppositePendingEntryMakerLeg (makerLeg : String) : String :=
  if makerLeg = "" ∨ makerLeg = "long" then "short" else "long"

def highSlippageMaker : String := "high_slippage_maker"
def lowSlippageMaker : String := "low_slippage_maker"
def dualTaker : String := "dual_taker"

/-- The step after a counted cycle. -/
def advancePendingEntryZeroFillPhase (pending : PendingEntry ℚ) (strategy : CycleStrategy)
    (nowMs : Int) (candidate : Candidate) : PendingEntry ℚ × PendingEntryLifecycleAction :=
  if candidate.blocked.1 then
    (pending,
      { kind := .finalized
        reason := "candidate_not_tradeable_after_zero_fill_reprice"
        blockedReasons := some candidate.blocked.2 })
  else
    let phaseState := ensurePendingEntryPhaseState pending nowMs
    let ensured := { pending with phaseState := some phaseState }
    if phaseState.zeroFillCyclesInPhase < pendingEntryPhaseZeroFillBudget strategy then
      (ensured, { kind := .submitNextCycle })
    else if phaseState.phase = highSlippageMaker then
      let nextMakerLeg := oppositePendingEntryMakerLeg
        (if phaseState.preferredMakerLeg = "" then pending.makerLeg
          else phaseState.preferredMakerLeg)
      ({ pending with
          phaseState := some { phaseState with
            phase := lowSlippageMaker
            activeMakerLeg := nextMakerLeg
            zeroFillCyclesInPhase := 0
            cycleAttempt := 0
            nextCycleDelayMs := none
            hedgeDeadlineAtMs := none
            phaseStartedAtMs := nowMs
            smallFillMinNotionalAttempts := 0 }
          makerLeg := nextMakerLeg
          entryMakerLeg := nextMakerLeg
          repostAttemptCount := 0
          passiveAttemptCount := 0 },
        { kind := .submitNextCycle
          reason := "phase_switched_to_low_slippage_maker" })
    else if phaseState.phase = lowSlippageMaker then
      ({ pending with
          phaseState := some { phaseState with
            phase := dualTaker
            nextCycleDelayMs := none
            hedgeDeadlineAtMs := none } },
        { kind := .triggerDualTaker
          reason := "maker_entry_dual_taker_after_phase_exhaustion" })
    else
      (ensured,
        { kind := .finalized
          reason := "dual_taker_phase_already_armed" })

/-- A maker cycle that ended without a fill. -/
structure Completion where
  nowMs : Int
  candidate : Candidate

def complete (strategy : CycleStrategy) (pending : PendingEntry ℚ) (completion : Completion) :
    PendingEntry ℚ × PendingEntryLifecycleAction :=
  advancePendingEntryZeroFillPhase
    (recordPendingEntryZeroFillCycle pending strategy completion.nowMs).1 strategy
    completion.nowMs completion.candidate

/-- The entry and the action after every completion. -/
def steps (strategy : CycleStrategy) :
    PendingEntry ℚ → List Completion → List (PendingEntry ℚ × PendingEntryLifecycleAction)
  | _, [] => []
  | pending, completion :: rest =>
    complete strategy pending completion ::
      steps strategy (complete strategy pending completion).1 rest

/-! ## The phase machine -/

/-- The part of an entry that moves it. -/
structure PhaseMachine where
  phase : String
  cycles : Int
  preferred : String
  active : String
  makerLeg : String

namespace PhaseMachine

/-- One completion: the count, and then the first condition that applies. -/
def complete (budget : Int) (blocked : Bool) (machine : PhaseMachine) : PhaseMachine × ActionKind :=
  let counted := { machine with cycles := machine.cycles + 1 }
  if blocked then (counted, .finalized)
  else if counted.cycles < budget then (counted, .submitNextCycle)
  else if machine.phase = highSlippageMaker then
    let next := oppositePendingEntryMakerLeg
      (if machine.preferred = "" then machine.makerLeg else machine.preferred)
    ({ machine with phase := lowSlippageMaker, cycles := 0, active := next, makerLeg := next },
      .submitNextCycle)
  else if machine.phase = lowSlippageMaker then
    ({ counted with phase := dualTaker }, .triggerDualTaker)
  else (counted, .finalized)

/-- The submissions that are left. -/
def submissionsLeft (budget : Int) (machine : PhaseMachine) : Nat :=
  (budget - 1 - machine.cycles).toNat +
    if machine.phase = highSlippageMaker then budget.toNat else 0

def triggersLeft (machine : PhaseMachine) : Nat :=
  if machine.phase = highSlippageMaker ∨ machine.phase = lowSlippageMaker then 1 else 0

/-- Phases in their order. -/
def Forward (before after : String) : Prop :=
  after = before ∨ before = highSlippageMaker ∧ after = lowSlippageMaker ∨
    before = lowSlippageMaker ∧ after = dualTaker

/-- The maker leg follows the phase; a triggered machine has used up its budget. -/
structure Routed (budget : Int) (machine : PhaseMachine) : Prop where
  follows : machine.makerLeg = machine.active
  phase : machine.phase = highSlippageMaker ∧ machine.active = machine.preferred ∨
    machine.phase = lowSlippageMaker ∧
      machine.active = oppositePendingEntryMakerLeg machine.preferred ∨
    machine.phase = dualTaker ∧ budget ≤ machine.cycles

theorem phases_differ : lowSlippageMaker ≠ highSlippageMaker ∧ dualTaker ≠ highSlippageMaker ∧
    dualTaker ≠ lowSlippageMaker := by
  decide

/-- What one completion can do. -/
theorem complete_cases (budget : Int) (blocked : Bool) (machine : PhaseMachine) :
    (machine.complete budget blocked).1 = { machine with cycles := machine.cycles + 1 } ∧
        (machine.complete budget blocked).2 = .finalized ∨
    (machine.complete budget blocked).1 = { machine with cycles := machine.cycles + 1 } ∧
        (machine.complete budget blocked).2 = .submitNextCycle ∧ machine.cycles + 1 < budget ∨
    machine.phase = highSlippageMaker ∧ (machine.complete budget blocked).2 = .submitNextCycle ∧
        (machine.complete budget blocked).1.phase = lowSlippageMaker ∧
        (machine.complete budget blocked).1.cycles = 0 ∧
        (machine.complete budget blocked).1.preferred = machine.preferred ∧
        (machine.complete budget blocked).1.active = oppositePendingEntryMakerLeg
          (if machine.preferred = "" then machine.makerLeg else machine.preferred) ∧
        (machine.complete budget blocked).1.makerLeg =
          (machine.complete budget blocked).1.active ∨
    machine.phase = lowSlippageMaker ∧ budget ≤ machine.cycles + 1 ∧
        (machine.complete budget blocked).2 = .triggerDualTaker ∧
        (machine.complete budget blocked).1 =
          { machine with cycles := machine.cycles + 1, phase := dualTaker } := by
  unfold complete
  dsimp only
  generalize oppositePendingEntryMakerLeg
    (if machine.preferred = "" then machine.makerLeg else machine.preferred) = next
  split_ifs with unready within high low
  · exact .inl ⟨rfl, rfl⟩
  · exact .inr (.inl ⟨rfl, rfl, within⟩)
  · exact .inr (.inr (.inl ⟨high, rfl, rfl, rfl, rfl, rfl, rfl⟩))
  · exact .inr (.inr (.inr ⟨low, not_lt.mp within, rfl, rfl⟩))
  · exact .inl ⟨rfl, rfl⟩

/-- A completion uses up what is left. -/
theorem complete_left {budget : Int} (positive : 1 ≤ budget) (blocked : Bool)
    (machine : PhaseMachine) :
    submissionsLeft budget (machine.complete budget blocked).1 +
        (if (machine.complete budget blocked).2 = .submitNextCycle then 1 else 0) ≤
      submissionsLeft budget machine ∧
    triggersLeft (machine.complete budget blocked).1 +
        (if (machine.complete budget blocked).2 = .triggerDualTaker then 1 else 0) ≤
      triggersLeft machine := by
  obtain ⟨lowHigh, dualHigh, dualLow⟩ := phases_differ
  rcases machine.complete_cases budget blocked with ⟨after, kind⟩ | ⟨after, kind, within⟩ |
    ⟨high, kind, low, cycles, -⟩ | ⟨low, spent, kind, after⟩
  · rw [after, kind]
    simp only [submissionsLeft, triggersLeft, reduceCtorEq, if_false]
    omega
  · rw [after, kind]
    simp only [submissionsLeft, triggersLeft, reduceCtorEq, if_true, if_false]
    omega
  · simp only [submissionsLeft, triggersLeft, high, kind, low, cycles, lowHigh, reduceCtorEq,
      if_true, if_false, true_or, or_true]
    omega
  · rw [after, kind]
    simp only [submissionsLeft, triggersLeft, low, lowHigh, dualHigh, dualLow, reduceCtorEq,
      if_true, if_false, or_true, or_false]
    omega

theorem complete_forward (budget : Int) (blocked : Bool) (machine : PhaseMachine) :
    Forward machine.phase (machine.complete budget blocked).1.phase := by
  rcases machine.complete_cases budget blocked with ⟨after, -⟩ | ⟨after, -⟩ | ⟨high, -, low, -⟩ |
    ⟨low, -, -, after⟩
  · rw [after]
    exact .inl rfl
  · rw [after]
    exact .inl rfl
  · exact .inr (.inl ⟨high, low⟩)
  · rw [after]
    exact .inr (.inr ⟨low, rfl⟩)

/-- A completion keeps the route, and a submission leaves a maker phase. -/
theorem Routed.complete {budget : Int} {machine : PhaseMachine} (routed : Routed budget machine)
    (blocked : Bool) :
    Routed budget (machine.complete budget blocked).1 ∧
      (machine.complete budget blocked).1.preferred = machine.preferred ∧
      ((machine.complete budget blocked).2 = .submitNextCycle →
        (machine.complete budget blocked).1.phase ≠ dualTaker) := by
  obtain ⟨lowHigh, dualHigh, dualLow⟩ := phases_differ
  have counted : Routed budget { machine with cycles := machine.cycles + 1 } :=
    ⟨routed.follows, routed.phase.imp_right (Or.imp_right fun dual =>
      ⟨dual.1, dual.2.trans (Int.le.intro 1 rfl)⟩)⟩
  rcases machine.complete_cases budget blocked with ⟨after, kind⟩ | ⟨after, kind, within⟩ |
    ⟨high, kind, low, cycles, preferred, active, follows⟩ | ⟨low, spent, kind, after⟩
  · rw [after, kind]
    exact ⟨counted, rfl, nofun⟩
  · rw [after, kind]
    refine ⟨counted, rfl, fun _ dual => ?_⟩
    rcases routed.phase with ⟨high, -⟩ | ⟨low, -⟩ | ⟨-, spent⟩
    · exact dualHigh (dual.symm.trans high)
    · exact dualLow (dual.symm.trans low)
    · omega
  · have leg : (if machine.preferred = "" then machine.makerLeg else machine.preferred) =
        machine.preferred := by
      rcases routed.phase with ⟨-, same⟩ | ⟨other, -⟩ | ⟨other, -⟩
      · rw [routed.follows, same, ite_self]
      · exact absurd (other.symm.trans high) lowHigh
      · exact absurd (other.symm.trans high) dualHigh
    refine ⟨⟨follows, .inr (.inl ⟨low, ?_⟩)⟩, preferred, fun _ dual => ?_⟩
    · rw [active, leg, preferred]
    · exact dualLow (dual.symm.trans low)
  · rw [after, kind]
    exact ⟨⟨routed.follows, .inr (.inr ⟨rfl, spent⟩)⟩, rfl, nofun⟩

end PhaseMachine

/-! ## Entries as phase machines -/

/-- The machine of an entry; one without a phase state is at its start. -/
def machineOf (pending : PendingEntry ℚ) : PhaseMachine :=
  let phaseState := ensurePendingEntryPhaseState pending 0
  { phase := phaseState.phase
    cycles := phaseState.zeroFillCyclesInPhase
    preferred := phaseState.preferredMakerLeg
    active := phaseState.activeMakerLeg
    makerLeg := pending.makerLeg }

theorem machineOf_some {pending : PendingEntry ℚ} {phaseState : PendingEntryPassivePhaseState}
    (held : pending.phaseState = some phaseState) :
    machineOf pending = ⟨phaseState.phase, phaseState.zeroFillCyclesInPhase,
      phaseState.preferredMakerLeg, phaseState.activeMakerLeg, pending.makerLeg⟩ := by
  unfold machineOf ensurePendingEntryPhaseState
  rw [held]
  rfl

/-- The time of a new phase state does not matter for the machine. -/
theorem machineOf_ensured (pending : PendingEntry ℚ) (nowMs : Int) :
    machineOf pending =
      ⟨(ensurePendingEntryPhaseState pending nowMs).phase,
        (ensurePendingEntryPhaseState pending nowMs).zeroFillCyclesInPhase,
        (ensurePendingEntryPhaseState pending nowMs).preferredMakerLeg,
        (ensurePendingEntryPhaseState pending nowMs).activeMakerLeg, pending.makerLeg⟩ := by
  unfold machineOf ensurePendingEntryPhaseState
  cases pending.phaseState with
  | none => rfl
  | some phaseState => rfl

/-- The step after a count, on an entry with a phase state. -/
theorem advance_machine {counted : PendingEntry ℚ} {phaseState : PendingEntryPassivePhaseState}
    (held : counted.phaseState = some phaseState) (strategy : CycleStrategy) (nowMs : Int)
    (candidate : Candidate) {machine : PhaseMachine}
    (same : machineOf counted = { machine with cycles := machine.cycles + 1 }) :
    (machineOf (advancePendingEntryZeroFillPhase counted strategy nowMs candidate).1,
        (advancePendingEntryZeroFillPhase counted strategy nowMs candidate).2.kind) =
      machine.complete (pendingEntryPhaseZeroFillBudget strategy) candidate.blocked.1 := by
  have ensured : ensurePendingEntryPhaseState counted nowMs = phaseState := by
    rw [ensurePendingEntryPhaseState, held, Option.getD_some]
  have parts := (machineOf_some held).symm.trans same
  rw [PhaseMachine.mk.injEq] at parts
  obtain ⟨phase, cycles, preferred, active, makerLeg⟩ := parts
  unfold advancePendingEntryZeroFillPhase PhaseMachine.complete
  dsimp only at phase cycles preferred active makerLeg ⊢
  rw [ensured, phase, cycles, preferred, makerLeg]
  split_ifs
  · rw [same]
  · rw [machineOf_some rfl]
    simp only [phase, cycles, preferred, active]
  · rw [machineOf_some rfl]
  · rw [machineOf_some rfl]
  · rw [machineOf_some rfl]
    simp only [active]
  · rw [machineOf_some rfl]
    simp only [phase, cycles, preferred, active]

/-- A completion of an entry is one of its machine. -/
theorem complete_machine (strategy : CycleStrategy) (pending : PendingEntry ℚ)
    (completion : Completion) :
    (machineOf (complete strategy pending completion).1,
        (complete strategy pending completion).2.kind) =
      (machineOf pending).complete (pendingEntryPhaseZeroFillBudget strategy)
        completion.candidate.blocked.1 := by
  refine advance_machine rfl strategy completion.nowMs completion.candidate ?_
  rw [machineOf_ensured pending completion.nowMs]
  rfl

/-! ## Runs -/

/-- A run of completions uses up what is left, and its phases move forward. -/
theorem steps_left (strategy : CycleStrategy) (pending : PendingEntry ℚ)
    (completions : List Completion) :
    (steps strategy pending completions).countP (fun step => step.2.kind = .submitNextCycle) ≤
        (machineOf pending).submissionsLeft (pendingEntryPhaseZeroFillBudget strategy) ∧
      (steps strategy pending completions).countP (fun step => step.2.kind = .triggerDualTaker) ≤
        (machineOf pending).triggersLeft ∧
      ((machineOf pending).phase :: (steps strategy pending completions).map
        (fun step => (machineOf step.1).phase)).IsChain PhaseMachine.Forward := by
  induction completions generalizing pending with
  | nil => exact ⟨Nat.zero_le _, Nat.zero_le _, .singleton _⟩
  | cons completion rest ih =>
    have moved := complete_machine strategy pending completion
    have positive : 1 ≤ pendingEntryPhaseZeroFillBudget strategy := le_max_left _ _
    obtain ⟨submissions, triggers⟩ := PhaseMachine.complete_left positive
      completion.candidate.blocked.1 (machineOf pending)
    have forward := PhaseMachine.complete_forward (pendingEntryPhaseZeroFillBudget strategy)
      completion.candidate.blocked.1 (machineOf pending)
    obtain ⟨restSubmissions, restTriggers, restForward⟩ :=
      ih (complete strategy pending completion).1
    rw [← moved] at submissions triggers forward
    dsimp only at submissions triggers forward
    simp only [steps, List.countP_cons, List.map_cons, decide_eq_true_eq]
    refine ⟨by omega, by omega, ?_⟩
    exact List.isChain_cons_cons.mpr ⟨forward, restForward⟩

/-- Routed entries stay routed, and a submission leaves the first or the second phase. -/
theorem steps_routed (strategy : CycleStrategy) {pending : PendingEntry ℚ}
    (routed : PhaseMachine.Routed (pendingEntryPhaseZeroFillBudget strategy) (machineOf pending))
    (completions : List Completion) :
    ∀ step ∈ steps strategy pending completions,
      PhaseMachine.Routed (pendingEntryPhaseZeroFillBudget strategy) (machineOf step.1) ∧
        (machineOf step.1).preferred = (machineOf pending).preferred ∧
        (step.2.kind = .submitNextCycle → (machineOf step.1).phase ≠ dualTaker) := by
  induction completions generalizing pending with
  | nil => exact fun step member => absurd member List.not_mem_nil
  | cons completion rest ih =>
    have moved := complete_machine strategy pending completion
    have first := routed.complete completion.candidate.blocked.1
    rw [← moved] at first
    intro step member
    rcases List.mem_cons.mp member with rfl | later
    · exact first
    · obtain ⟨laterRouted, preferred, phase⟩ := ih first.1 step later
      exact ⟨laterRouted, preferred.trans first.2.1, phase⟩

/-- The zero-fill phases only move forward and end, and an entry whose maker leg is the preferred
and active leg at the start follows its phase: the preferred leg in the first one and its opposite
in the second. -/
theorem zero_fill_phases_end (strategy : CycleStrategy) (pending : PendingEntry ℚ)
    (completions : List Completion) (start : (machineOf pending).phase = highSlippageMaker)
    (uncounted : (machineOf pending).cycles = 0) :
    let budget := pendingEntryPhaseZeroFillBudget strategy
    let run := steps strategy pending completions
    (highSlippageMaker :: run.map (fun step => (machineOf step.1).phase)).IsChain
      PhaseMachine.Forward ∧
    run.countP (fun step => step.2.kind = .triggerDualTaker) ≤ 1 ∧
    (run.countP (fun step => step.2.kind = .submitNextCycle) : Int) ≤ 2 * budget - 1 ∧
    ((machineOf pending).preferred = pending.makerLeg →
      (machineOf pending).active = pending.makerLeg →
      ∀ step ∈ run, step.2.kind = .submitNextCycle →
        step.1.makerLeg = (machineOf step.1).active ∧
          ((machineOf step.1).phase = highSlippageMaker ∧
              (machineOf step.1).active = (machineOf pending).preferred ∨
            (machineOf step.1).phase = lowSlippageMaker ∧ (machineOf step.1).active =
              oppositePendingEntryMakerLeg (machineOf pending).preferred)) := by
  intro budget run
  obtain ⟨submissions, triggers, forward⟩ := steps_left strategy pending completions
  have positive : 1 ≤ budget := le_max_left _ _
  refine ⟨?_, ?_, ?_, fun preferred active step member submitted => ?_⟩
  · rw [← start]
    exact forward
  · refine triggers.trans ?_
    rw [PhaseMachine.triggersLeft, if_pos (.inl start)]
  · rw [PhaseMachine.submissionsLeft, uncounted, if_pos start] at submissions
    change run.countP _ ≤ (budget - 1 - 0).toNat + budget.toNat at submissions
    omega
  · have routed : PhaseMachine.Routed budget (machineOf pending) :=
      ⟨active.symm, .inl ⟨start, active.trans preferred.symm⟩⟩
    obtain ⟨stepRouted, same, phase⟩ := steps_routed strategy routed completions step member
    refine ⟨stepRouted.follows, ?_⟩
    rw [← same]
    rcases stepRouted.phase with high | low | dual
    · exact .inl high
    · exact .inr low
    · exact absurd dual.1 (phase submitted)

/-- An entry without a phase state, whose maker leg becomes the preferred and active one. -/
theorem fresh_routed {pending : PendingEntry ℚ} (fresh : pending.phaseState = none)
    (named : pending.makerLeg ≠ "") :
    machineOf pending =
      ⟨highSlippageMaker, 0, pending.makerLeg, pending.makerLeg, pending.makerLeg⟩ := by
  unfold machineOf ensurePendingEntryPhaseState
  rw [fresh, Option.getD_none, if_neg named]
  rfl

/-- A pending entry with a maker leg. -/
def freshEntry (makerLeg : String) : PendingEntry ℚ where
  pendingId := "e1"
  symbol := "HOMEUSDT"
  longVenue := .bybit
  shortVenue := .bitget
  targetQuantity := 10
  longSide := .buy
  shortSide := .sell
  createdAtMs := 0
  makerLeg := makerLeg

/-- A completed cycle with a tradeable candidate. -/
def tradeableCompletion : Completion := ⟨1000, .flagged false []⟩

/-- Two cycles in each phase. -/
def bothPhases : List Completion := List.replicate 4 tradeableCompletion

theorem zero_fill_phases_end_both :
    ((steps {} (freshEntry "short") bothPhases).map fun step => step.2.kind) =
        [.submitNextCycle, .submitNextCycle, .submitNextCycle, .triggerDualTaker] ∧
      ((steps {} (freshEntry "short") bothPhases).countP
        (fun step => step.2.kind = .submitNextCycle) : Int) ≤ 3 ∧
      ∀ step ∈ steps {} (freshEntry "short") bothPhases, step.2.kind = .submitNextCycle →
        step.1.makerLeg = (machineOf step.1).active := by
  obtain ⟨-, -, few, follows⟩ := zero_fill_phases_end {} (freshEntry "short") bothPhases
    (congrArg PhaseMachine.phase (fresh_routed rfl (by decide)))
    (congrArg PhaseMachine.cycles (fresh_routed rfl (by decide)))
  refine ⟨by decide +kernel, few, fun step member submitted => ?_⟩
  exact (follows (congrArg PhaseMachine.preferred (fresh_routed rfl (by decide)))
    (congrArg PhaseMachine.active (fresh_routed rfl (by decide))) step member submitted).1

/-- An entry with an empty maker leg gets the long one in its phase state and keeps its own. -/
theorem empty_maker_leg_differs :
    ∃ (strategy : CycleStrategy) (pending : PendingEntry ℚ) (completions : List Completion),
      (machineOf pending).phase = highSlippageMaker ∧ (machineOf pending).cycles = 0 ∧
      ∃ step ∈ steps strategy pending completions, step.2.kind = .submitNextCycle ∧
        step.1.makerLeg ≠ (machineOf step.1).active :=
  ⟨{}, freshEntry "", [tradeableCompletion], rfl, rfl, _, List.mem_cons_self, by decide +kernel,
    by decide +kernel⟩

end ZeroFill

end LightFee.Engine
