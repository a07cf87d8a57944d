import LightFee.Engine.OperatorControl

/-!
# A requested fail-closed in a live engine

The writers of lifecycle and risk mode in a live engine: supervisions, entering fail-closed, the
recovery core's clearances, the end of a startup recovery and the passes over reconciliations.
None of them leaves a fail-closed that the operator requested, so no run of them enters positions.
-/

namespace LightFee.Engine

/-! ## The writers -/

def enterFailClosed (state : RuntimeState) : RuntimeState :=
  setGlobalRiskMode .failClosed (setLifecycle .riskOnly state)

/-- A decision that lets entries run. -/
def RecoveryDecision.permitsRunning (core : RecoveryDecision) : Bool :=
  decide (core.blockReason.getD "" = "") && core.entryAllowed &&
    (decide (core.kind = .runningClean) || decide (core.kind = .runningWithEvidenceGap))

/-- The state that `clear_risk_mode_for_recovery` leaves, if it clears. -/
def clearRiskModeForRecovery (coreDecision : Option RecoveryDecision) (state : RuntimeState) :
    Option RuntimeState :=
  match coreDecision with
  | none => none
  | some core =>
    if !core.permitsRunning then none
    else if decide (state.engine.recoveryBlockedReason.getD "" ≠ "") && !core.clearPreviousBlock then
      none
    else some { state with engine := { state.engine with
      riskMode := .running
      lifecycle := .running
      recoveryBlockedReason := none
      recoveryBlockedAtMs := 0 } }

/-- A recovery block with its time. -/
def blockRecovery (reason : Option String) (nowMs : Int) (state : RuntimeState) : RuntimeState :=
  { state with engine := { state.engine with
    recoveryBlockedReason := reason
    recoveryBlockedAtMs := nowMs } }

/-- `clear_legacy_recovery_block_via_core`. -/
def clearLegacyRecoveryBlockViaCore (core : RecoveryDecision) (state : SupervisedState) :
    SupervisedState :=
  if clearsLegacyBlock state.runtime.engine core then
    { runtime := { state.runtime with engine := { state.runtime.engine with
        lifecycle := .running
        riskMode := .running
        recoveryBlockedReason := none
        recoveryBlockedAtMs := 0 } }
      globalRiskReason := none }
  else state

section Startup

variable [TextCase] (print : ExactFloat → PrintedFloat)

/-- Without work the engine is cleared or blocked; the lifecycle of a blocked one stays. -/
def finalizeWithoutWork (nowMs : Int) (state : RuntimeState) : RuntimeState :=
  let core := startupDecision print state
  match clearRiskModeForRecovery (some core) state with
  | some cleared => setLastError none cleared
  | none =>
    if core.blockReason.getD "" ≠ "" then blockRecovery core.blockReason nowMs state else state

/-- With positions the engine runs, unless there are too many or the core blocks it. -/
def finalizeWithPositions (maxPositions : Nat) (nowMs : Int) (state : RuntimeState) :
    RuntimeState :=
  let core := startupDecision print state
  if maxPositions < state.engine.openPositions.entries.length then
    setLastError (some "open_positions_exceed_configured_max") (enterFailClosed state)
  else
    match clearRiskModeForRecovery (some core) state with
    | some cleared => setLastError none cleared
    | none =>
      if core.blockReason.getD "" ≠ "" then
        setLastError (some ("startup recovery blocked: " ++ core.blockReason.getD ""))
          (setLifecycle .riskOnly (blockRecovery core.blockReason nowMs state))
      else state

def pendingWorkError (state : RuntimeState) : String :=
  "startup recovery blocked: pending_entries=" ++
    toString state.engine.pendingEntries.entries.length ++ ", pending_closes=" ++
    toString state.engine.pendingCloses.entries.length ++ ", pending_passive_closes=" ++
    toString state.engine.pendingPassiveCloses.entries.length ++ ", pending_residual_repairs=" ++
    toString state.engine.pendingResidualRepairs.length

/-- Work without positions waits for the truth of the exchange. -/
def finalizeWithPendingWork (nowMs : Int) (state : RuntimeState) : RuntimeState :=
  let core := startupDecision print state
  let reason := if core.blockReason.getD "" ≠ "" then core.blockReason.getD ""
    else "truth_unavailable_for_required_recovery"
  setLastError (some (pendingWorkError state))
    (setLifecycle .riskOnly (blockRecovery (some reason) nowMs state))

def finalizeStartupRecovery (maxPositions : Nat) (nowMs : Int) (state : RuntimeState) :
    RuntimeState :=
  if !needsReconciliation state.engine then finalizeWithoutWork print nowMs state
  else if !state.engine.openPositions.isEmpty then
    finalizeWithPositions print maxPositions nowMs state
  else finalizeWithPendingWork print nowMs state

end Startup

/-! ## Steps of a live engine -/

/-- A step that writes the lifecycle or the risk mode, or moves the work of the engine. -/
inductive RiskStep where
  | supervise (strategy : GlobalRiskStrategy) (healthRatios : List ExactFloat)
      (venueHealthViews : Option (List VenueHealthView))
  | enterFailClosed
  /-- A refresh of the recovery decision clears the risk mode, on any evidence about the rest. -/
  | clearForRecovery (evidence : RecoveryEvidenceSnapshot)
  | clearLegacyBlock (core : RecoveryDecision)
  /-- A refresh of the recovery decision blocks. -/
  | blockRecovery (reason : String) (nowMs : Int)
  | finalizeStartup (maxPositions : Nat) (nowMs : Int)
  | reconcile (step : ReconciliationStep)
  | work (work : PassWork)

/-- Evidence about a state tells the operator's request. -/
def evidenceOf (state : RuntimeState) (evidence : RecoveryEvidenceSnapshot) :
    RecoveryEvidenceSnapshot :=
  { evidence with operatorFailClosed := state.engine.operator.requestedMode = some .failClosed }

def RiskStep.run [TextCase] (print : ExactFloat → PrintedFloat) (state : SupervisedState) :
    RiskStep → SupervisedState
  | .supervise strategy healthRatios venueHealthViews =>
    (Engine.supervise strategy healthRatios venueHealthViews state).1
  | .enterFailClosed => { state with runtime := Engine.enterFailClosed state.runtime }
  | .clearForRecovery evidence =>
    { state with
      runtime := (clearRiskModeForRecovery
        (some (Engine.decide (evidenceOf state.runtime evidence))) state.runtime).getD state.runtime }
  | .clearLegacyBlock core => clearLegacyRecoveryBlockViaCore core state
  | .blockRecovery reason nowMs =>
    { state with
      runtime := setLifecycle .riskOnly (Engine.blockRecovery (some reason) nowMs state.runtime) }
  | .finalizeStartup maxPositions nowMs =>
    { state with runtime := finalizeStartupRecovery print maxPositions nowMs state.runtime }
  | .reconcile step => { state with runtime := step.run state.runtime }
  | .work moved => { state with runtime := moved.applyTo state.runtime }

def RiskStep.runAll [TextCase] (print : ExactFloat → PrintedFloat) (state : SupervisedState)
    (steps : List RiskStep) : SupervisedState :=
  steps.foldl (RiskStep.run print) state

/-! ## No step releases the operator's request -/

/-- Fail-closed at the operator's request; the engine is past reconciling. -/
structure HeldClosed (state : RuntimeState) : Prop where
  requested : state.engine.operator.requestedMode = some .failClosed
  riskMode : state.engine.riskMode = .failClosed
  lifecycle : state.engine.lifecycle ≠ .reconciling

/-- A held engine counts as fail-closed and enters nothing. -/
theorem HeldClosed.closed {state : RuntimeState} (held : HeldClosed state) :
    canEnterNewPositions state = false ∧
      deriveEngineMode state.engine.lifecycle state.engine.riskMode = .failClosed := by
  constructor
  · simp [canEnterNewPositions, isRunning, held.riskMode]
  · rw [deriveEngineMode, if_pos (Or.inl held.riskMode)]

theorem HeldClosed.canClear {state : RuntimeState} (held : HeldClosed state) :
    failClosedCanClear state = false := by
  simp [failClosedCanClear, held.requested]

theorem HeldClosed.of_fields {state next : RuntimeState} (held : HeldClosed state)
    (operator : next.engine.operator = state.engine.operator)
    (riskMode : next.engine.riskMode = state.engine.riskMode)
    (lifecycle : next.engine.lifecycle = state.engine.lifecycle ∨ next.engine.lifecycle = .riskOnly ∨
      next.engine.lifecycle = .running) : HeldClosed next where
  requested := by rw [operator, held.requested]
  riskMode := riskMode.trans held.riskMode
  lifecycle := by
    rcases lifecycle with same | riskOnly | running
    · rw [same]
      exact held.lifecycle
    · rw [riskOnly]
      decide
    · rw [running]
      decide

section Steps

variable [TextCase] {print : ExactFloat → PrintedFloat}

/-- The core preserves what the operator requested, on any evidence about the rest. -/
theorem decide_requested {evidence : RecoveryEvidenceSnapshot}
    (requested : evidence.operatorFailClosed = true) :
    (Engine.decide evidence).permitsRunning = false := by
  rw [Engine.decide, requested, if_pos rfl]
  simp [RecoveryDecision.permitsRunning, blockingDecision]

theorem clear_requested {evidence : RecoveryEvidenceSnapshot} {state : RuntimeState}
    (requested : evidence.operatorFailClosed = true) :
    clearRiskModeForRecovery (some (Engine.decide evidence)) state = none := by
  simp only [clearRiskModeForRecovery, decide_requested requested, Bool.not_false, if_true]

theorem finalize_held {state : RuntimeState} (held : HeldClosed state) (maxPositions : Nat)
    (nowMs : Int) : HeldClosed (finalizeStartupRecovery print maxPositions nowMs state) := by
  have requested : (startupEvidence print state).operatorFailClosed = true :=
    decide_eq_true held.requested
  have refused : clearRiskModeForRecovery (some (startupDecision print state)) state = none :=
    clear_requested requested
  rw [finalizeStartupRecovery]
  split_ifs with clean positions
  · simp only [finalizeWithoutWork, refused]
    split_ifs
    · exact held.of_fields rfl rfl (Or.inl rfl)
    · exact held
  · simp only [finalizeWithPositions, refused]
    split_ifs
    · exact held.of_fields rfl held.riskMode.symm (Or.inr (Or.inl rfl))
    · exact held.of_fields rfl rfl (Or.inr (Or.inl rfl))
    · exact held
  · exact held.of_fields rfl rfl (Or.inr (Or.inl rfl))

omit [TextCase] in
theorem supervise_held {state : SupervisedState} (held : HeldClosed state.runtime)
    (strategy : GlobalRiskStrategy) (healthRatios : List ExactFloat)
    (venueHealthViews : Option (List VenueHealthView)) :
    HeldClosed (Engine.supervise strategy healthRatios venueHealthViews state).1.runtime := by
  have latched : state.riskMode = .failClosed := held.riskMode
  have kept := held.canClear
  rw [Engine.supervise]
  split_ifs with off clear
  · rw [kept] at clear
    cases clear.2
  · exact held
  · rw [updateGlobalRiskMode]
    split_ifs with milder clear
    · rw [kept] at clear
      cases clear
    · exact held
    · have same : (derivedRiskMode strategy healthRatios venueHealthViews).mode = .failClosed :=
        not_not.mp fun differs => milder ⟨latched, differs⟩
      have unchanged : ¬ (derivedRiskMode strategy healthRatios venueHealthViews).mode ≠
          state.riskMode := by
        rw [same, latched]
        exact not_not.mpr rfl
      simp only [writeRiskMode, SupervisedState.riskMode] at unchanged ⊢
      simpa [unchanged] using held

omit [TextCase] in
theorem reconcile_held {state : RuntimeState} (held : HeldClosed state) (step : ReconciliationStep) :
    HeldClosed (step.run state) := by
  cases step with
  | closeReconciliations work changed confirmed =>
    simp only [ReconciliationStep.run, closeReconciliationLifecycle]
    split_ifs <;>
      first
        | exact held.of_fields rfl rfl (Or.inl rfl)
        | exact held.of_fields rfl rfl (Or.inr (Or.inl rfl))
        | exact held.of_fields rfl rfl (Or.inr (Or.inr rfl))
  | pendingState work =>
    have past : ¬ (work.applyTo state).engine.lifecycle = .reconciling := held.lifecycle
    simp only [ReconciliationStep.run, reconcilePendingStateEnd, past, false_and, if_false]
    exact held.of_fields rfl rfl (Or.inl rfl)

theorem step_held {state : SupervisedState} (held : HeldClosed state.runtime) (step : RiskStep) :
    HeldClosed (step.run print state).runtime := by
  cases step with
  | supervise strategy healthRatios venueHealthViews =>
    exact supervise_held held strategy healthRatios venueHealthViews
  | enterFailClosed => exact held.of_fields rfl held.riskMode.symm (Or.inr (Or.inl rfl))
  | clearForRecovery evidence =>
    have refused : clearRiskModeForRecovery
        (some (Engine.decide (evidenceOf state.runtime evidence))) state.runtime = none :=
      clear_requested (decide_eq_true held.requested)
    simp only [RiskStep.run, refused, Option.getD_none]
    exact held
  | clearLegacyBlock core =>
    have refused : clearsLegacyBlock state.runtime.engine core = false := by
      unfold clearsLegacyBlock
      cases state.runtime.engine.recoveryBlockedReason with
      | none => rfl
      | some reason => simp [held.requested]
    simp only [RiskStep.run, clearLegacyRecoveryBlockViaCore, refused, Bool.false_eq_true, if_false]
    exact held
  | blockRecovery reason nowMs => exact held.of_fields rfl rfl (Or.inr (Or.inl rfl))
  | finalizeStartup maxPositions nowMs => exact finalize_held held maxPositions nowMs
  | reconcile step => exact reconcile_held held step
  | work moved => exact held.of_fields rfl rfl (Or.inl rfl)

theorem run_held {state : SupervisedState} (held : HeldClosed state.runtime) (steps : List RiskStep) :
    HeldClosed (RiskStep.runAll print state steps).runtime := by
  induction steps generalizing state with
  | nil => exact held
  | cons step rest ih => exact ih (step_held held step)

/-! ## From the command to the end of a session -/

omit [TextCase] in
theorem migrateDust_riskMode (state : EngineState) : state.migrateDust.riskMode = state.riskMode := by
  have step : ∀ (ids : List String) (state : EngineState),
      (ids.foldl EngineState.migrateDustPosition state).riskMode = state.riskMode := by
    intro ids
    induction ids with
    | nil => exact fun _ => rfl
    | cons first rest ih =>
      intro state
      rw [List.foldl_cons, ih, EngineState.migrateDustPosition]
      cases state.openPositions.find? first <;> rfl
  exact step state.dustIds state

/-- A start keeps a requested fail-closed, whatever else it recovers. -/
theorem started_held {loaded : RuntimeState} (requested : loaded.engine.operator.requestedMode =
    some .failClosed) (riskMode : loaded.engine.riskMode = .failClosed) (clock : ClockReadings)
    (nowMs : Int) : HeldClosed (loaded.started print clock nowMs) := by
  have risky : (loaded.assessed print nowMs).lifecycle = .riskOnly := by
    simp [RuntimeState.assessed, EngineState.runWithoutWork, EngineState.leaveBooting,
      assess_operator print nowMs requested]
  have closed : (loaded.assessed print nowMs).riskMode = .failClosed := by
    rw [← riskMode, RuntimeState.assessed, EngineState.runWithoutWork, EngineState.leaveBooting,
      EngineState.assess]
    dsimp only
    split_ifs <;> rfl
  constructor
  · rw [RuntimeState.started, EngineState.normalized_operator, (assessed_frame print loaded nowMs).1]
    exact requested
  · rw [RuntimeState.started, EngineState.normalize_stages]
    exact (migrateDust_riskMode _).trans closed
  · have same : (loaded.assessed print nowMs).repairedPositions.migrateDust.lifecycle =
        (loaded.assessed print nowMs).lifecycle := (EngineState.migrate_controls _ _).1
    rw [RuntimeState.started, EngineState.normalize_stages, EngineState.rest_lifecycle, same, risky]
    split_ifs <;> decide

/-- From commands to the end of a session: the operator's processes close the engine and do not
resume it, a live process recovers what they left and starts, and then its supervisions,
clearances and reconciliations come in any order. After each of them the engine counts as
fail-closed and enters nothing. -/
theorem requested_fail_closed_lasts {Process : Type} [DecidableEq Process]
    {world next : LeasedStore.World Process EngineState CommandApplied}
    {actions : List (LeasedStore.Action Process OperatorCommand)} (unattended : Unattended world)
    (current : LeasedStore.LoadsCurrent operatorBehaviour world actions)
    (ran : LeasedStore.run operatorBehaviour world actions = some next)
    {earlier later : List OperatorCommand}
    (given : LeasedStore.commands actions = earlier ++ .failClosed :: later)
    (stays : OperatorCommand.resumeIfSafe ∉ later) (clock : ClockReadings) (nowMs : Int)
    (rest : RuntimeState) (reason : Option HealthReason) (steps : List RiskStep) :
    let loaded := { rest with engine := LeasedStore.recovered operatorBehaviour next }
    let ended := RiskStep.runAll print ⟨loaded.started print clock nowMs, reason⟩ steps
    canEnterNewPositions ended.runtime = false ∧
      deriveEngineMode ended.runtime.engine.lifecycle ended.runtime.engine.riskMode = .failClosed ∧
      ended.runtime.engine.operator.requestedMode = some .failClosed := by
  intro loaded ended
  have latched : OperatorLatched loaded.engine :=
    (operator_commands_serial unattended current ran).2 earlier later given fun resumes =>
      absurd resumes stays
  have held : HeldClosed ended.runtime :=
    run_held (started_held latched.requested latched.riskMode clock nowMs) steps
  exact ⟨held.closed.1, held.closed.2, held.requested⟩

end Steps

section Session

local instance sessionTexts : TextCase := .ascii

/-- A clock that stands still. -/
def sessionClock : ClockReadings where
  atEntry _ := 1
  atClose _ := 1
  atEntry_pos _ := Int.one_pos
  atClose_pos _ := Int.one_pos

/-- A session after a close by the operator: a supervision without the monitor and a pass that
finds nothing left. -/
theorem requested_fail_closed_lasts_session :
    ∃ next, LeasedStore.run operatorBehaviour unattendedWorld closingActions = some next ∧
      ∀ print work,
        canEnterNewPositions (RiskStep.runAll print
          ⟨RuntimeState.started print sessionClock 1
            { engine := LeasedStore.recovered operatorBehaviour next }, none⟩
          [.supervise {} [] none, .reconcile (.closeReconciliations work true true)]).runtime =
            false := by
  obtain ⟨next, ran⟩ := closingActions_run
  refine ⟨next, ran, fun print work => ?_⟩
  exact (@requested_fail_closed_lasts _ print Nat _ _ _ _ unattendedWorld_unattended
    closingActions_current ran [] [] rfl List.not_mem_nil sessionClock 1
    { engine := LeasedStore.recovered operatorBehaviour next } none
    [.supervise {} [] none, .reconcile (.closeReconciliations work true true)]).1

end Session

end LightFee.Engine
