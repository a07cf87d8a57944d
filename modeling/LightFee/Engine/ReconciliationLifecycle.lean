import LightFee.Engine.EngineState

/-!
# Lifecycles after reconciliation

Two passes of the runtime end by writing the lifecycle: the pass over close
reconciliations, by a cascade of emptiness checks, and the pass over pending
entries and closes, when it finds the engine reconciling. What a pass does before
it decides is work with arbitrary results, as the exchange answers. The passes are
steps of a run in which the rest of the engine moves between them.
-/

namespace LightFee.Engine

def setLifecycle (lifecycle : EngineLifecycle) (state : RuntimeState) : RuntimeState :=
  { state with engine := { state.engine with lifecycle := lifecycle } }

def setGlobalRiskMode (riskMode : GlobalRiskMode) (state : RuntimeState) : RuntimeState :=
  { state with engine := { state.engine with riskMode := riskMode } }

def transitionToRunning (state : RuntimeState) : RuntimeState :=
  setGlobalRiskMode .running (setLifecycle .running state)

def setLastError (lastError : Option String) (state : RuntimeState) : RuntimeState :=
  { state with lastError := lastError }

/-- A state that is latched closed, by its risk mode or by the operator. -/
def EngineState.isFailClosed (state : EngineState) : Bool :=
  decide (state.riskMode = .failClosed) || decide (state.operator.requestedMode = some .failClosed)

/-! ## The writers -/

/-- What a pass over close reconciliations decides after it changed something.
`confirmed` tells whether every open position is confirmed by both venues. -/
def closeReconciliationLifecycle (confirmed : Bool) (state : RuntimeState) : RuntimeState :=
  let activeEmpty := state.engine.openPositions.isEmpty
  if activeEmpty && state.pendingCloseReconciliations.isEmpty &&
      state.engine.pendingEntries.isEmpty &&
      state.engine.pendingPassiveCloses.isEmpty then
    setLastError none (setLifecycle .running state)
  else if state.engine.isFailClosed then
    setLastError (some "pending_close_reconciliations_fail_closed")
      (setLifecycle .riskOnly state)
  else if activeEmpty || confirmed then
    setLastError none (setLifecycle .running state)
  else if !state.pendingCloseReconciliations.isEmpty then
    setLastError (some "pending_close_reconciliations_active") (setLifecycle .riskOnly state)
  else state

/-- The end of `_reconcile_pending_state`. -/
def reconcilePendingStateEnd (state : RuntimeState) : RuntimeState :=
  if state.engine.lifecycle = .reconciling ∧ state.engine.pendingEntries.isEmpty ∧
      state.engine.pendingCloses.isEmpty then
    transitionToRunning state
  else state

/-! ## Passes and runs -/

/-- Queues and positions as a pass leaves them, before it decides the lifecycle. What its
body itself writes to the lifecycle or the risk mode is another step of the run. -/
structure PassWork where
  openPositions : OrderedDict String OpenPosition
  pendingEntries : OrderedDict String (PendingEntry ExactFloat)
  pendingCloses : OrderedDict String PendingClose
  pendingPassiveCloses : OrderedDict String PendingPassiveClose
  pendingResidualRepairs : List DynValue
  pendingCloseReconciliations : List DynValue

def PassWork.applyTo (work : PassWork) (state : RuntimeState) : RuntimeState :=
  { state with
    engine := { state.engine with
      openPositions := work.openPositions
      pendingEntries := work.pendingEntries
      pendingCloses := work.pendingCloses
      pendingPassiveCloses := work.pendingPassiveCloses
      pendingResidualRepairs := work.pendingResidualRepairs }
    pendingCloseReconciliations := work.pendingCloseReconciliations }

/-- No work is left that the cascade over close reconciliations looks at. -/
def PassWork.nothingLeft (work : PassWork) : Bool :=
  work.openPositions.isEmpty && work.pendingCloseReconciliations.isEmpty &&
    work.pendingEntries.isEmpty && work.pendingPassiveCloses.isEmpty

inductive ReconciliationStep where
  | closeReconciliations (work : PassWork) (changed confirmed : Bool)
  | pendingState (work : PassWork)

def ReconciliationStep.run (state : RuntimeState) : ReconciliationStep → RuntimeState
  | closeReconciliations work changed confirmed =>
    if changed then closeReconciliationLifecycle confirmed (work.applyTo state)
    else work.applyTo state
  | pendingState work => reconcilePendingStateEnd (work.applyTo state)

/-- A step of the engine: a reconciliation, or anything that the rest of it does. -/
inductive EngineStep where
  | reconcile (step : ReconciliationStep)
  | other (next : RuntimeState)

def EngineStep.run (state : RuntimeState) : EngineStep → RuntimeState
  | reconcile step => step.run state
  | other next => next

/-- A latched state is not left running, and its risk mode stays. -/
def KeepsFailClosed (before after : RuntimeState) : Prop :=
  before.engine.isFailClosed = true → after.engine.lifecycle ≠ .running ∧
    (before.engine.riskMode = .failClosed → after.engine.riskMode = .failClosed)

/-- Every reconciliation of the run keeps the latch. -/
def RunKeeps (state : RuntimeState) : List EngineStep → Prop
  | [] => True
  | step :: rest =>
    (match step with
      | .reconcile reconciliation => KeepsFailClosed state (reconciliation.run state)
      | .other _ => True) ∧ RunKeeps (step.run state) rest

/-- A pass over a latched state leaves work behind it; when it does not decide, the
state is not running already. -/
def ReconciliationStep.LeavesWork (state : RuntimeState) : ReconciliationStep → Prop
  | closeReconciliations work changed _ =>
    if changed then work.nothingLeft = false else state.engine.lifecycle ≠ .running
  | pendingState work =>
    state.engine.lifecycle ≠ .running ∧
      ¬ (state.engine.lifecycle = .reconciling ∧ work.pendingEntries.isEmpty ∧
        work.pendingCloses.isEmpty)

/-- Every reconciliation that the run makes in a latched state leaves work. -/
def RunLeavesWork (state : RuntimeState) : List EngineStep → Prop
  | [] => True
  | step :: rest =>
    (match step with
      | .reconcile reconciliation =>
        state.engine.isFailClosed = true → reconciliation.LeavesWork state
      | .other _ => True) ∧ RunLeavesWork (step.run state) rest

/-! ## What the writers do to a latched state -/

theorem applyTo_failClosed (work : PassWork) (state : RuntimeState) :
    (work.applyTo state).engine.isFailClosed = state.engine.isFailClosed := rfl

/-- Without work the cascade runs the engine, latched or not. -/
theorem cascade_nothingLeft (confirmed : Bool) (work : PassWork) (state : RuntimeState)
    (nothing : work.nothingLeft = true) :
    closeReconciliationLifecycle confirmed (work.applyTo state) =
      setLastError none (setLifecycle .running (work.applyTo state)) :=
  if_pos nothing

/-- With work left a latched state becomes risk-only. -/
theorem cascade_latched (confirmed : Bool) (work : PassWork) (state : RuntimeState)
    (left : work.nothingLeft = false) (latched : state.engine.isFailClosed = true) :
    closeReconciliationLifecycle confirmed (work.applyTo state) =
      setLastError (some "pending_close_reconciliations_fail_closed")
        (setLifecycle .riskOnly (work.applyTo state)) := by
  have someLeft : ¬ work.nothingLeft = true := by simp [left]
  have decided : closeReconciliationLifecycle confirmed (work.applyTo state) =
      if (work.applyTo state).engine.isFailClosed then
        setLastError (some "pending_close_reconciliations_fail_closed")
          (setLifecycle .riskOnly (work.applyTo state))
      else _ := if_neg someLeft
  rw [decided, applyTo_failClosed, if_pos latched]

theorem step_keeps_iff (state : RuntimeState) (latched : state.engine.isFailClosed = true)
    (step : ReconciliationStep) :
    KeepsFailClosed state (step.run state) ↔ step.LeavesWork state := by
  cases step with
  | closeReconciliations work changed confirmed =>
    cases changed with
    | false =>
      constructor
      · intro keeps
        exact (keeps latched).1
      · intro notRunning _
        exact ⟨notRunning, id⟩
    | true =>
      cases nothing : work.nothingLeft with
      | false =>
        constructor
        · intro _
          exact nothing
        · intro _ _
          have decided : (ReconciliationStep.closeReconciliations work true confirmed).run state =
              _ := cascade_latched confirmed work state nothing latched
          rw [decided]
          exact ⟨by rintro ⟨⟩, id⟩
      | true =>
        constructor
        · intro keeps
          have decided : (ReconciliationStep.closeReconciliations work true confirmed).run state =
              _ := cascade_nothingLeft confirmed work state nothing
          rw [decided] at keeps
          exact absurd rfl (keeps latched).1
        · intro left
          have left : work.nothingLeft = false := left
          rw [nothing] at left
          cases left
  | pendingState work =>
    by_cases resolved : state.engine.lifecycle = .reconciling ∧
        work.pendingEntries.isEmpty ∧ work.pendingCloses.isEmpty
    · have ended : (ReconciliationStep.pendingState work).run state =
          transitionToRunning (work.applyTo state) := if_pos resolved
      constructor
      · intro keeps
        rw [ended] at keeps
        exact absurd rfl (keeps latched).1
      · rintro ⟨_, unresolved⟩
        exact absurd resolved unresolved
    · have ended : (ReconciliationStep.pendingState work).run state = work.applyTo state :=
        if_neg resolved
      constructor
      · intro keeps
        rw [ended] at keeps
        exact ⟨(keeps latched).1, resolved⟩
      · rintro ⟨notRunning, _⟩ _
        rw [ended]
        exact ⟨notRunning, id⟩

theorem run_keeps_fail_closed_iff (state : RuntimeState) (run : List EngineStep) :
    RunKeeps state run ↔ RunLeavesWork state run := by
  induction run generalizing state with
  | nil => exact Iff.rfl
  | cons step rest ih =>
    apply and_congr
    · cases step with
      | other next => exact Iff.rfl
      | reconcile reconciliation =>
        constructor
        · intro keeps latched
          exact (step_keeps_iff state latched reconciliation).mp keeps
        · intro leaves latched
          exact (step_keeps_iff state latched reconciliation).mpr (leaves latched) latched
    · exact ih (step.run state)

/-- A flat engine that the operator closed, with one reconciliation to settle. -/
def latchedState : RuntimeState where
  engine :=
    { lifecycle := .riskOnly, riskMode := .failClosed,
      operator := { requestedMode := some .failClosed } }
  pendingCloseReconciliations := [.dict [("position_id", .str "p1"), ("kind", .str "final")]]

/-- Nothing is left. -/
def settledWork : PassWork where
  openPositions := .empty
  pendingEntries := .empty
  pendingCloses := .empty
  pendingPassiveCloses := .empty
  pendingResidualRepairs := []
  pendingCloseReconciliations := []

/-- Settling it runs the engine. -/
theorem settling_runs_fail_closed :
    ¬ RunKeeps latchedState [.reconcile (.closeReconciliations settledWork true false)] := by
  rintro ⟨keeps, _⟩
  have kept := keeps (by decide)
  exact kept.1 (by decide)

end LightFee.Engine
