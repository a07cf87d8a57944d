import LightFee.Engine.ReconciliationLifecycle
import LightFee.Engine.RiskActions
import LightFee.Engine.RollbackReplay
import LightFee.Library.FloatExtrema

/-!
# The global risk mode

The supervisor derives the risk mode from the worst health ratio and from the action of every
venue, takes the hardest of them and writes it, unless the engine is latched closed. Other writers
enter fail-closed, or leave it on a decision of the recovery core. A fail-closed that the operator
requested is left by none of them.
-/

namespace LightFee.Engine

open LightFee.Venues

namespace GlobalRiskMode

def order : GlobalRiskMode → Nat
  | running => 0
  | entryPaused => 1
  | reduceOnly => 2
  | failClosed => 3

def atLeast (mode other : GlobalRiskMode) : Bool := other.order ≤ mode.order

def max (mode other : GlobalRiskMode) : GlobalRiskMode := if mode.atLeast other then mode else other

theorem order_injective : Function.Injective order := by
  intro left right same
  cases left <;> cases right <;> first | rfl | cases same

instance : LinearOrder GlobalRiskMode := LinearOrder.lift' order order_injective

theorem le_iff {left right : GlobalRiskMode} : left ≤ right ↔ left.order ≤ right.order := Iff.rfl

end GlobalRiskMode

inductive EngineMode where
  | running
  | recovering
  | failClosed
deriving DecidableEq

/-- The value of a lifecycle is never "fail_closed"; older snapshots had such a member. -/
def deriveEngineMode (lifecycle : EngineLifecycle) (risk : GlobalRiskMode) : EngineMode :=
  if risk = .failClosed ∨ lifecycle.value = "fail_closed" then .failClosed
  else if [EngineLifecycle.booting, .reconciling, .riskOnly].contains lifecycle then .recovering
  else if lifecycle = .running ∧ risk = .running then .running
  else .recovering

def isRunning (state : RuntimeState) : Bool :=
  decide (state.engine.lifecycle = .running) && decide (state.engine.riskMode = .running)

def canEnterNewPositions (state : RuntimeState) : Bool := isRunning state

/-! ## Health lines -/

/-- The strategy's lines, and which of them are drawn. -/
structure GlobalRiskStrategy extends RiskStrategy where
  riskMonitorEnabled : Bool := false
  warningLineEnabled : Bool := true
  warningPauseNewEntriesEnabled : Bool := true
  deleverLineEnabled : Bool := true
  deathLineEnabled : Bool := true

structure RiskHealthView where
  minHealthRatio : ExactFloat
  deathCondition : Bool
  deleverCondition : Bool
  warningCondition : Bool

def evaluateRiskHealth (healthRatios : List ExactFloat) (config : GlobalRiskStrategy) :
    RiskHealthView :=
  match healthRatios with
  | [] =>
    { minHealthRatio := .infinite false
      deathCondition := false
      deleverCondition := false
      warningCondition := false }
  | first :: rest =>
    let minRatio := rest.foldl ExactFloat.min first
    { minHealthRatio := minRatio
      deathCondition := config.deathLineEnabled && minRatio.le config.deathHealthRatio
      deleverCondition := config.deleverLineEnabled && minRatio.le config.deleverHealthRatio
      warningCondition := config.warningLineEnabled && minRatio.le config.warningHealthRatio }

/-- The mode under the health lines alone. -/
def healthMode (strategy : GlobalRiskStrategy) (health : RiskHealthView) : GlobalRiskMode :=
  if health.deathCondition && strategy.deathLineEnabled then .failClosed
  else if health.deleverCondition && strategy.deleverLineEnabled then .reduceOnly
  else if health.warningCondition && strategy.warningLineEnabled &&
      strategy.warningPauseNewEntriesEnabled then .entryPaused
  else .running

def supervisorActionMode (strategy : GlobalRiskStrategy) : VenueHealthAction → GlobalRiskMode
  | .normal => .running
  | .pauseEntry => if strategy.warningLineEnabled then .entryPaused else .running
  | .reduceOnly =>
    if strategy.deleverLineEnabled then .reduceOnly
    else if strategy.warningLineEnabled then .entryPaused
    else .running
  | .failClosed =>
    if strategy.deathLineEnabled then .failClosed
    else if strategy.deleverLineEnabled then .reduceOnly
    else if strategy.warningLineEnabled then .entryPaused
    else .running

/-- A derived mode and the reason of the last venue that raised it. -/
structure DerivedMode where
  mode : GlobalRiskMode
  reason : Option HealthReason := none

def viewReason (view : VenueHealthView) : HealthReason :=
  match view.reasons with
  | first :: _ => first
  | [] => { label := "venue_health:" ++ view.venue.value }

/-- One venue of the loop: it counts if its candidate is harder. -/
def raiseMode (strategy : GlobalRiskStrategy) (derived : DerivedMode) (view : VenueHealthView) :
    DerivedMode :=
  let candidate := supervisorActionMode strategy view.action
  if candidate.atLeast derived.mode && decide (candidate ≠ derived.mode) then
    { mode := candidate, reason := some (viewReason view) }
  else derived

def derivedRiskMode (strategy : GlobalRiskStrategy) (healthRatios : List ExactFloat)
    (venueHealthViews : Option (List VenueHealthView)) : DerivedMode :=
  let start := { mode := healthMode strategy (evaluateRiskHealth healthRatios strategy) }
  if strategy.riskMonitorEnabled then
    (venueHealthViews.getD []).foldl (raiseMode strategy) start
  else start

/-! ## The supervisor -/

inductive RiskEvent where
  | globalModeChanged (before after : GlobalRiskMode) (minHealthRatio : ExactFloat)
  | failClosedEntered (minHealthRatio : ExactFloat)
  | entryPauseCleared
  | failClosedAutoResumed (before after : GlobalRiskMode) (minHealthRatio : Option ExactFloat)
  | lifecycleDecisionObserved (before after : GlobalRiskMode) (minHealthRatio : ExactFloat)
  | deathLineTriggered (minHealthRatio : ExactFloat)
  | deleverLineTriggered (minHealthRatio : ExactFloat)
  | warningLineTriggered (minHealthRatio : ExactFloat)
deriving DecidableEq

/-- The state that the supervisor writes. -/
structure SupervisedState where
  runtime : RuntimeState
  globalRiskReason : Option HealthReason := none

namespace SupervisedState

def riskMode (state : SupervisedState) : GlobalRiskMode := state.runtime.engine.riskMode

def withRiskMode (state : SupervisedState) (mode : GlobalRiskMode) : SupervisedState :=
  { state with runtime := setGlobalRiskMode mode state.runtime }

def withLifecycle (state : SupervisedState) (lifecycle : EngineLifecycle) : SupervisedState :=
  { state with runtime := setLifecycle lifecycle state.runtime }

/-- The engine runs again, without an error and without a reason. -/
def resumed (state : SupervisedState) : SupervisedState where
  runtime := setLastError none (setLifecycle .running state.runtime)
  globalRiskReason := none

end SupervisedState

/-- `_fail_closed_can_clear`. -/
def failClosedCanClear (state : RuntimeState) : Bool :=
  decide (state.engine.operator.requestedMode ≠ some .failClosed) &&
    decide (state.engine.recoveryBlockedReason.getD "" = "") && !needsReconciliation state.engine

/-- The fields that `lifecycle_diagnostic_snapshot` compares. -/
def lifecycleDiagnosticSnapshot (state : RuntimeState) :
    EngineLifecycle × GlobalRiskMode × Option String × Option String :=
  (state.engine.lifecycle, state.engine.riskMode, state.engine.recoveryBlockedReason,
    state.lastError)

/-- Write a derived mode; `autoResumed` tells whether the engine was just released. -/
def writeRiskMode (before state : SupervisedState) (autoResumed : Bool) (newMode : GlobalRiskMode)
    (minHealthRatio : ExactFloat) : SupervisedState × List RiskEvent :=
  let oldMode := before.riskMode
  let changed := decide (newMode ≠ oldMode)
  let entered := changed && decide (newMode = .failClosed)
  let written := if changed then state.withRiskMode newMode else state
  let written := if entered then written.withLifecycle .riskOnly else written
  let observed := decide (lifecycleDiagnosticSnapshot before.runtime ≠
    lifecycleDiagnosticSnapshot written.runtime)
  (written,
    (if changed then [.globalModeChanged oldMode newMode minHealthRatio] else []) ++
    (if entered then [.failClosedEntered minHealthRatio] else []) ++
    (if changed && decide (oldMode = .entryPaused) && decide (newMode = .running) then
      [.entryPauseCleared] else []) ++
    (if autoResumed then [.failClosedAutoResumed oldMode newMode (some minHealthRatio)]
      else if observed then [.lifecycleDecisionObserved oldMode newMode minHealthRatio] else []))

def updateGlobalRiskMode (strategy : GlobalRiskStrategy) (healthRatios : List ExactFloat)
    (venueHealthViews : Option (List VenueHealthView)) (state : SupervisedState) :
    SupervisedState × List RiskEvent :=
  let derived := derivedRiskMode strategy healthRatios venueHealthViews
  let minHealthRatio := (evaluateRiskHealth healthRatios strategy).minHealthRatio
  let explained := { state with globalRiskReason := derived.reason.or state.globalRiskReason }
  if state.riskMode = .failClosed ∧ derived.mode ≠ .failClosed then
    if failClosedCanClear state.runtime then
      writeRiskMode explained explained.resumed true derived.mode minHealthRatio
    else (explained, [])
  else writeRiskMode explained explained false derived.mode minHealthRatio

/-- The lines that a supervision names in the journal. -/
def lineEvents (strategy : GlobalRiskStrategy) (health : RiskHealthView) : List RiskEvent :=
  if health.deathCondition then [.deathLineTriggered health.minHealthRatio]
  else if health.deleverCondition then [.deleverLineTriggered health.minHealthRatio]
  else if health.warningCondition && strategy.warningPauseNewEntriesEnabled then
    [.warningLineTriggered health.minHealthRatio]
  else []

/-- One supervision, with the views of the supervised venues where there are adapters. -/
def supervise (strategy : GlobalRiskStrategy) (healthRatios : List ExactFloat)
    (venueHealthViews : Option (List VenueHealthView)) (state : SupervisedState) :
    SupervisedState × List RiskEvent :=
  if !strategy.riskMonitorEnabled then
    if state.riskMode = .failClosed ∧ failClosedCanClear state.runtime then
      (state.resumed.withRiskMode .running, [.failClosedAutoResumed .failClosed .running none])
    else (state, [])
  else
    let (updated, events) := updateGlobalRiskMode strategy healthRatios venueHealthViews state
    (updated, events ++ lineEvents strategy (evaluateRiskHealth healthRatios strategy))

/-! ## The hardest candidate wins -/

theorem raiseMode_mode (strategy : GlobalRiskStrategy) (derived : DerivedMode)
    (view : VenueHealthView) : (raiseMode strategy derived view).mode =
      max derived.mode (supervisorActionMode strategy view.action) := by
  rw [raiseMode]
  by_cases below : derived.mode ≤ supervisorActionMode strategy view.action
  · have atLeast : (supervisorActionMode strategy view.action).atLeast derived.mode = true :=
      decide_eq_true (GlobalRiskMode.le_iff.mp below)
    by_cases same : supervisorActionMode strategy view.action = derived.mode
    · simp [same]
    · simp [atLeast, same, max_eq_right below]
  · have notAtLeast : (supervisorActionMode strategy view.action).atLeast derived.mode = false :=
      decide_eq_false fun holds => below (GlobalRiskMode.le_iff.mpr holds)
    simp [notAtLeast, max_eq_left (le_of_not_ge below)]

theorem raiseAll_mode (strategy : GlobalRiskStrategy) (views : List VenueHealthView)
    (start : DerivedMode) : (views.foldl (raiseMode strategy) start).mode =
      (views.map (fun view => supervisorActionMode strategy view.action)).foldl max start.mode := by
  induction views generalizing start with
  | nil => rfl
  | cons view rest ih =>
    rw [List.foldl_cons, ih, raiseMode_mode, List.map_cons, List.foldl_cons]

/-- The candidates: the health lines, and the venues where the monitor is on. -/
def modeCandidates (strategy : GlobalRiskStrategy) (healthRatios : List ExactFloat)
    (venueHealthViews : Option (List VenueHealthView)) : List GlobalRiskMode :=
  healthMode strategy (evaluateRiskHealth healthRatios strategy) ::
    if strategy.riskMonitorEnabled then
      (venueHealthViews.getD []).map (fun view => supervisorActionMode strategy view.action)
    else []

/-- The derived mode is the hardest of the candidates. -/
theorem derivedRiskMode_max (strategy : GlobalRiskStrategy) (healthRatios : List ExactFloat)
    (venueHealthViews : Option (List VenueHealthView)) :
    (modeCandidates strategy healthRatios venueHealthViews).max? =
      some (derivedRiskMode strategy healthRatios venueHealthViews).mode := by
  rw [modeCandidates, List.max?_cons', derivedRiskMode]
  by_cases enabled : strategy.riskMonitorEnabled = true
  · rw [if_pos enabled, if_pos enabled, raiseAll_mode]
  · rw [if_neg enabled, if_neg enabled]
    rfl

/-! ## Worse health, harder mode -/

theorem supervisorActionMode_mono (strategy : GlobalRiskStrategy) {milder harder : VenueHealthAction}
    (worse : milder.severity ≤ harder.severity) :
    supervisorActionMode strategy milder ≤ supervisorActionMode strategy harder := by
  cases milder <;> cases harder <;>
    first
      | exact le_rfl
      | (exact absurd worse (by decide))
      | (simp only [supervisorActionMode]; split_ifs <;> decide)

/-- The lines in the order of the mode that they ask for. -/
def lineLadder (death delever warning : Bool) : GlobalRiskMode :=
  if death then .failClosed
  else if delever then .reduceOnly
  else if warning then .entryPaused
  else .running

theorem lineLadder_mono : ∀ death delever warning death' delever' warning' : Bool,
    (death = true → death' = true) → (delever = true → delever' = true) →
      (warning = true → warning' = true) →
        lineLadder death delever warning ≤ lineLadder death' delever' warning' := by
  decide

theorem healthMode_ladder (strategy : GlobalRiskStrategy) (health : RiskHealthView) :
    healthMode strategy health = lineLadder (health.deathCondition && strategy.deathLineEnabled)
      (health.deleverCondition && strategy.deleverLineEnabled)
      (health.warningCondition && strategy.warningLineEnabled &&
        strategy.warningPauseNewEntriesEnabled) := rfl

/-- Ratios that fall cross every line that they crossed before. -/
theorem healthMode_mono (strategy : GlobalRiskStrategy) {lower higher : List ExactFloat}
    (below : List.Forall₂ (fun low high => low.le high = true) lower higher) :
    healthMode strategy (evaluateRiskHealth higher strategy) ≤
      healthMode strategy (evaluateRiskHealth lower strategy) := by
  cases below with
  | nil => exact le_rfl
  | cons head rest =>
    have least := ExactFloat.foldl_min_le rest head
    rw [healthMode_ladder, healthMode_ladder]
    simp only [evaluateRiskHealth]
    apply lineLadder_mono <;> simp only [Bool.and_eq_true, and_assoc]
    · rintro ⟨enabled, crossed, drawn⟩
      exact ⟨enabled, ExactFloat.le_trans least crossed, drawn⟩
    · rintro ⟨enabled, crossed, drawn⟩
      exact ⟨enabled, ExactFloat.le_trans least crossed, drawn⟩
    · rintro ⟨enabled, crossed, drawn⟩
      exact ⟨enabled, ExactFloat.le_trans least crossed, drawn⟩

theorem foldl_max_mono {milder harder : List GlobalRiskMode} (worse : List.Forall₂ (· ≤ ·) milder harder)
    {start start' : GlobalRiskMode} (begins : start ≤ start') :
    milder.foldl max start ≤ harder.foldl max start' := by
  induction worse generalizing start start' with
  | nil => exact begins
  | cons head _ ih => exact ih (max_le_max begins head)

/-- Falling ratios and harder actions of the same venues never soften the derived mode, which is
the hardest of what the lines and the venues ask for. -/
theorem derivedRiskMode_worse (strategy : GlobalRiskStrategy) {lower higher : List ExactFloat}
    {milder harder : List VenueHealthView}
    (ratios : List.Forall₂ (fun low high => low.le high = true) lower higher)
    (actions : List.Forall₂ (fun mild hard => mild.action.severity ≤ hard.action.severity)
      milder harder) :
    (derivedRiskMode strategy higher (some milder)).mode ≤
        (derivedRiskMode strategy lower (some harder)).mode ∧
      (modeCandidates strategy lower (some harder)).max? =
        some (derivedRiskMode strategy lower (some harder)).mode := by
  refine ⟨?_, derivedRiskMode_max strategy lower (some harder)⟩
  have lines := healthMode_mono strategy ratios
  rw [derivedRiskMode, derivedRiskMode]
  by_cases enabled : strategy.riskMonitorEnabled = true
  · rw [if_pos enabled, if_pos enabled, raiseAll_mode, raiseAll_mode]
    refine foldl_max_mono ?_ lines
    rw [List.forall₂_map_left_iff, List.forall₂_map_right_iff]
    exact actions.imp fun mild hard worse => supervisorActionMode_mono strategy worse
  · rw [if_neg enabled, if_neg enabled]
    exact lines

/-- One venue whose ratio falls below the death line. -/
theorem derivedRiskMode_worse_falling :
    (derivedRiskMode { riskMonitorEnabled := true } [.finite 2] (some [{ venue := .okx }])).mode ≤
      (derivedRiskMode { riskMonitorEnabled := true } [.finite 1]
        (some [{ venue := .okx, action := .failClosed }])).mode :=
  (derivedRiskMode_worse { riskMonitorEnabled := true }
    (List.Forall₂.cons (by decide) List.Forall₂.nil)
    (List.Forall₂.cons (by decide) List.Forall₂.nil)).1

/-! ## What a supervision leaves -/

@[simp] theorem withRiskMode_riskMode (state : SupervisedState) (mode : GlobalRiskMode) :
    (state.withRiskMode mode).riskMode = mode := rfl

@[simp] theorem withLifecycle_riskMode (state : SupervisedState) (lifecycle : EngineLifecycle) :
    (state.withLifecycle lifecycle).riskMode = state.riskMode := rfl

theorem writeRiskMode_riskMode (before state : SupervisedState) (autoResumed : Bool)
    (newMode : GlobalRiskMode) (minHealthRatio : ExactFloat) (same : state.riskMode = before.riskMode) :
    (writeRiskMode before state autoResumed newMode minHealthRatio).1.riskMode = newMode := by
  rw [writeRiskMode]
  by_cases changed : newMode = before.riskMode
  · simp [changed, same]
  · by_cases entered : newMode = .failClosed
    · subst entered
      simp [changed]
    · simp [changed, entered]

/-- A supervision leaves the derived mode, unless it finds the engine fail-closed, derives
something milder and may not clear it. Fail-closed is left only without an operator's request,
without a recovery block and without recovery work. -/
theorem supervise_riskMode (strategy : GlobalRiskStrategy) (healthRatios : List ExactFloat)
    (venueHealthViews : Option (List VenueHealthView)) (state : SupervisedState) :
    (supervise strategy healthRatios venueHealthViews state).1.riskMode =
      if state.riskMode = .failClosed ∧ failClosedCanClear state.runtime = false then .failClosed
      else if strategy.riskMonitorEnabled then
        (derivedRiskMode strategy healthRatios venueHealthViews).mode
      else if state.riskMode = .failClosed then .running
      else state.riskMode := by
  rw [supervise]
  by_cases enabled : strategy.riskMonitorEnabled = true
  · simp only [enabled, Bool.not_true, Bool.false_eq_true, if_false, if_true]
    rw [updateGlobalRiskMode]
    by_cases latched : state.riskMode = .failClosed
    · by_cases clear : failClosedCanClear state.runtime = true
      · by_cases derived : (derivedRiskMode strategy healthRatios venueHealthViews).mode = .failClosed
        · simp only [latched, derived, clear, ne_eq, not_true_eq_false, and_false, if_false,
            Bool.true_eq_false]
          exact writeRiskMode_riskMode _ _ _ _ _ rfl
        · simp only [latched, derived, clear, ne_eq, not_false_eq_true, and_self, if_true,
            Bool.true_eq_false, and_false, if_false]
          exact writeRiskMode_riskMode _ _ _ _ _ rfl
      · by_cases derived : (derivedRiskMode strategy healthRatios venueHealthViews).mode = .failClosed
        · simp only [latched, derived, clear, ne_eq, not_true_eq_false, and_false, if_false,
            and_self, if_true]
          exact writeRiskMode_riskMode _ _ _ _ _ rfl
        · simp only [latched, derived, clear, ne_eq, not_false_eq_true, and_self, if_true,
            Bool.false_eq_true, if_false]
          exact latched
    · simp only [latched, false_and, if_false]
      exact writeRiskMode_riskMode _ _ _ _ _ rfl
  · by_cases latched : state.riskMode = .failClosed
    · by_cases clear : failClosedCanClear state.runtime = true
      · simp [enabled, latched, clear]
      · simp [enabled, latched, clear]
    · simp [enabled, latched]

end LightFee.Engine
