import LightFee.Engine.EngineState

/-!
# Risk actions

The health of an account is its equity over its maintenance margin. A venue's health and
the risk of a position are read off the snapshots of the accounts: three lines say from
which ratio on the engine warns, reduces and stops.

Ages and degradation labels of a position's view are left out; they do not act.
-/

namespace LightFee.Engine

open LightFee.Venues

/-- The part of the strategy that rates health. -/
structure RiskStrategy where
  warningHealthRatio : ExactFloat := .finite 3
  deleverHealthRatio : ExactFloat := .finite (3 / 2)
  deathHealthRatio : ExactFloat := .finite (11 / 10)
  maxRiskSnapshotAgeMs : Int := 30000
  unsupportedRiskSnapshotBehavior : String := "death_line"

/-! ## Snapshots -/

structure AccountRiskSnapshot where
  venue : Venue
  equityQuote : ExactFloat
  maintenanceMarginQuote : ExactFloat
  healthRatio : ExactFloat
  observedAtMs : Int
  supported : Bool := true
  stale : Bool := false
  zeroMaintenanceIsNormal : Bool := false

namespace AccountRiskSnapshot

/-- `__post_init__`: without a margin there is no ratio, and a ratio of zero is computed. -/
def postInit (snapshot : AccountRiskSnapshot) : AccountRiskSnapshot :=
  if !(ExactFloat.finite 0).lt snapshot.maintenanceMarginQuote then
    { snapshot with
      supported := snapshot.zeroMaintenanceIsNormal &&
        snapshot.maintenanceMarginQuote.eq (.finite 0) &&
        (ExactFloat.finite 0).le snapshot.equityQuote
      healthRatio := .finite 0 }
  else if snapshot.supported && snapshot.healthRatio.eq (.finite 0) then
    { snapshot with healthRatio := snapshot.equityQuote.div snapshot.maintenanceMarginQuote }
  else snapshot

def ageMs (snapshot : AccountRiskSnapshot) (nowMs : Int) : Int := max (nowMs - snapshot.observedAtMs) 0

def isEffectivelyStale (snapshot : AccountRiskSnapshot) (nowMs maxAgeMs : Int) : Bool :=
  snapshot.stale || decide (0 < maxAgeMs ∧ maxAgeMs < snapshot.ageMs nowMs)

end AccountRiskSnapshot

/-! ## The health of a venue -/

inductive VenueHealthAction where
  | normal
  | pauseEntry
  | reduceOnly
  | failClosed
deriving DecidableEq

namespace VenueHealthAction

/-- The order of `VenueHealthAction.max`. -/
def severity : VenueHealthAction → Nat
  | normal => 0
  | pauseEntry => 1
  | reduceOnly => 2
  | failClosed => 3

def max (action other : VenueHealthAction) : VenueHealthAction :=
  if other.severity ≤ action.severity then action else other

end VenueHealthAction

/-- A reason, and the number that is printed behind it. -/
structure HealthReason where
  label : String
  value : Option ExactFloat := none

structure VenueHealthView where
  venue : Venue
  action : VenueHealthAction := .normal
  healthRatio : Option ExactFloat := none
  degraded : Bool := false
  stale : Bool := false
  supported : Bool := false
  orderHealthRiskScore : ExactFloat := .finite 0
  reasons : List HealthReason := []

def VenueHealthView.raise (view : VenueHealthView) (action : VenueHealthAction) (label : String)
    (value : Option ExactFloat := none) : VenueHealthView :=
  { view with
    action := view.action.max action
    degraded := true
    reasons := view.reasons ++ [{ label := label, value := value }] }

/-- What is known of a venue beside its snapshot. -/
structure VenueHealthInput where
  venue : Venue
  nowMs : Int
  supportsRiskHealth : Bool := true
  recentOrderHealthRiskScore : ExactFloat := .finite 0
  supportsPrivateHealth : Bool := false
  privateConnectionHealthy : Option Bool := none
  privatePositionConfirmed : Bool := true

def VenueHealthInput.streamUnhealthy (input : VenueHealthInput) : Bool :=
  input.supportsPrivateHealth && input.privateConnectionHealthy == some false

def VenueHealthInput.start (input : VenueHealthInput) : VenueHealthView where
  venue := input.venue
  orderHealthRiskScore := input.recentOrderHealthRiskScore

/-- The private stream and the score of recent orders. -/
def VenueHealthInput.ordersView (input : VenueHealthInput) : VenueHealthView :=
  let view :=
    if input.supportsPrivateHealth && input.privateConnectionHealthy.isSome &&
        !input.privatePositionConfirmed then
      input.start.raise .reduceOnly "private_position_unconfirmed"
    else input.start
  let score := input.recentOrderHealthRiskScore
  if (ExactFloat.finite (3 / 4)).le score then
    view.raise .reduceOnly "order_health_risk_high" score
  else if (ExactFloat.finite (2 / 5)).le score then
    view.raise .pauseEntry "order_health_risk_elevated" score
  else view

/-- `_apply_unsupported_snapshot_policy`. -/
def applyUnsupportedSnapshotPolicy (strategy : RiskStrategy) (view : VenueHealthView)
    (reason : String) : VenueHealthView :=
  let behavior := strategy.unsupportedRiskSnapshotBehavior
  view.raise
    (if behavior = "death_line" then .failClosed
      else if behavior = "warning_only" then .pauseEntry else .normal) reason

/-- The lines of the strategy under a ratio. -/
def VenueHealthView.rate (view : VenueHealthView) (strategy : RiskStrategy) (ratio : ExactFloat) :
    VenueHealthView :=
  if ratio.le strategy.deathHealthRatio then
    view.raise .failClosed "health_below_death_line" ratio
  else if ratio.le strategy.deleverHealthRatio then
    view.raise .reduceOnly "health_below_delever_line" ratio
  else if ratio.le strategy.warningHealthRatio then
    view.raise .pauseEntry "health_below_warning_line" ratio
  else view

def evaluateVenueHealth (strategy : RiskStrategy) (input : VenueHealthInput)
    (riskSnapshot : Option AccountRiskSnapshot) : VenueHealthView :=
  if input.streamUnhealthy then input.start.raise .failClosed "private_stream_unhealthy"
  else
    match input.supportsRiskHealth, riskSnapshot with
    | true, some snapshot =>
      let stale := snapshot.isEffectivelyStale input.nowMs strategy.maxRiskSnapshotAgeMs
      let view := { input.ordersView with
        supported := snapshot.supported
        stale := stale
        healthRatio :=
          if snapshot.supported && (ExactFloat.finite 0).lt snapshot.healthRatio then
            some snapshot.healthRatio
          else none }
      if !snapshot.supported || stale then
        applyUnsupportedSnapshotPolicy strategy view
          (if stale then "risk_snapshot_stale" else "risk_snapshot_unsupported")
      else
        match view.healthRatio with
        | some ratio => view.rate strategy ratio
        | none => view
    | _, _ => applyUnsupportedSnapshotPolicy strategy input.ordersView "risk_snapshot_unavailable"

/-! ## The risk of a position -/

inductive RiskAction where
  | none
  | warning
  | synchronizedDelever
  | singleSideProtection
deriving DecidableEq

/-- The order in which `active_action` prefers them. -/
def RiskAction.severity : RiskAction → Nat
  | none => 0
  | warning => 1
  | synchronizedDelever => 2
  | singleSideProtection => 3

structure PositionRiskView where
  longHealthRatio : Option ExactFloat
  shortHealthRatio : Option ExactFloat
  minHealthRatio : Option ExactFloat
  warningCondition : Bool
  deleverCondition : Bool
  deathCondition : Bool
  longSnapshotSupported : Bool
  shortSnapshotSupported : Bool

def PositionRiskView.activeAction (view : PositionRiskView) : RiskAction :=
  if view.deathCondition then .singleSideProtection
  else if view.deleverCondition then .synchronizedDelever
  else if view.warningCondition then .warning
  else .none

/-- A snapshot that is there, supported and fresh. -/
def snapshotSupported (strategy : RiskStrategy) (nowMs : Int) (supports : Bool)
    (snapshot : Option AccountRiskSnapshot) : Bool :=
  supports && snapshot.any (fun snapshot => snapshot.supported &&
    !snapshot.isEffectivelyStale nowMs strategy.maxRiskSnapshotAgeMs)

/-- A ratio counts when it is positive. -/
def countedHealthRatio (supports : Bool) (snapshot : Option AccountRiskSnapshot) :
    Option ExactFloat :=
  if supports then
    (snapshot.filter (fun snapshot => snapshot.supported &&
      (ExactFloat.finite 0).lt snapshot.healthRatio)).map AccountRiskSnapshot.healthRatio
  else none

/-- The smaller of the ratios that count. -/
def minHealthRatio (long short : Option ExactFloat) : Option ExactFloat :=
  match long, short with
  | some long, some short => some (long.min short)
  | some long, none => some long
  | none, short => short

def evaluatePositionRisk (strategy : RiskStrategy) (nowMs : Int)
    (longSupports shortSupports : Bool) (longSnapshot shortSnapshot : Option AccountRiskSnapshot) :
    PositionRiskView :=
  let longSupported := snapshotSupported strategy nowMs longSupports longSnapshot
  let shortSupported := snapshotSupported strategy nowMs shortSupports shortSnapshot
  let longRatio := countedHealthRatio longSupports longSnapshot
  let shortRatio := countedHealthRatio shortSupports shortSnapshot
  let minRatio := minHealthRatio longRatio shortRatio
  let below (line : ExactFloat) : Bool := minRatio.any (fun ratio => ratio.le line)
  let degraded := !longSupported || !shortSupported
  let behavior := strategy.unsupportedRiskSnapshotBehavior
  { longHealthRatio := longRatio
    shortHealthRatio := shortRatio
    minHealthRatio := minRatio
    warningCondition :=
      if degraded && behavior == "warning_only" then true else below strategy.warningHealthRatio
    deleverCondition :=
      if degraded && behavior == "warning_only" then false else below strategy.deleverHealthRatio
    deathCondition :=
      if degraded && behavior == "death_line" then true
      else if degraded && behavior == "warning_only" then false
      else below strategy.deathHealthRatio
    longSnapshotSupported := longSupported
    shortSnapshotSupported := shortSupported }

end LightFee.Engine
