import LightFee.Library.ExactFloat
import LightFee.Library.TokenBucket
import Mathlib.Data.Rat.Cast.Order
import Mathlib.Tactic.NormNum

/-!
# The passive order manager

Maintenance of a resting maker order: every decision passes a cooldown gate and
an operations budget, then compares the resting price with the target. The
budget is a token bucket; prices and thresholds are floats, tokens are read
exactly. A decision only announces its operations, the caller notes each of them
before it submits, and a note takes a token or forgives the overdraft.
-/

namespace LightFee.Engine

inductive PassiveSkipReason where
  | belowRepriceThreshold
  | minAmendIntervalNotElapsed
  | opsBudgetExceeded
  | followMarketRepriceDisabled
  | missingBookData
deriving DecidableEq

inductive PassiveReplaceReason where
  | timeout
  | largeDeviation
  | amendUnsupported
  | amendFailed
deriving DecidableEq

inductive PassiveCooldownReason where
  | consecutiveFailuresExceeded
  | activeCooldown
deriving DecidableEq

inductive PassiveOrderManagerDecisionType where
  | hold
  | place
  | amend
  | cancelReplace
  | cooldown
  | complete
deriving DecidableEq

structure PassiveOrderManagerDecision where
  kind : PassiveOrderManagerDecisionType
  price : ExactFloat := .finite 0
  quantity : ExactFloat := .finite 0
  newPrice : ExactFloat := .finite 0
  newQuantity : Option ExactFloat := none
  untilMs : Int := 0
  skipReason : Option PassiveSkipReason := none
  replaceReason : Option PassiveReplaceReason := none
  cooldownReason : Option PassiveCooldownReason := none

structure PassiveOrderManagerProfile where
  repriceThresholdTicks : Int := 2
  cancelReplaceThresholdTicks : Int := 5
  minAmendIntervalMs : Int := 300
  repriceThresholdBps : ExactFloat := .finite 2
  cancelReplaceThresholdBps : ExactFloat := .finite 6
  opsBucketCapacity : ℚ := 8
  opsBucketRefillPerSec : ℚ := 8
  workingTimeoutMs : Int := 3000
  maxOpsPerSec : Int := 8
  maxConsecutiveFailures : Int := 5
  failureCooldownMs : Int := 5000
  followMarketRepriceEnabled : Bool := true
  preferAmendOverCancel : Bool := true

structure PassiveOrderDecisionInput where
  tickSize : ExactFloat
  referenceMidPrice : Option ExactFloat := none
  targetPrice : Option ExactFloat := none
  currentPrice : Option ExactFloat := none
  restingSinceMs : Option Int := none
  targetQuantity : ExactFloat := .finite 0
  supportsAmend : Bool := true

/-- `price is not None and price > 0`, with the price. -/
def positivePrice (price : Option ExactFloat) : Option ExactFloat :=
  price.filter (fun value => (ExactFloat.finite 0).lt value)

def passivePriceDistanceBps (currentPrice targetPrice referenceMidPrice : Option ExactFloat) :
    Option ExactFloat := do
  let current ← positivePrice currentPrice
  let target ← positivePrice targetPrice
  let reference ← positivePrice referenceMidPrice
  return ((current.sub target).abs.div reference).mul (.finite 10000)

def passiveTickDistance (currentPrice targetPrice : Option ExactFloat) (tickSize : ExactFloat) :
    Option ExactFloat :=
  if tickSize.le (.finite 0) then none
  else do
    let current ← positivePrice currentPrice
    let target ← positivePrice targetPrice
    return (current.sub target).abs.div tickSize

/-- The configured distance, at least the distance of the threshold's ticks. -/
def thresholdBps (configuredBps : ExactFloat) (thresholdTicks : Int) (tickSize : ExactFloat)
    (referenceMidPrice : Option ExactFloat) : Option ExactFloat :=
  match positivePrice referenceMidPrice with
  | some reference =>
    if (ExactFloat.finite 0).lt tickSize then
      some (configuredBps.max
        ((((ExactFloat.finite thresholdTicks).mul tickSize).div reference).mul (.finite 10000)))
    else if (ExactFloat.finite 0).le configuredBps then some configuredBps else none
  | none => if (ExactFloat.finite 0).le configuredBps then some configuredBps else none

structure PassiveOrderManager where
  profile : PassiveOrderManagerProfile
  lastActionAtMs : Option Int := none
  opsBucketLastRefillAtMs : Option Int := none
  opsBucketTokens : ℚ
  consecutiveFailures : Int := 0
  cooldownUntilMs : Option Int := none

namespace PassiveOrderManagerProfile

def effectiveCapacity (profile : PassiveOrderManagerProfile) : ℚ :=
  min profile.opsBucketCapacity (max profile.maxOpsPerSec 1 : Int)

def effectiveRefillPerSec (profile : PassiveOrderManagerProfile) : ℚ :=
  min profile.opsBucketRefillPerSec (max profile.maxOpsPerSec 1 : Int)

/-- Positive budget limits. -/
structure Positive (profile : PassiveOrderManagerProfile) : Prop where
  capacity : 0 < profile.opsBucketCapacity
  refill : 0 < profile.opsBucketRefillPerSec
  rate : 0 < profile.maxOpsPerSec

end PassiveOrderManagerProfile

namespace PassiveOrderManager

/-- A new manager with a full bucket. -/
def create (profile : PassiveOrderManagerProfile) : PassiveOrderManager where
  profile := profile
  opsBucketTokens := profile.effectiveCapacity

def refillOpsBucket (manager : PassiveOrderManager) (nowMs : Int) : PassiveOrderManager :=
  let capacity := manager.profile.effectiveCapacity
  let tokens := match manager.opsBucketLastRefillAtMs with
    | some last =>
      let elapsedMs : Int := max 0 (nowMs - last)
      min capacity
        (manager.opsBucketTokens + elapsedMs * manager.profile.effectiveRefillPerSec / 1000)
    | none => capacity
  { manager with opsBucketTokens := tokens, opsBucketLastRefillAtMs := some nowMs }

def isInCooldown (manager : PassiveOrderManager) (nowMs : Int) : Bool :=
  manager.cooldownUntilMs.any (nowMs < ·)

end PassiveOrderManager

namespace PassiveOrderDecisionInput

/-- The order has rested as long as it may. -/
def timedOut (input : PassiveOrderDecisionInput) (workingTimeoutMs nowMs : Int) : Bool :=
  input.restingSinceMs.any (fun resting => workingTimeoutMs ≤ nowMs - resting)

/-- The resting price is closer to the target than a distance in bps or in ticks. -/
def within (input : PassiveOrderDecisionInput) (configuredBps : ExactFloat)
    (thresholdTicks : Int) : Bool :=
  let tickDist := passiveTickDistance input.currentPrice input.targetPrice input.tickSize
  let bpsDist :=
    passivePriceDistanceBps input.currentPrice input.targetPrice input.referenceMidPrice
  let limit := thresholdBps configuredBps thresholdTicks input.tickSize input.referenceMidPrice
  (match bpsDist, limit with
    | some distance, some limit => distance.lt limit
    | _, _ => false) ||
    tickDist.any (fun distance => distance.lt (.finite thresholdTicks))

end PassiveOrderDecisionInput

namespace PassiveOrderManagerDecision

def skip (reason : PassiveSkipReason) : PassiveOrderManagerDecision where
  kind := .hold
  skipReason := some reason

def replace (input : PassiveOrderDecisionInput) (targetPrice : ExactFloat)
    (reason : PassiveReplaceReason) : PassiveOrderManagerDecision where
  kind := .cancelReplace
  newPrice := targetPrice
  newQuantity := some input.targetQuantity
  replaceReason := some reason

end PassiveOrderManagerDecision

namespace PassiveOrderManager

/-- The comparison of a resting order's price with its target, once the order
may rest on. -/
def reprice (manager : PassiveOrderManager) (input : PassiveOrderDecisionInput)
    (targetPrice : ExactFloat) (nowMs : Int) : PassiveOrderManagerDecision :=
  let profile := manager.profile
  if input.within profile.repriceThresholdBps profile.repriceThresholdTicks then
    .skip .belowRepriceThreshold
  else if !profile.followMarketRepriceEnabled then
    .skip .followMarketRepriceDisabled
  else if manager.lastActionAtMs.any (fun last => nowMs - last < profile.minAmendIntervalMs) then
    .skip .minAmendIntervalNotElapsed
  else if input.supportsAmend && profile.preferAmendOverCancel &&
      input.within profile.cancelReplaceThresholdBps profile.cancelReplaceThresholdTicks then
    { kind := .amend, newPrice := targetPrice, newQuantity := some input.targetQuantity }
  -- Cancel and submit need a token each.
  else if manager.opsBucketTokens < 2 then
    .skip .opsBudgetExceeded
  else
    .replace input targetPrice (if input.supportsAmend then .largeDeviation else .amendUnsupported)

/-- The decision of a manager that is not cooling down and has refilled. -/
def decideRefilled (manager : PassiveOrderManager) (input : PassiveOrderDecisionInput)
    (nowMs : Int) : PassiveOrderManagerDecision :=
  if manager.opsBucketTokens < 1 then .skip .opsBudgetExceeded
  else match positivePrice input.targetPrice with
    | none => .skip .missingBookData
    | some targetPrice =>
      if input.tickSize.le (.finite 0) then .skip .missingBookData
      else if input.currentPrice.isNone then
        { kind := .place, price := targetPrice, quantity := input.targetQuantity }
      else if input.timedOut manager.profile.workingTimeoutMs nowMs then
        .replace input targetPrice .timeout
      else manager.reprice input targetPrice nowMs

/-- The manager after a decision, and the decision. -/
def decide (manager : PassiveOrderManager) (input : PassiveOrderDecisionInput) (nowMs : Int) :
    PassiveOrderManager × PassiveOrderManagerDecision :=
  if manager.isInCooldown nowMs then
    (manager, { kind := .cooldown, untilMs := manager.cooldownUntilMs.getD 0,
                cooldownReason := some .activeCooldown })
  else
    let refilled := { manager with cooldownUntilMs := none }.refillOpsBucket nowMs
    (refilled, refilled.decideRefilled input nowMs)

/-- Consume one token, before an order is submitted. -/
def noteOperation (manager : PassiveOrderManager) (nowMs : Int) : PassiveOrderManager :=
  let refilled := manager.refillOpsBucket nowMs
  { refilled with
    opsBucketTokens := if 1 ≤ refilled.opsBucketTokens then refilled.opsBucketTokens - 1 else 0
    lastActionAtMs := some nowMs }

def noteSuccess (manager : PassiveOrderManager) (nowMs : Int) : PassiveOrderManager :=
  { manager.refillOpsBucket nowMs with
    consecutiveFailures := 0, lastActionAtMs := some nowMs, cooldownUntilMs := none }

def noteFailure (manager : PassiveOrderManager) (nowMs : Int) : PassiveOrderManager :=
  let refilled := manager.refillOpsBucket nowMs
  let failures := refilled.consecutiveFailures + 1
  { refilled with
    consecutiveFailures := failures
    lastActionAtMs := some nowMs
    cooldownUntilMs :=
      if manager.profile.maxConsecutiveFailures ≤ failures then
        some (nowMs + manager.profile.failureCooldownMs)
      else refilled.cooldownUntilMs }

end PassiveOrderManager

end LightFee.Engine
