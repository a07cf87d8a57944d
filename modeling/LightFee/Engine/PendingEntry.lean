import LightFee.Library.DynValue
import LightFee.Venues.Specs
import Mathlib.Algebra.Order.Field.Rat

/-!
# Pending entries

A pending entry waits for its maker order to fill and hedges what is filled.
Quantities are kept twice: as cumulative counters of both legs, and as the
maker's remainder, a list of slices that maker reports push and hedge reports
consume from the front. The records are generic in their number type; the
arithmetic reads numbers exactly.
-/

namespace LightFee.Engine

open LightFee.Venues

inductive Side where
  | buy
  | sell
deriving DecidableEq

inductive PassiveOrderState where
  | unknown
  | created
  | open
  | partiallyFilled
  | filled
  | canceled
  | rejected
  | expired
deriving DecidableEq

/-- A hedge order in flight. -/
structure HedgeInflight (Number : Type) where
  clientOrderId : String
  venue : Venue
  side : Side
  quantity : Number
  attempt : Int := 0
  submittedAtMs : Int := 0
  softDeadlineLogged : Bool := false

/-- The resting maker order and the fill it started from. -/
structure PendingPassiveOrder (Number : Type) [Zero Number] where
  orderId : String := ""
  clientOrderId : String := ""
  limitPrice : Option Number := none
  targetQuantity : Number
  acceptedAtMs : Int := 0
  timeoutAtMs : Int := 0
  cancelRequestedAtMs : Int := 0
  lastProgressState : PassiveOrderState := .unknown
  fillCheckpointQuantity : Number
  fillCheckpointNotionalQuote : Number
  fillCheckpointFeeQuote : Number := 0
  fillCheckpointLastFillAtMs : Option Int := none

structure PendingEntryPassivePhaseState where
  executionKind : String := "entry"
  preferredMakerLeg : String := "long"
  activeMakerLeg : String := "long"
  phase : String := "high_slippage_maker"
  zeroFillCyclesInPhase : Int := 0
  cycleAttempt : Int := 0
  nextCycleDelayMs : Option Int := none
  smallFillMinNotionalAttempts : Int := 0
  hedgeDeadlineAtMs : Option Int := none
  hedgeTimeoutGraceDeadlineAtMs : Option Int := none
  phaseStartedAtMs : Int := 0
  cycleStartedAtMs : Int := 0

/-- A maker fill that is not hedged yet. -/
structure PendingEntryRemainderSlice (Number : Type) where
  quantity : Number
  notionalQuote : Number
  fillAtMs : Option Int := none

structure PassiveOrderManagerRuntime where
  cooldownUntilMs : Option Int := none
  consecutiveFailures : Int := 0
  lastSuccessMs : Int := 0
  lastAttemptMs : Int := 0
  opsBudgetRemaining : Int := 0
  opsBudgetResetMs : Int := 0
  lastOperationMs : Int := 0

structure PendingEntry (Number : Type) [Zero Number] where
  pendingId : String
  symbol : String
  longVenue : Venue
  shortVenue : Venue
  targetQuantity : Number
  longSide : Side
  shortSide : Side
  createdAtMs : Int
  metadata : OrderedDict String DynValue := .empty
  makerOrderId : String := ""
  hedgeOrderId : String := ""
  makerClientOrderId : String := ""
  hedgeClientOrderId : String := ""
  makerLegFilled : Number := 0
  hedgeLegFilled : Number := 0
  makerFeeQuote : Option Number := none
  hedgeFeeQuote : Option Number := none
  deadlineMs : Int := 0
  fallbackRoute : String := ""
  uncertainOutcome : Bool := false
  reconcileAttempt : Int := 0
  reconcileNextAttemptMs : Int := 0
  entryType : String := ""
  makerPrice : Number := 0
  longQuantity : Number := 0
  shortQuantity : Number := 0
  runId : String := ""
  entryRoute : String := ""
  outcome : String := ""
  opportunityType : String := "aligned"
  fundingTimestampMs : Int := 0
  firstFundingTimestampMs : Int := 0
  longFundingTimestampMs : Int := 0
  shortFundingTimestampMs : Int := 0
  secondFundingTimestampMs : Int := 0
  firstFundingLeg : String := ""
  fundingEdgeBpsEntry : Number := 0
  totalFundingEdgeBpsEntry : Number := 0
  expectedEdgeBpsEntry : Number := 0
  worstCaseEdgeBpsEntry : Number := 0
  entryMakerLeg : String := ""
  exitMakerLeg : String := ""
  entryCrossBpsEntry : Number := 0
  feeBpsEntry : Number := 0
  entrySlippageBpsEntry : Number := 0
  transferBiasBpsEntry : Number := 0
  transferStateAtEntry : Option String := none
  entryLiquiditySourceAtEntry : Option String := none
  longVolume24hQuoteAtEntry : Number := 0
  shortVolume24hQuoteAtEntry : Number := 0
  longOpenInterestQuoteAtEntry : Number := 0
  shortOpenInterestQuoteAtEntry : Number := 0
  longEntryVwap : Option Number := none
  shortEntryVwap : Option Number := none
  entryCapacityConstrained : Bool := false
  entryTargetQuantity : Number := 0
  longMaxExecutableQuantity : Number := 0
  shortMaxExecutableQuantity : Number := 0
  entryMaxExecutableQuantity : Number := 0
  entryDepthShortfallQuantity : Number := 0
  entryMaxExecutableNotionalQuote : Number := 0
  entryDepthCappedAtEntry : Bool := false
  advisories : List String := []
  blockedReasons : List String := []
  exitAfterFirstStage : Bool := false
  phaseState : Option PendingEntryPassivePhaseState := none
  passiveManagerRuntime : PassiveOrderManagerRuntime := {}
  createdCycle : Int := 0
  repostAttemptCount : Int := 0
  passiveAttemptCount : Int := 0
  passiveOpsTotal : Int := 0
  makerRemainderSlices : List (PendingEntryRemainderSlice Number) := []
  lifetimeExhaustedLoggedFinalReason : Option String := none
  frozenCandidate : Option (OrderedDict String DynValue) := none
  repostCount : Int := 0
  zeroFillSinceMs : Int := 0
  makerLeg : String := "long"
  hedgeInflight : Option (HedgeInflight Number) := none
  hedgeAttemptCount : Int := 0
  makerFillPrice : Number := 0
  hedgeFillPrice : Number := 0
  repairState : String := ""
  passiveOrder : Option (PendingPassiveOrder Number) := none
  nextProgressPollMs : Int := 0

/-- Quantities up to this count as nothing. -/
def quantityDust : ℚ := 1 / 10 ^ 9

/-- `value or fallback` of a number. -/
def orElseNumber (value fallback : ℚ) : ℚ := if value = 0 then fallback else value

/-- `value or fallback` of a count. -/
def orElseCount (value fallback : Int) : Int := if value = 0 then fallback else value

namespace PendingEntry

/-- The price of a maker fill whose report names none. -/
def fallbackMakerPrice (pending : PendingEntry ℚ) : ℚ :=
  if 0 < pending.makerFillPrice then pending.makerFillPrice else pending.makerPrice

/-- What the counters alone leave to hedge. -/
def legacyMissingHedgeQuantity (pending : PendingEntry ℚ) : ℚ :=
  let balanced := min pending.makerLegFilled pending.targetQuantity
  max 0 (balanced - pending.hedgeLegFilled)

def unmatchedMakerQuantity (pending : PendingEntry ℚ) : ℚ :=
  let remainderQuantity :=
    (pending.makerRemainderSlices.map (fun slice => max 0 slice.quantity)).sum
  if 0 < remainderQuantity then remainderQuantity else pending.legacyMissingHedgeQuantity

/-- Quantity still needed on the hedge leg. -/
def missingHedgeQuantity (pending : PendingEntry ℚ) : ℚ := pending.unmatchedMakerQuantity

def pushMakerRemainderSlice (pending : PendingEntry ℚ) (quantity : ℚ) (averagePrice : Option ℚ)
    (fillAtMs : Option Int) : PendingEntry ℚ :=
  let quantity := max 0 quantity
  if quantity ≤ quantityDust then pending
  else
    let price := match averagePrice with
      | some price => if price < 0 then pending.fallbackMakerPrice else price
      | none => pending.fallbackMakerPrice
    let price := max 0 price
    { pending with makerRemainderSlices := pending.makerRemainderSlices ++
        [{ quantity := quantity, notionalQuote := price * quantity,
           fillAtMs := fillAtMs.filter (0 < ·) }] }

/-- A slice after a part of its available quantity is taken; its notional is
taken in proportion. -/
def takeFromSlice (slice : PendingEntryRemainderSlice ℚ) (available take : ℚ) :
    PendingEntryRemainderSlice ℚ :=
  let ratio := take / available
  { slice with
    quantity := max 0 (available - take)
    notionalQuote := max 0 (slice.notionalQuote - slice.notionalQuote * ratio) }

/-- The loop of the FIFO consumption: the slices left, and the quantity taken. -/
def consumeSlices (remaining : ℚ) :
    List (PendingEntryRemainderSlice ℚ) → List (PendingEntryRemainderSlice ℚ) × ℚ
  | [] => ([], 0)
  | slice :: rest =>
    if remaining ≤ quantityDust then (slice :: rest, 0)
    else
      let available := max 0 slice.quantity
      if available ≤ quantityDust then consumeSlices remaining rest
      else
        let take := min remaining available
        let left := takeFromSlice slice available take
        let (others, consumed) := consumeSlices (remaining - take) rest
        (if left.quantity ≤ quantityDust then others else left :: others, take + consumed)

/-- The entry after the consumption, and the quantity taken. -/
def consumeHedgeQuantityFifo (pending : PendingEntry ℚ) (hedgeQuantity : ℚ) :
    PendingEntry ℚ × ℚ :=
  let remaining := max 0 hedgeQuantity
  if remaining ≤ quantityDust then (pending, 0)
  else
    let pending :=
      if pending.makerRemainderSlices.isEmpty ∧
          quantityDust < pending.legacyMissingHedgeQuantity then
        pending.pushMakerRemainderSlice pending.legacyMissingHedgeQuantity
          (some pending.fallbackMakerPrice) none
      else pending
    let (slices, consumed) := consumeSlices remaining pending.makerRemainderSlices
    ({ pending with makerRemainderSlices := slices }, consumed)

end PendingEntry

/-! ## Maker reports -/

/-- Cumulative progress of a resting passive order. -/
structure PassiveOrderProgress where
  state : Option PassiveOrderState := none
  cumulativeQuantity : ℚ
  averagePrice : ℚ
  observedAtMs : Int := 0

/-- The maker quantity after the order's own cumulative quantity, which counts up
to the order's target. -/
def PendingPassiveOrder.updatedQuantity (order : PendingPassiveOrder ℚ)
    (cumulativeQuantity : ℚ) : ℚ :=
  let orderCumulativeQuantity := max 0 cumulativeQuantity
  order.fillCheckpointQuantity +
    if 0 < order.targetQuantity then min orderCumulativeQuantity order.targetQuantity
    else orderCumulativeQuantity

/-- The entry with a raised maker fill and a slice of what it adds. -/
def PendingEntry.raiseMakerFill (pending : PendingEntry ℚ) (updatedQuantity : ℚ)
    (progress : PassiveOrderProgress) : PendingEntry ℚ :=
  let filled := { pending with
    makerLegFilled := updatedQuantity
    makerFillPrice :=
      if 0 < progress.averagePrice then progress.averagePrice else pending.makerFillPrice }
  filled.pushMakerRemainderSlice (updatedQuantity - pending.makerLegFilled)
    (if 0 < progress.averagePrice then some progress.averagePrice else none)
    (if progress.observedAtMs = 0 then none else some progress.observedAtMs)

/-- The entry after a maker report, and whether it changed. -/
def applyPendingEntryPassiveProgress (pending : PendingEntry ℚ)
    (progress : Option PassiveOrderProgress) : PendingEntry ℚ × Bool :=
  match pending.passiveOrder, progress with
  | some passiveOrder, some progress =>
    let reported := { passiveOrder with
      lastProgressState := progress.state.getD passiveOrder.lastProgressState }
    let observed := { pending with passiveOrder := some reported }
    let updatedQuantity := reported.updatedQuantity progress.cumulativeQuantity
    let updated :=
      if pending.makerLegFilled + quantityDust < updatedQuantity then
        observed.raiseMakerFill updatedQuantity progress
      else observed
    (updated, decide (quantityDust < |pending.makerLegFilled - updated.makerLegFilled| ∨
      passiveOrder.lastProgressState ≠ reported.lastProgressState))
  | _, _ => (pending, false)

/-! ## Hedge reports -/

structure HedgeProgress where
  newTotalQuantity : ℚ
  price : ℚ := 0
  orderId : String := ""

/-- The entry after a hedge report, and the quantity it added. -/
def applyPendingEntryHedgeProgress (pending : PendingEntry ℚ) (report : HedgeProgress) :
    PendingEntry ℚ × ℚ :=
  let previousQuantity := pending.hedgeLegFilled
  let targetQuantity := max report.newTotalQuantity previousQuantity
  let delta := max (targetQuantity - previousQuantity) 0
  let hedged :=
    if 1 / 10 ^ 12 < delta then
      ({ pending with hedgeLegFilled := targetQuantity }.consumeHedgeQuantityFifo delta).1
    else pending
  ({ hedged with
      hedgeFillPrice := if 0 < report.price then report.price else hedged.hedgeFillPrice
      hedgeOrderId := if report.orderId = "" then hedged.hedgeOrderId else report.orderId },
    delta)

/-! ## Accepted maker orders -/

/-- The entry's phase state, created when it has none. -/
def ensurePendingEntryPhaseState (pending : PendingEntry ℚ) (nowMs : Int) :
    PendingEntryPassivePhaseState :=
  pending.phaseState.getD
    (let makerLeg := if pending.makerLeg = "" then "long" else pending.makerLeg
     let acceptedAtMs := (pending.passiveOrder.map PendingPassiveOrder.acceptedAtMs).getD 0
     let startedAtMs := orElseCount acceptedAtMs (orElseCount pending.createdAtMs nowMs)
     { preferredMakerLeg := makerLeg
       activeMakerLeg := makerLeg
       cycleAttempt := 1
       phaseStartedAtMs := startedAtMs
       cycleStartedAtMs := startedAtMs })

def notePendingEntryPassiveSubmit (pending : PendingEntry ℚ) (acceptedAtMs : Int) :
    PendingEntry ℚ :=
  { pending with
    passiveManagerRuntime := { pending.passiveManagerRuntime with
      lastAttemptMs := acceptedAtMs
      lastOperationMs := acceptedAtMs
      lastSuccessMs := acceptedAtMs
      consecutiveFailures := 0 }
    passiveOpsTotal := pending.passiveOpsTotal + 1 }

/-- An accepted passive order. -/
structure PassiveCycle where
  orderId : String := ""
  clientOrderId : String := ""
  acceptedAtMs : Int := 0
  limitPrice : Option ℚ := none
  targetQuantity : ℚ
  passiveAttemptCount : Int := 0
  restTimeoutMs : Int := 0

def notePendingEntryPassiveCycleAccepted (pending : PendingEntry ℚ) (cycle : PassiveCycle) :
    PendingEntry ℚ :=
  let checkpointQuantity := pending.makerLegFilled
  let checkpointPrice := orElseNumber pending.makerFillPrice pending.makerPrice
  let accepted := { pending with
    passiveOrder := some {
      orderId := cycle.orderId
      clientOrderId := cycle.clientOrderId
      limitPrice := cycle.limitPrice
      targetQuantity := cycle.targetQuantity
      acceptedAtMs := cycle.acceptedAtMs
      timeoutAtMs := cycle.acceptedAtMs + max 0 cycle.restTimeoutMs
      cancelRequestedAtMs := 0
      lastProgressState := .open
      fillCheckpointQuantity := checkpointQuantity
      fillCheckpointNotionalQuote := max 0 (checkpointQuantity * checkpointPrice) } }
  let submitted := notePendingEntryPassiveSubmit accepted cycle.acceptedAtMs
  let phaseState := ensurePendingEntryPhaseState submitted cycle.acceptedAtMs
  { submitted with
    nextProgressPollMs := cycle.acceptedAtMs
    passiveAttemptCount := cycle.passiveAttemptCount
    repostAttemptCount := phaseState.zeroFillCyclesInPhase
    phaseState := some { phaseState with
      cycleAttempt := phaseState.zeroFillCyclesInPhase + 1
      nextCycleDelayMs := none
      hedgeDeadlineAtMs := none
      cycleStartedAtMs := cycle.acceptedAtMs } }

end LightFee.Engine
