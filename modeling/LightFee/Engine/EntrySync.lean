import LightFee.Engine.EntryContext

/-!
# The entry executor

An entry submits its maker order and, once that is filled, the hedge. What cannot be
finished in the call is handed over as a pending entry, which continues the entry that
is already pending under the same id.

The journal keeps kinds and reasons; the evidence built from a venue's error is left
out, except that building it may raise.
-/

namespace LightFee.Engine

open LightFee.Venues DynValue

/-! ## The venues under an entry -/

/-- An exception of a submission; without a class it is not an `OrderSubmitError`. -/
structure EntryError where
  failureClass : Option SubmitFailureClass
  text : String
  acceptedOrderId : String := ""
  /-- What building its evidence raises. -/
  evidenceFault : Option String := none

def EntryError.isRejected (error : EntryError) : Bool := error.failureClass == some .rejected

structure PassiveOrderAck where
  orderId : String
  clientOrderId : String := ""
  price : ExactFloat := .finite 0
  quantity : ExactFloat := .finite 0
  acceptedAtMs : Int := 0
  state : PassiveOrderState := .unknown

structure EntryAdapter (World : Type) where
  placeOrder : EntryOrderRequest → World → Except EntryError OrderFill × World
  submitPassiveOrder : EntryOrderRequest → World → Except EntryError PassiveOrderAck × World

/-- An executor: its venues, the entries that are pending, and its settings. -/
structure EntryEnvironment (World : Type) where
  adapters : Venue → Option (EntryAdapter World)
  /-- A hash of an entry and a leg, cut to the venue's length. -/
  generateExchangeCid : (entryId leg : String) → Venue → String
  pendingEntries : OrderedDict String (PendingEntry ExactFloat) := .empty
  deadlineMs : Int := 30000
  minMatchedRatio : ExactFloat := .finite (95 / 100)
  makerEntryMaxReposts : Int := 0
  makerEntryRestTimeoutMs : Int := 6000
  pendingEntryZeroFillTerminalCooldownMs : Int := 0
  /-- The id of a review, when reviews are observed. -/
  reviewId : Option String := none

inductive EntryLeg where
  | maker
  | hedge
deriving DecidableEq

/-- What a venue answers to an order. -/
inductive EntryAnswer where
  | executed (fill : OrderFill)
  | acknowledged (ack : PassiveOrderAck)
  | failed (error : EntryError)

/-- One order of a call. -/
structure EntrySubmission where
  leg : EntryLeg
  request : EntryOrderRequest
  answer : EntryAnswer

/-- A line of the journal. -/
structure EntryEvent where
  kind : String
  reason : String := ""

structure EntryRun (World : Type) where
  world : World
  journal : List EntryEvent := []
  submissions : List EntrySubmission := []

section Submission

variable {World : Type}

def EntryRun.log (run : EntryRun World) (kind : String) (reason : String := "") :
    EntryRun World :=
  { run with journal := run.journal ++ [{ kind := kind, reason := reason }] }

def EntryRun.submitted (run : EntryRun World) (leg : EntryLeg) (request : EntryOrderRequest)
    (answer : EntryAnswer) (world : World) : EntryRun World :=
  { run with
    world := world
    submissions := run.submissions ++ [{ leg := leg, request := request, answer := answer }] }

/-- A maker order that only posts is acknowledged; any other order is executed. -/
def EntryAdapter.answer (adapter : EntryAdapter World) (leg : EntryLeg)
    (request : EntryOrderRequest) (world : World) : EntryAnswer × World :=
  if leg = .maker ∧ request.postOnly = true then
    match adapter.submitPassiveOrder request world with
    | (.ok ack, world) => (.acknowledged ack, world)
    | (.error error, world) => (.failed error, world)
  else
    match adapter.placeOrder request world with
    | (.ok fill, world) => (.executed fill, world)
    | (.error error, world) => (.failed error, world)

/-- How a submission is classified. -/
inductive EntryOutcome where
  | filled (fill : OrderFill)
  | resting (ack : PassiveOrderAck)
  | rejected (reason : String)
  | uncertain (orderId : String)

/-- The branch without an adapter reads an exception that it did not catch. -/
def unboundErrorText : String :=
  "cannot access local variable 'e' where it is not associated with a value"

/-- The handlers of an error; both build its evidence first. -/
def classifyEntryError (run : EntryRun World) (error : EntryError) :
    Except String EntryOutcome × EntryRun World :=
  match error.evidenceFault with
  | some fault => (.error fault, run)
  | none =>
    if error.isRejected then (.ok (.rejected error.text), run.log "order.rejected" error.text)
    else
      (.ok (.uncertain (if error.failureClass.isSome then error.acceptedOrderId else "")),
        run.log "order.uncertain" error.text)

/-- `_submit_maker` and `_submit_hedge`, with `_submit_order` behind them. -/
def submitOrder (env : EntryEnvironment World) (run : EntryRun World) (leg : EntryLeg)
    (request : EntryOrderRequest) : Except String EntryOutcome × EntryRun World :=
  let run := run.log "order.submitted"
  match env.adapters request.venue with
  | none =>
    (.error unboundErrorText,
      run.log "order.rejected" ("no adapter for " ++ request.venue.value))
  | some adapter =>
    let (answer, world) := adapter.answer leg request run.world
    let run := run.submitted leg request answer world
    match answer with
    | .acknowledged ack => (.ok (.resting ack), run.log "order.passive_submitted")
    | .executed fill =>
      if (ExactFloat.finite 0).lt fill.quantity then
        (.ok (.filled fill), run.log "order.filled")
      else (.ok (.uncertain fill.orderId), run.log "order.uncertain" "zero fill quantity")
    | .failed error => classifyEntryError run error

end Submission

/-! ## The pending entry -/

/-- `value or fallback` of a float. -/
def orElseFloat (value fallback : ExactFloat) : ExactFloat :=
  if value.truthy then value else fallback

/-- The resting order of an acknowledgement. -/
def restingOrder (ack : PassiveOrderAck) (makerRequest : EntryOrderRequest)
    (targetQuantity : ExactFloat) (nowMs restTimeoutMs : Int) : PendingPassiveOrder ExactFloat :=
  let acceptedAtMs := if ack.acceptedAtMs = 0 then nowMs else ack.acceptedAtMs
  let price := orElseFloat ack.price (makerRequest.price.getD (.finite 0))
  { orderId := ack.orderId
    clientOrderId := if ack.clientOrderId = "" then makerRequest.clientOrderId
      else ack.clientOrderId
    limitPrice := if (ExactFloat.finite 0).lt price then some price else none
    targetQuantity := orElseFloat ack.quantity targetQuantity
    acceptedAtMs := acceptedAtMs
    timeoutAtMs := acceptedAtMs + (if restTimeoutMs ≤ 0 then 6000 else restTimeoutMs)
    lastProgressState := ack.state
    fillCheckpointQuantity := .finite 0
    fillCheckpointNotionalQuote := .finite 0
    fillCheckpointFeeQuote := .finite 0 }

/-- What a pending entry is made for. -/
structure PendingOutcome where
  outcome : String
  makerOrderId : String := ""
  hedgeOrderId : String := ""
  makerFilled : ExactFloat := .finite 0
  hedgeFilled : ExactFloat := .finite 0
  passiveOrderAck : Option PassiveOrderAck := none

section Execution

variable [TextCase] {World : Type} (env : EntryEnvironment World) (context : EntryContext)
  (nowMs : Int)

/-- `_make_pending_entry`. A fill of this call replaces the one that the existing entry
recorded; only without one is that kept. -/
def makePendingEntry (makerRequest hedgeRequest : EntryOrderRequest) (made : PendingOutcome) :
    PendingEntry ExactFloat :=
  let existing := env.pendingEntries.find? context.entryId
  let metadata := (existing.map (fun entry => entry.metadata)).getD .empty
  let pairId :=
    if context.pairId ≠ "" then context.pairId
    else
      match metadata.find? "pair_id" with
      | some value => if value.truthy then value.text else context.defaultPairId
      | none => context.defaultPairId
  let repostCount := (existing.map (fun entry => entry.repostCount)).getD 0 + 1
  let makerFilled := match existing with
    | some entry => orElseFloat made.makerFilled entry.makerLegFilled
    | none => made.makerFilled
  let hedgeFilled := match existing with
    | some entry => orElseFloat made.hedgeFilled entry.hedgeLegFilled
    | none => made.hedgeFilled
  let zeroFillSinceMs :=
    if makerFilled.truthy || hedgeFilled.truthy then 0
    else
      let previous := (existing.map (fun entry => entry.zeroFillSinceMs)).getD 0
      if 0 < previous then previous else nowMs
  let makerLeg := if context.makerIsLong then "long" else "short"
  let passiveOrder := made.passiveOrderAck.map (fun ack =>
    restingOrder ack makerRequest context.longQuantity nowMs env.makerEntryRestTimeoutMs)
  { pendingId := context.entryId
    symbol := context.symbol
    longVenue := context.longVenue
    shortVenue := context.shortVenue
    targetQuantity := context.longQuantity
    longSide := .buy
    shortSide := .sell
    createdAtMs := nowMs
    metadata := metadata.insert "pair_id" (.str pairId)
    makerOrderId := made.makerOrderId
    hedgeOrderId := made.hedgeOrderId
    makerClientOrderId := makerRequest.clientOrderId
    hedgeClientOrderId := hedgeRequest.clientOrderId
    makerLegFilled := makerFilled
    hedgeLegFilled := hedgeFilled
    uncertainOutcome := !(made.outcome == "filled" || made.outcome == "rejected")
    entryType := context.entryType.value
    makerPrice := makerRequest.price.getD (.finite 0)
    longQuantity := context.longQuantity
    shortQuantity := context.shortQuantity
    deadlineMs := nowMs + env.deadlineMs
    entryRoute := context.plannedRoute.value
    outcome := made.outcome
    opportunityType := context.opportunityType
    fundingTimestampMs := context.fundingTimestampMs
    firstFundingTimestampMs := context.firstFundingTimestampMs
    longFundingTimestampMs := context.longFundingTimestampMs
    shortFundingTimestampMs := context.shortFundingTimestampMs
    secondFundingTimestampMs := context.secondFundingTimestampMs
    firstFundingLeg := context.firstFundingLeg
    fundingEdgeBpsEntry := context.fundingEdgeBpsEntry
    totalFundingEdgeBpsEntry := context.totalFundingEdgeBpsEntry
    expectedEdgeBpsEntry := context.expectedEdgeBpsEntry
    worstCaseEdgeBpsEntry := context.worstCaseEdgeBpsEntry
    entryMakerLeg := context.entryMakerLeg
    exitMakerLeg := context.exitMakerLeg
    entryCrossBpsEntry := context.entryCrossBpsEntry
    feeBpsEntry := context.feeBpsEntry
    entrySlippageBpsEntry := context.entrySlippageBpsEntry
    transferBiasBpsEntry := context.transferBiasBpsEntry
    transferStateAtEntry := context.transferStateAtEntry
    entryLiquiditySourceAtEntry := context.entryLiquiditySourceAtEntry
    longVolume24hQuoteAtEntry := context.longVolume24hQuoteAtEntry
    shortVolume24hQuoteAtEntry := context.shortVolume24hQuoteAtEntry
    longOpenInterestQuoteAtEntry := context.longOpenInterestQuoteAtEntry
    shortOpenInterestQuoteAtEntry := context.shortOpenInterestQuoteAtEntry
    longEntryVwap := context.longEntryVwap
    shortEntryVwap := context.shortEntryVwap
    entryCapacityConstrained := context.entryCapacityConstrained
    entryTargetQuantity := context.entryTargetQuantity
    longMaxExecutableQuantity := context.longMaxExecutableQuantity
    shortMaxExecutableQuantity := context.shortMaxExecutableQuantity
    entryMaxExecutableQuantity := context.entryMaxExecutableQuantity
    entryDepthShortfallQuantity := context.entryDepthShortfallQuantity
    entryMaxExecutableNotionalQuote := context.entryMaxExecutableNotionalQuote
    entryDepthCappedAtEntry := context.entryDepthCappedAtEntry
    advisories := context.advisories
    blockedReasons := context.blockedReasons
    exitAfterFirstStage := context.exitAfterFirstStage
    phaseState := passiveOrder.map (fun order =>
      { executionKind := "entry"
        preferredMakerLeg := makerLeg
        activeMakerLeg := makerLeg
        phase := "high_slippage_maker"
        cycleAttempt := 1
        phaseStartedAtMs := order.acceptedAtMs
        cycleStartedAtMs := order.acceptedAtMs })
    passiveAttemptCount := if passiveOrder.isSome then 1 else 0
    repostCount := repostCount
    repostAttemptCount := if passiveOrder.isSome then 0 else repostCount
    zeroFillSinceMs := zeroFillSinceMs
    makerLeg := makerLeg
    passiveOrder := passiveOrder }

/-! ## The execution -/

structure EntryExecutionResult where
  route : ExecutionRoute := .rejected
  state : EntryState := .failed
  openPosition : Option OpenPosition := none
  pendingEntry : Option (PendingEntry ExactFloat) := none
  residualTask : Option ResidualExposureTask := none
  hasUncertainty : Bool := false
  makerFill : Option OrderFill := none
  hedgeFill : Option OrderFill := none
  rejectReason : String := ""

/-- The limit of reposts, and the cooldown of an entry that nothing fills. -/
def abortReason : Option String :=
  let existing := env.pendingEntries.find? context.entryId
  let reposts := (existing.map (fun entry => entry.repostCount)).getD 0
  if 0 < env.makerEntryMaxReposts ∧ env.makerEntryMaxReposts ≤ reposts then
    some ("max reposts reached (" ++ toString reposts ++ "/" ++
      toString env.makerEntryMaxReposts ++ ")")
  else
    let cooldownMs := env.pendingEntryZeroFillTerminalCooldownMs
    let since := (existing.map (fun entry => entry.zeroFillSinceMs)).getD 0
    if 0 < cooldownMs ∧ 0 < since ∧ cooldownMs ≤ nowMs - since then
      some ("zero-fill terminal cooldown expired (" ++ toString (nowMs - since) ++ "ms >= " ++
        toString cooldownMs ++ "ms)")
    else none

/-- The residual of both fills; the maker's is the long one or the short one. -/
def fillResidual (makerFilled hedgeFilled : ExactFloat) : Option ResidualExposureTask :=
  splitEntryFillResidual context
    (if context.makerIsLong then makerFilled else hedgeFilled)
    (if context.makerIsLong then hedgeFilled else makerFilled)
    nowMs (nowMs + env.deadlineMs)

/-- After both orders are filled. -/
def finishFilled (run : EntryRun World) (makerRequest hedgeRequest : EntryOrderRequest)
    (makerFill hedgeFill : OrderFill) : EntryExecutionResult × EntryRun World :=
  let residual := fillResidual env context nowMs makerFill.quantity hedgeFill.quantity
  let handedOver (outcome : String) : EntryExecutionResult :=
    { state := .failedWithResidual
      residualTask := residual
      makerFill := some makerFill
      hedgeFill := some hedgeFill
      pendingEntry := some (makePendingEntry env context nowMs makerRequest hedgeRequest
        { outcome := outcome
          makerOrderId := makerFill.orderId
          hedgeOrderId := hedgeFill.orderId
          makerFilled := makerFill.quantity
          hedgeFilled := hedgeFill.quantity }) }
  let matched := makerFill.quantity.min hedgeFill.quantity
  if residual.isSome then
    (handedOver "partial_fill_residual", run.log "entry.residual_detected")
  else if (ExactFloat.finite 0).lt context.longQuantity &&
      (matched.div context.longQuantity).lt env.minMatchedRatio then
    (handedOver "below_min_matched_ratio", run)
  else
    ({ state := .completed
       route := .passiveIncremental
       openPosition := some (buildOpenPosition context makerFill hedgeFill nowMs env.reviewId)
       makerFill := some makerFill
       hedgeFill := some hedgeFill },
      run.log "entry.opened")

/-- After the maker order is filled: the hedge. -/
def submitHedge (run : EntryRun World) (makerRequest hedgeRequest : EntryOrderRequest)
    (makerFill : OrderFill) : Except String EntryExecutionResult × EntryRun World :=
  match (advanceEntryState context .makerResting).bind
      (fun resting => advanceEntryState resting .submittingHedge) with
  | .error text => (.error text, run)
  | .ok context =>
    let (submitted, run) := submitOrder env run .hedge hedgeRequest
    let handedOver (made : PendingOutcome) : PendingEntry ExactFloat :=
      makePendingEntry env context nowMs makerRequest hedgeRequest
        { made with makerOrderId := makerFill.orderId, makerFilled := makerFill.quantity }
    match submitted with
    | .error text => (.error text, run)
    | .ok (.filled hedgeFill) =>
      let (result, run) := finishFilled env context nowMs run makerRequest hedgeRequest makerFill
        hedgeFill
      (.ok result, run)
    | .ok (.rejected _) =>
      (.ok { state := .failedWithResidual
             makerFill := some makerFill
             residualTask := fillResidual env context nowMs makerFill.quantity (.finite 0)
             pendingEntry := some (handedOver { outcome := "hedge_rejected" }) },
        run.log "entry.hedge_rejected_residual")
    | .ok (.uncertain orderId) =>
      (.ok { state := .failedWithResidual
             hasUncertainty := true
             makerFill := some makerFill
             pendingEntry := some (handedOver
               { outcome := "hedge_uncertain", hedgeOrderId := orderId }) }, run)
    -- a hedge never rests: only the maker's order posts
    | .ok (.resting _) => (.ok { makerFill := some makerFill }, run)

/-- `execute` without `before_open`. What it raises is a text. -/
def execute (world : World) : Except String EntryExecutionResult × EntryRun World :=
  let run : EntryRun World := { world := world }
  match abortReason env context nowMs with
  | some reason => (.ok {}, run.log "entry.aborted" reason)
  | none =>
    let run := if env.reviewId.isSome then run.log "review.assigned" else run
    let (makerRequest, hedgeRequest) := buildEntryOrders env.generateExchangeCid context
    let (submitted, run) := submitOrder env run .maker makerRequest
    match submitted with
    | .error text => (.error text, run)
    | .ok (.resting ack) =>
      (.ok { state := .makerResting
             route := .passiveIncremental
             pendingEntry := some (makePendingEntry env context nowMs makerRequest hedgeRequest
               { outcome := "maker_resting"
                 makerOrderId := ack.orderId
                 passiveOrderAck := some ack }) }, run)
    | .ok (.rejected reason) =>
      (.ok { rejectReason := reason }, run.log "entry.aborted" reason)
    | .ok (.uncertain orderId) =>
      (.ok { state := .failedWithResidual
             hasUncertainty := true
             pendingEntry := some (makePendingEntry env context nowMs makerRequest hedgeRequest
               { outcome := "uncertain", makerOrderId := orderId }) }, run)
    | .ok (.filled makerFill) =>
      submitHedge env context nowMs run makerRequest hedgeRequest makerFill

end Execution

end LightFee.Engine
