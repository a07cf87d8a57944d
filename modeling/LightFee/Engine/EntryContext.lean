import LightFee.Engine.CloseVenue

/-!
# The context of an entry

An entry opens a position with two orders: the maker's leg is submitted first, the
hedge on the other leg once the maker is filled. The context holds what was decided
before the orders go out; the orders, the position of two fills and the exposure that
one leg has over the other are computed from it.
-/

namespace LightFee.Engine

open LightFee.Venues

/-- The states of an execution. -/
inductive EntryState where
  | idle
  | submittingMaker
  | makerResting
  | submittingHedge
  | hedgePending
  | completed
  | failed
  | passiveFallback
  | failedWithResidual
deriving DecidableEq

def EntryState.value : EntryState → String
  | .idle => "idle"
  | .submittingMaker => "submitting_maker"
  | .makerResting => "maker_resting"
  | .submittingHedge => "submitting_hedge"
  | .hedgePending => "hedge_pending"
  | .completed => "completed"
  | .failed => "failed"
  | .passiveFallback => "passive_fallback"
  | .failedWithResidual => "failed_with_residual"

def EntryState.isTerminal (state : EntryState) : Bool :=
  state == .completed || state == .failed || state == .failedWithResidual

inductive EntryType where
  | standardDualTaker
  | passiveIncremental
  | passiveFallback
deriving DecidableEq

def EntryType.value : EntryType → String
  | .standardDualTaker => "standard_dual_taker"
  | .passiveIncremental => "passive_incremental"
  | .passiveFallback => "passive_fallback"

/-- A passive entry posts its maker order and waits. -/
def EntryType.isPassive (entryType : EntryType) : Bool :=
  entryType == .passiveIncremental || entryType == .passiveFallback

inductive ExecutionRoute where
  | passiveIncremental
  | fallbackToStandard
  | rejected
deriving DecidableEq

def ExecutionRoute.value : ExecutionRoute → String
  | .passiveIncremental => "passive_incremental"
  | .fallbackToStandard => "fallback_to_standard"
  | .rejected => "rejected"

structure EntryContext where
  entryId : String
  symbol : String
  longVenue : Venue
  shortVenue : Venue
  longQuantity : ExactFloat
  shortQuantity : ExactFloat
  longPriceHint : ExactFloat
  shortPriceHint : ExactFloat
  /-- The side of the leg that is submitted first. -/
  makerLeg : Side
  entryType : EntryType
  state : EntryState := .idle
  pairId : String := ""
  plannedRoute : ExecutionRoute := .passiveIncremental
  opportunityType : String := "aligned"
  fundingTimestampMs : Int := 0
  firstFundingTimestampMs : Int := 0
  longFundingTimestampMs : Int := 0
  shortFundingTimestampMs : Int := 0
  secondFundingTimestampMs : Int := 0
  firstFundingLeg : String := ""
  fundingEdgeBpsEntry : ExactFloat := .finite 0
  totalFundingEdgeBpsEntry : ExactFloat := .finite 0
  expectedEdgeBpsEntry : ExactFloat := .finite 0
  worstCaseEdgeBpsEntry : ExactFloat := .finite 0
  entryMakerLeg : String := ""
  exitMakerLeg : String := ""
  entryCrossBpsEntry : ExactFloat := .finite 0
  feeBpsEntry : ExactFloat := .finite 0
  entrySlippageBpsEntry : ExactFloat := .finite 0
  transferBiasBpsEntry : ExactFloat := .finite 0
  transferStateAtEntry : Option String := none
  entryLiquiditySourceAtEntry : Option String := none
  longVolume24hQuoteAtEntry : ExactFloat := .finite 0
  shortVolume24hQuoteAtEntry : ExactFloat := .finite 0
  longOpenInterestQuoteAtEntry : ExactFloat := .finite 0
  shortOpenInterestQuoteAtEntry : ExactFloat := .finite 0
  longEntryVwap : Option ExactFloat := none
  shortEntryVwap : Option ExactFloat := none
  entryCapacityConstrained : Bool := false
  entryTargetQuantity : ExactFloat := .finite 0
  longMaxExecutableQuantity : ExactFloat := .finite 0
  shortMaxExecutableQuantity : ExactFloat := .finite 0
  entryMaxExecutableQuantity : ExactFloat := .finite 0
  entryDepthShortfallQuantity : ExactFloat := .finite 0
  entryMaxExecutableNotionalQuote : ExactFloat := .finite 0
  entryDepthCappedAtEntry : Bool := false
  advisories : List String := []
  blockedReasons : List String := []
  exitAfterFirstStage : Bool := false

namespace EntryContext

def makerIsLong (context : EntryContext) : Bool := context.makerLeg == .buy

def makerVenue (context : EntryContext) : Venue :=
  if context.makerIsLong then context.longVenue else context.shortVenue

def hedgeVenue (context : EntryContext) : Venue :=
  if context.makerIsLong then context.shortVenue else context.longVenue

def defaultPairId [TextCase] (context : EntryContext) : String :=
  TextCase.lower context.symbol ++ ":" ++ context.longVenue.value ++ "->" ++
    context.shortVenue.value

end EntryContext

/-- `advance_entry_state`: a terminal state is left never, and trying to raises. -/
def advanceEntryState (context : EntryContext) (nextState : EntryState) :
    Except String EntryContext :=
  if context.state.isTerminal then
    .error ("Cannot advance from terminal state " ++ context.state.value ++ " to " ++
      nextState.value)
  else .ok { context with state := nextState }

/-! ## Orders -/

inductive TimeInForce where
  | gtc
  | ioc
deriving DecidableEq

/-- An order of an entry. -/
structure EntryOrderRequest extends OrderRequest where
  reduceOnly : Bool := false
  postOnly : Bool := false
  timeInForce : TimeInForce

/-- The order that buys the long leg, or sells the short one. -/
def legRequest (context : EntryContext) (buysLong : Bool) (postOnly : Bool)
    (clientOrderId : String) : EntryOrderRequest where
  venue := if buysLong then context.longVenue else context.shortVenue
  symbol := context.symbol
  side := if buysLong then .buy else .sell
  quantity := if buysLong then context.longQuantity else context.shortQuantity
  price := some (if buysLong then context.longPriceHint else context.shortPriceHint)
  clientOrderId := clientOrderId
  postOnly := postOnly
  timeInForce := if postOnly then .gtc else .ioc

/-- `build_entry_orders`: the maker's order and the hedge. -/
def buildEntryOrders (generateExchangeCid : (entryId leg : String) → Venue → String)
    (context : EntryContext) : EntryOrderRequest × EntryOrderRequest :=
  let makerCid := generateExchangeCid context.entryId "m" context.makerVenue
  let hedgeCid := generateExchangeCid context.entryId "h" context.hedgeVenue
  (legRequest context context.makerIsLong context.entryType.isPassive makerCid,
    legRequest context (!context.makerIsLong) false hedgeCid)

/-! ## The position of two fills -/

/-- `normalize_opportunity_type`. -/
def normalizeOpportunityType (value : String) : String :=
  if value = "staggered" then "staggered" else "aligned"

def positiveInt (value : Int) : Int := if 0 < value then value else 0

def firstPositive (values : List Int) : Int :=
  ((values.map positiveInt).find? (fun value => 0 < value)).getD 0

/-- The earlier of two times, where zero means that there is none. -/
def earlierFunding (long short : Int) : Int :=
  if 0 < long ∧ 0 < short then min long short
  else if 0 < long then long
  else if 0 < short then short
  else 0

/-- A fee that is known and not negative. -/
def exactFeeQuote (fill : OrderFill) : Option ExactFloat :=
  fill.feeQuote.filter (fun fee => fee.isFinite && (ExactFloat.finite 0).le fee)

/-- The part of a fill's fee that belongs to the matched quantity. -/
def matchedFeeQuote (fill : OrderFill) (matchedQty : ExactFloat) : ExactFloat :=
  if (ExactFloat.finite 0).lt fill.quantity then
    ((exactFeeQuote fill).getD (.finite 0)).mul (matchedQty.div fill.quantity)
  else .finite 0

def buildOpenPosition (context : EntryContext) (makerFill hedgeFill : OrderFill) (nowMs : Int)
    (reviewId : Option String := none) : OpenPosition :=
  let matchedQty := makerFill.quantity.min hedgeFill.quantity
  let longFill := if context.makerIsLong then makerFill else hedgeFill
  let shortFill := if context.makerIsLong then hedgeFill else makerFill
  let longFee := matchedFeeQuote longFill matchedQty
  let shortFee := matchedFeeQuote shortFill matchedQty
  let totalFee := longFee.add shortFee
  let longFundingMs := positiveInt context.longFundingTimestampMs
  let shortFundingMs := positiveInt context.shortFundingTimestampMs
  let firstFundingMs := firstPositive [context.fundingTimestampMs,
    context.firstFundingTimestampMs, earlierFunding longFundingMs shortFundingMs]
  let namedSecondMs := positiveInt context.secondFundingTimestampMs
  let secondFundingMs :=
    if namedSecondMs ≤ 0 ∧ 0 < longFundingMs ∧ 0 < shortFundingMs ∧
        firstFundingMs < max longFundingMs shortFundingMs
    then max longFundingMs shortFundingMs
    else namedSecondMs
  let opportunityType := normalizeOpportunityType context.opportunityType
  { positionId := context.entryId
    symbol := context.symbol
    longVenue := context.longVenue
    shortVenue := context.shortVenue
    longQuantity := matchedQty
    shortQuantity := matchedQty
    longEntryPrice := longFill.price
    shortEntryPrice := shortFill.price
    openedAtMs := nowMs
    entryNotionalQuote :=
      if (ExactFloat.finite 0).lt matchedQty && (ExactFloat.finite 0).lt longFill.price &&
          (ExactFloat.finite 0).lt shortFill.price
      then (matchedQty.mul (longFill.price.add shortFill.price)).mul (.finite (1 / 2))
      else .finite 0
    matchedQuantity := matchedQty
    initialQuantity := matchedQty
    enteredAtMs := max makerFill.filledAtMs hedgeFill.filledAtMs
    reviewId := reviewId
    longFill := some longFill
    shortFill := some shortFill
    longEntryFeeQuote := longFee
    shortEntryFeeQuote := shortFee
    totalEntryFeeQuote := totalFee
    entryFeeEvidenceComplete := (exactFeeQuote longFill).isSome && (exactFeeQuote shortFill).isSome
    currentNetQuote := totalFee.neg
    peakNetQuote := totalFee.neg
    fundingTimestampMs := firstFundingMs
    longFundingTimestampMs := longFundingMs
    shortFundingTimestampMs := shortFundingMs
    secondFundingTimestampMs := secondFundingMs
    opportunityType := opportunityType
    secondStageEnabledAtEntry :=
      opportunityType = "staggered" ∧ 0 < firstFundingMs ∧ firstFundingMs < secondFundingMs
    exitAfterFirstStage := context.exitAfterFirstStage
    fundingEdgeBpsEntry := context.fundingEdgeBpsEntry
    totalFundingEdgeBpsEntry :=
      if context.totalFundingEdgeBpsEntry.truthy then context.totalFundingEdgeBpsEntry
      else context.fundingEdgeBpsEntry
    expectedEdgeBpsEntry := context.expectedEdgeBpsEntry
    worstCaseEdgeBpsEntry := context.worstCaseEdgeBpsEntry
    firstFundingLeg := context.firstFundingLeg
    entryMakerLeg := context.entryMakerLeg
    exitMakerLeg := context.exitMakerLeg
    entryCrossBpsEntry := context.entryCrossBpsEntry
    feeBpsEntry := context.feeBpsEntry
    entrySlippageBpsEntry := context.entrySlippageBpsEntry
    transferBiasBpsEntry := context.transferBiasBpsEntry
    transferStateAtEntry := context.transferStateAtEntry
    entryLiquiditySourceAtEntry := context.entryLiquiditySourceAtEntry
    longVolume24hQuoteAtEntry := context.longVolume24hQuoteAtEntry
    shortVolume24hQuoteAtEntry := context.shortVolume24hQuoteAtEntry
    longOpenInterestQuoteAtEntry := context.longOpenInterestQuoteAtEntry
    shortOpenInterestQuoteAtEntry := context.shortOpenInterestQuoteAtEntry
    longEntryVwap := context.longEntryVwap
    shortEntryVwap := context.shortEntryVwap
    entryCapacityConstrained := context.entryCapacityConstrained
    entryTargetQuantity := context.entryTargetQuantity
    longMaxExecutableQuantity := context.longMaxExecutableQuantity
    shortMaxExecutableQuantity := context.shortMaxExecutableQuantity
    entryMaxExecutableQuantity := context.entryMaxExecutableQuantity
    entryDepthShortfallQuantity := context.entryDepthShortfallQuantity
    entryMaxExecutableNotionalQuote := context.entryMaxExecutableNotionalQuote
    entryDepthCappedAtEntry := context.entryDepthCappedAtEntry
    advisories := context.advisories
    blockedReasons := context.blockedReasons
    entryQualityCompletedAtMs := 0 }

/-! ## One leg over the other -/

/-- `split_entry_fill_residual`: the exposure that the larger leg has alone. -/
def splitEntryFillResidual [TextCase] (context : EntryContext) (longFilled shortFilled : ExactFloat)
    (nowMs deadlineMs : Int) : Option ResidualExposureTask :=
  let longQty := longFilled.max (.finite 0)
  let shortQty := shortFilled.max (.finite 0)
  if approxEq longQty shortQty then none
  else
    let longer := shortQty.lt longQty
    some
      { positionId := context.entryId
        pairId := context.defaultPairId
        symbol := context.symbol
        longVenue := context.longVenue
        shortVenue := context.shortVenue
        origin := .entryOpen
        exposureVenue := if longer then context.longVenue else context.shortVenue
        exposureSide := if longer then .sell else .buy
        exposureQuantity := if longer then longQty.sub shortQty else shortQty.sub longQty
        createdAtMs := nowMs
        deadlineMs := deadlineMs }

end LightFee.Engine
