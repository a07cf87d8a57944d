import LightFee.Engine.SnapshotView

/-!
# Restoring the state from a snapshot

The decoder of the view. It answers nothing where a conversion raises. Records
are rebuilt through their constructors, so a position gets its derived amounts
and an entry its repost count. A passive close takes the restored position of its
id, and its own snapshot of one only when there is none.
-/

namespace LightFee.Engine

open LightFee.Venues

variable [TextCase]

/-! ## Constructors -/

/-- `OpenPosition.__post_init__`. -/
def OpenPosition.postInit (position : OpenPosition) : OpenPosition :=
  let matched :=
    if position.matchedQuantity.eq 0 then position.longQuantity.min position.shortQuantity
    else position.matchedQuantity
  { position with
    matchedQuantity := matched
    initialQuantity := if position.initialQuantity.eq 0 then matched else position.initialQuantity
    enteredAtMs := if position.enteredAtMs = 0 then position.openedAtMs else position.enteredAtMs
    totalEntryFeeQuote :=
      if position.totalEntryFeeQuote.eq 0 then
        position.longEntryFeeQuote.add position.shortEntryFeeQuote
      else position.totalEntryFeeQuote }

/-- `PendingEntry.__post_init__`, on an entry whose records are decoded already. -/
def PendingEntry.postInit (pending : PendingEntry ExactFloat) : PendingEntry ExactFloat :=
  { pending with
    repostCount := if pending.repostCount = 0 then pending.repostAttemptCount
      else pending.repostCount }

/-! ## Parts of records -/

/-- The venue of a name, or a default one. -/
def venueOr (default : Venue) (value : SnapshotValue) : Venue :=
  (value.text?.bind Venue.fromStr).getD default

def sideOr (default : Side) (value : SnapshotValue) : Side :=
  (value.text?.bind Side.ofValue).getD default

/-- `int(value)` unless the value is missing. -/
def SnapshotValue.optionalInt? : SnapshotValue → Option (Option Int)
  | .null => some none
  | value => value.int?.map some

/-- The dictionary of a record. -/
def SnapshotValue.fields? : SnapshotValue → Option SnapshotFields
  | .fields data => some data
  | _ => none

/-- The record of a dictionary; a value that is no dictionary gives none. -/
def restoreRecord {Record : Type} (restore : SnapshotFields → Option Record)
    (value : SnapshotValue) : Option (Option Record) :=
  match value.fields? with
  | some data => (restore data).map some
  | none => some none

/-- `_deserialize_order_fill`. -/
def OrderFill.ofFields (data : SnapshotFields) : Option OrderFill := do
  return {
    venue := venueOr .binance (data.get .venue (.str "binance"))
    symbol := (← (data.get .symbol (.str "")).text?)
    side := sideOr .buy (data.get .side (.str "buy"))
    quantity := (← (data.get .quantity (.int 0)).float?)
    price := (← (data.get .price (.int 0)).float?)
    orderId := (← (data.get .orderId (.str "")).text?)
    clientOrderId := (← (data.get .clientOrderId).optionalText?)
    feeQuote := (← (data.get .feeQuote).optionalFloat?)
    filledAtMs := (← (data.get .filledAtMs (.int 0)).int?) }

def deserializeOrderFill : SnapshotValue → Option (Option OrderFill) :=
  restoreRecord OrderFill.ofFields

/-- `HedgeInflight.from_dict`. -/
def HedgeInflight.ofFields (data : SnapshotFields) : Option (HedgeInflight ExactFloat) := do
  return {
    clientOrderId := (← (data.get .clientOrderId (.str "")).text?)
    venue := (← ((data.get .venue (.str "")).text?).bind venueOfValue)
    side := (← ((data.get .side (.str "")).text?).bind Side.ofValue)
    quantity := (← (data.get .quantity (.int 0)).float?)
    attempt := (← (data.get .attempt (.int 0)).int?)
    submittedAtMs := (← (data.get .submittedAtMs (.int 0)).int?)
    softDeadlineLogged := (data.get .softDeadlineLogged (.bool false)).truthy }

/-- `_restore_hedge_inflight`; an older snapshot holds the client order id alone. -/
def restoreHedgeInflight : SnapshotValue → Option (Option (HedgeInflight ExactFloat))
  | .fields data => (HedgeInflight.ofFields data).map some
  | .str clientOrderId =>
    if clientOrderId = "" then some none
    else
      some (some
        { clientOrderId := clientOrderId
          venue := .bybit
          side := .buy
          quantity := 0
          attempt := 0
          submittedAtMs := 0 })
  | _ => some none

def PendingPassiveOrder.ofFields (data : SnapshotFields) :
    Option (PendingPassiveOrder ExactFloat) := do
  let state := ((data.get .lastProgressState (.str "unknown")).text?.bind
    PassiveOrderState.ofValue).getD .unknown
  return {
    orderId := (← ((data.get .orderId (.str "")).orElse (.str "")).text?)
    clientOrderId := (← ((data.get .clientOrderId (.str "")).orElse (.str "")).text?)
    limitPrice := (← (data.get .limitPrice).optionalFloat?)
    targetQuantity := (← ((data.get .targetQuantity (.float 0)).orElse (.float 0)).float?)
    acceptedAtMs := (← ((data.get .acceptedAtMs (.int 0)).orElse (.int 0)).int?)
    timeoutAtMs := (← ((data.get .timeoutAtMs (.int 0)).orElse (.int 0)).int?)
    cancelRequestedAtMs := (← ((data.get .cancelRequestedAtMs (.int 0)).orElse (.int 0)).int?)
    lastProgressState := state
    fillCheckpointQuantity :=
      (← ((data.get .fillCheckpointQuantity (.float 0)).orElse (.float 0)).float?)
    fillCheckpointNotionalQuote :=
      (← ((data.get .fillCheckpointNotionalQuote (.float 0)).orElse (.float 0)).float?)
    fillCheckpointFeeQuote :=
      (← ((data.get .fillCheckpointFeeQuote (.float 0)).orElse (.float 0)).float?)
    fillCheckpointLastFillAtMs := (data.get .fillCheckpointLastFillAtMs).int? }

def PendingEntryPassivePhaseState.ofFields (data : SnapshotFields) :
    Option PendingEntryPassivePhaseState := do
  return {
    executionKind := (← ((data.get .executionKind (.str "entry")).orElse (.str "entry")).text?)
    preferredMakerLeg :=
      (← ((data.get .preferredMakerLeg (.str "long")).orElse (.str "long")).text?)
    activeMakerLeg := (← ((data.get .activeMakerLeg (.str "long")).orElse (.str "long")).text?)
    phase :=
      (← ((data.get .phase (.str "high_slippage_maker")).orElse
        (.str "high_slippage_maker")).text?)
    zeroFillCyclesInPhase :=
      (← ((data.get .zeroFillCyclesInPhase (.int 0)).orElse (.int 0)).int?)
    cycleAttempt := (← ((data.get .cycleAttempt (.int 0)).orElse (.int 0)).int?)
    nextCycleDelayMs := (data.get .nextCycleDelayMs).int?
    smallFillMinNotionalAttempts :=
      (← ((data.get .smallFillMinNotionalAttempts (.int 0)).orElse (.int 0)).int?)
    hedgeDeadlineAtMs := (data.get .hedgeDeadlineAtMs).int?
    hedgeTimeoutGraceDeadlineAtMs := (data.get .hedgeTimeoutGraceDeadlineAtMs).int?
    phaseStartedAtMs := (← ((data.get .phaseStartedAtMs (.int 0)).orElse (.int 0)).int?)
    cycleStartedAtMs := (← ((data.get .cycleStartedAtMs (.int 0)).orElse (.int 0)).int?) }

def PendingEntryRemainderSlice.ofFields (data : SnapshotFields) :
    Option (PendingEntryRemainderSlice ExactFloat) := do
  return {
    quantity := (← ((data.get .quantity (.float 0)).orElse (.float 0)).float?)
    notionalQuote := (← ((data.get .notionalQuote (.float 0)).orElse (.float 0)).float?)
    fillAtMs := (data.get .fillAtMs).int? }

/-- A value that is no dictionary gives an empty slice. -/
def PendingEntryRemainderSlice.fromValue :
    SnapshotValue → Option (PendingEntryRemainderSlice ExactFloat)
  | .fields data => ofFields data
  | _ => some { quantity := 0, notionalQuote := 0 }

def PassiveOrderManagerRuntime.ofFields (data : SnapshotFields) :
    Option PassiveOrderManagerRuntime := do
  return {
    cooldownUntilMs := (data.get .cooldownUntilMs).int?
    consecutiveFailures := (← ((data.get .consecutiveFailures (.int 0)).orElse (.int 0)).int?)
    lastSuccessMs := (← ((data.get .lastSuccessMs (.int 0)).orElse (.int 0)).int?)
    lastAttemptMs := (← ((data.get .lastAttemptMs (.int 0)).orElse (.int 0)).int?)
    opsBudgetRemaining := (← ((data.get .opsBudgetRemaining (.int 0)).orElse (.int 0)).int?)
    opsBudgetResetMs := (← ((data.get .opsBudgetResetMs (.int 0)).orElse (.int 0)).int?)
    lastOperationMs := (← ((data.get .lastOperationMs (.int 0)).orElse (.int 0)).int?) }

def PassiveOrderManagerRuntime.fromValue : SnapshotValue → Option PassiveOrderManagerRuntime
  | .fields data => ofFields data
  | _ => some {}

/-- A fee of `null` raises. -/
def restoreCloseLegRecord (data : SnapshotFields) : Option CloseLegRecord := do
  return {
    venue := (← (data.get .venue (.str "")).text?)
    orderId := (← (data.get .orderId (.str "")).text?)
    clientOrderId := (← (data.get .clientOrderId (.str "")).text?)
    quantity := (← (data.get .quantity (.int 0)).float?)
    averagePrice := (← (data.get .averagePrice (.int 0)).float?)
    feeQuote := some (← (data.get .feeQuote (.int 0)).float?) }

def restorePersistedCloseExecutionLeg (data : SnapshotFields) :
    Option PersistedCloseExecutionLeg := do
  return {
    fill := (← deserializeOrderFill (data.get .fill))
    feeEvidenceComplete := some (data.get .feeEvidenceComplete (.bool false)).truthy
    orderId := (← ((data.get .orderId (.str "")).orElse (.str "")).text?)
    clientOrderId := (← ((data.get .clientOrderId (.str "")).orElse (.str "")).text?)
    submitStartedAtMs := (← ((data.get .submitStartedAtMs (.int 0)).orElse (.int 0)).int?)
    latencyMs := (← ((data.get .latencyMs (.int 0)).orElse (.int 0)).int?) }

/-- The records of a list; items that are no dictionaries are skipped. -/
def restoreRecords {Record : Type} (restore : SnapshotFields → Option Record) :
    List SnapshotValue → Option (List Record)
  | [] => some []
  | .fields data :: rest => do return (← restore data) :: (← restoreRecords restore rest)
  | _ :: rest => restoreRecords restore rest

def PassivePhaseState.ofFields (data : SnapshotFields) : Option PassivePhaseState := do
  return {
    phase := (← ((data.get .phase (.str "high_slippage_maker")).text?).bind
      PassiveExecutionPhase.ofValue)
    preferredMakerLeg :=
      (← ((data.get .preferredMakerLeg (.str "long")).text?).bind ActiveMakerLeg.ofValue)
    activeMakerLeg :=
      (← ((data.get .activeMakerLeg (.str "long")).text?).bind ActiveMakerLeg.ofValue)
    phaseStartedAtMs := (← (data.get .phaseStartedAtMs (.int 0)).int?)
    cycleAttempt := (← (data.get .cycleAttempt (.int 1)).int?)
    cycleStartedAtMs := (← (data.get .cycleStartedAtMs (.int 0)).int?)
    zeroFillCyclesInPhase := (← (data.get .zeroFillCyclesInPhase (.int 0)).int?)
    makerSubmitAttempt := (← (data.get .makerSubmitAttempt (.int 0)).int?)
    makerSubmitConsecutiveFailures :=
      (← ((data.get .makerSubmitConsecutiveFailures (.int 0)).orElse (.int 0)).int?)
    missingL2TickConsecutiveCount :=
      (← ((data.get .missingL2TickConsecutiveCount (.int 0)).orElse (.int 0)).int?)
    makerOrderId := (← (data.get .makerOrderId (.str "")).text?)
    makerClientOrderId := (← (data.get .makerClientOrderId (.str "")).text?)
    makerRestingLimitPrice := (← (data.get .makerRestingLimitPrice).optionalFloat?)
    makerRestingSinceMs := (← (data.get .makerRestingSinceMs (.int 0)).int?) }

def PendingPassiveLegFill.ofFields (data : SnapshotFields) : Option PendingPassiveLegFill := do
  return {
    quantity := (← (data.get .quantity (.int 0)).float?)
    averagePrice := (← (data.get .averagePrice (.int 0)).float?)
    feeQuote := (← (data.get .feeQuote (.int 0)).float?)
    feeEvidenceComplete := (data.get .feeEvidenceComplete (.bool false)).truthy
    lastFillTimeMs := (← (data.get .lastFillTimeMs (.int 0)).int?)
    orderId := (← (data.get .orderId (.str "")).text?)
    clientOrderId := (← (data.get .clientOrderId (.str "")).text?) }

/-! ## Records by id -/

/-- The entries of a table that are dictionaries, each decoded under its id. -/
def restoreEntries {Record : Type} (restore : String → SnapshotFields → Option Record)
    (records : OrderedDict String Record) :
    List (String × SnapshotValue) → Option (OrderedDict String Record)
  | [] => some records
  | (id, .fields data) :: rest => do
    restoreEntries restore (records.insert id (← restore id data)) rest
  | _ :: rest => restoreEntries restore records rest

def restoreTable {Record : Type} (restore : String → SnapshotFields → Option Record) :
    SnapshotValue → Option (OrderedDict String Record)
  | .table entries => restoreEntries restore .empty entries
  | _ => some .empty

/-- The arguments of the constructor of a position. -/
def OpenPosition.ofFields (data : SnapshotFields) : Option OpenPosition := do
  return {
    positionId := (← (data.get .positionId (.str "")).text?)
    symbol := (← (data.get .symbol (.str "")).text?)
    longVenue := venueOr .binance (data.get .longVenue (.str "binance"))
    shortVenue := venueOr .okx (data.get .shortVenue (.str "okx"))
    longQuantity := (← (data.get .longQuantity (.int 0)).float?)
    shortQuantity := (← (data.get .shortQuantity (.int 0)).float?)
    longEntryPrice := (← (data.get .longEntryPrice (.int 0)).float?)
    shortEntryPrice := (← (data.get .shortEntryPrice (.int 0)).float?)
    openedAtMs := (← (data.get .openedAtMs (.int 0)).int?)
    entryNotionalQuote := (← (data.get .entryNotionalQuote (.int 0)).float?)
    reviewId := (← (data.get .reviewId).optionalText?)
    opportunityOriginTags := (← (data.get .opportunityOriginTags (.texts [])).texts?)
    opportunityHintSource := (← (data.get .opportunityHintSource).optionalText?)
    matchedQuantity := (← (data.get .matchedQuantity (.int 0)).float?)
    initialQuantity := (← (data.get .initialQuantity (.int 0)).float?)
    enteredAtMs :=
      (← ((data.get .enteredAtMs (data.get .openedAtMs (.int 0))).orElse (.int 0)).int?)
    capturedFundingQuote := (← (data.get .capturedFundingQuote (.int 0)).float?)
    fundingCaptured := (data.get .fundingCaptured (.bool false)).truthy
    peakNetQuote := (← (data.get .peakNetQuote (.int 0)).float?)
    currentNetQuote := (← (data.get .currentNetQuote (.int 0)).float?)
    realizedPricePnlQuote := (← (data.get .realizedPricePnlQuote (.int 0)).float?)
    realizedExitFeeQuote := (← (data.get .realizedExitFeeQuote (.int 0)).float?)
    riskDeleverRealizedPricePnlQuote :=
      (← (data.get .riskDeleverRealizedPricePnlQuote (.int 0)).float?)
    riskDeleverRealizedExitFeeQuote :=
      (← (data.get .riskDeleverRealizedExitFeeQuote (.int 0)).float?)
    protectionRealizedPricePnlQuote :=
      (← (data.get .protectionRealizedPricePnlQuote (.int 0)).float?)
    protectionRealizedExitFeeQuote := (← (data.get .protectionRealizedExitFeeQuote (.int 0)).float?)
    longEntryFeeQuote := (← (data.get .longEntryFeeQuote (.int 0)).float?)
    shortEntryFeeQuote := (← (data.get .shortEntryFeeQuote (.int 0)).float?)
    totalEntryFeeQuote := (← (data.get .totalEntryFeeQuote (.int 0)).float?)
    entryFeeEvidenceComplete := (data.get .entryFeeEvidenceComplete (.bool false)).truthy
    fundingEdgeBpsEntry := (← (data.get .fundingEdgeBpsEntry (.int 0)).float?)
    totalFundingEdgeBpsEntry := (← (data.get .totalFundingEdgeBpsEntry (.int 0)).float?)
    expectedEdgeBpsEntry := (← (data.get .expectedEdgeBpsEntry (.int 0)).float?)
    worstCaseEdgeBpsEntry := (← (data.get .worstCaseEdgeBpsEntry (.int 0)).float?)
    entryCrossBpsEntry := (← (data.get .entryCrossBpsEntry (.int 0)).float?)
    feeBpsEntry := (← (data.get .feeBpsEntry (.int 0)).float?)
    entrySlippageBpsEntry := (← (data.get .entrySlippageBpsEntry (.int 0)).float?)
    transferBiasBpsEntry := (← (data.get .transferBiasBpsEntry (.int 0)).float?)
    transferStateAtEntry := (← (data.get .transferStateAtEntry).optionalText?)
    entryLiquiditySourceAtEntry := (← (data.get .entryLiquiditySourceAtEntry).optionalText?)
    longVolume24hQuoteAtEntry := (← (data.get .longVolume24hQuoteAtEntry (.int 0)).float?)
    shortVolume24hQuoteAtEntry := (← (data.get .shortVolume24hQuoteAtEntry (.int 0)).float?)
    longOpenInterestQuoteAtEntry := (← (data.get .longOpenInterestQuoteAtEntry (.int 0)).float?)
    shortOpenInterestQuoteAtEntry := (← (data.get .shortOpenInterestQuoteAtEntry (.int 0)).float?)
    longEntryVwap := (← (data.get .longEntryVwap).optionalFloat?)
    shortEntryVwap := (← (data.get .shortEntryVwap).optionalFloat?)
    entryCapacityConstrained := (data.get .entryCapacityConstrained (.bool false)).truthy
    entryTargetQuantity := (← (data.get .entryTargetQuantity (.int 0)).float?)
    longMaxExecutableQuantity := (← (data.get .longMaxExecutableQuantity (.int 0)).float?)
    shortMaxExecutableQuantity := (← (data.get .shortMaxExecutableQuantity (.int 0)).float?)
    entryMaxExecutableQuantity := (← (data.get .entryMaxExecutableQuantity (.int 0)).float?)
    entryDepthShortfallQuantity := (← (data.get .entryDepthShortfallQuantity (.int 0)).float?)
    entryMaxExecutableNotionalQuote :=
      (← (data.get .entryMaxExecutableNotionalQuote (.int 0)).float?)
    entryDepthCappedAtEntry := (data.get .entryDepthCappedAtEntry (.bool false)).truthy
    advisories := (← (data.get .advisories (.texts [])).texts?)
    blockedReasons := (← (data.get .blockedReasons (.texts [])).texts?)
    entryQualityCompletedAtMs := (← (data.get .entryQualityCompletedAtMs (.int 0)).int?)
    entryQualityMarkout5sEmitted := (data.get .entryQualityMarkout5sEmitted (.bool false)).truthy
    entryQualityMarkout30sEmitted := (data.get .entryQualityMarkout30sEmitted (.bool false)).truthy
    settlementHalfClosedQuantity := (← (data.get .settlementHalfClosedQuantity (.int 0)).float?)
    settlementHalfClosedAtMs := (← (data.get .settlementHalfClosedAtMs (.int 0)).int?)
    exitReason := (← (data.get .exitReason).optionalText?)
    lastRiskActionAtMs := (← (data.get .lastRiskActionAtMs (.int 0)).int?)
    riskDeleverStepCount := (← (data.get .riskDeleverStepCount (.int 0)).int?)
    lastRiskReason := (← (data.get .lastRiskReason).optionalText?)
    singleSideProtectionTriggered := (data.get .singleSideProtectionTriggered (.bool false)).truthy
    fundingTimestampMs := (← (data.get .fundingTimestampMs (.int 0)).int?)
    longFundingTimestampMs := (← (data.get .longFundingTimestampMs (.int 0)).int?)
    shortFundingTimestampMs := (← (data.get .shortFundingTimestampMs (.int 0)).int?)
    exitAfterFirstStage := (data.get .exitAfterFirstStage (.bool false)).truthy
    opportunityType := (← (data.get .opportunityType (.str "aligned")).text?)
    firstFundingLeg := (← (data.get .firstFundingLeg (.str "")).text?)
    secondStageEnabledAtEntry := (data.get .secondStageEnabledAtEntry (.bool false)).truthy
    secondFundingTimestampMs := (← (data.get .secondFundingTimestampMs (.int 0)).int?)
    secondStageFundingCaptured := (data.get .secondStageFundingCaptured (.bool false)).truthy
    secondStageFundingQuote := (← (data.get .secondStageFundingQuote (.int 0)).float?)
    entryMakerLeg := (← (data.get .entryMakerLeg (.str "")).text?)
    exitMakerLeg := (← (data.get .exitMakerLeg (.str "")).text?)
    longFill := (← deserializeOrderFill (data.get .longFill))
    shortFill := (← deserializeOrderFill (data.get .shortFill)) }

/-- `_deserialize_open_position`. -/
def deserializeOpenPosition (data : SnapshotFields) : Option OpenPosition :=
  (OpenPosition.ofFields data).map OpenPosition.postInit

/-- The arguments of the constructor of an entry. -/
def PendingEntry.ofFields (id : String) (data : SnapshotFields) :
    Option (PendingEntry ExactFloat) := do
  return {
    pendingId := (← (data.get .pendingId (.str id)).text?)
    symbol := (← (data.get .symbol (.str "")).text?)
    longVenue := venueOr .binance (data.get .longVenue (.str "binance"))
    shortVenue := venueOr .okx (data.get .shortVenue (.str "okx"))
    targetQuantity := (← (data.get .targetQuantity (.int 0)).float?)
    longSide := sideOr .buy (data.get .longSide (.str "buy"))
    shortSide := sideOr .sell (data.get .shortSide (.str "sell"))
    createdAtMs := (← (data.get .createdAtMs (.int 0)).int?)
    metadata := (← (data.get .metadata (.mapping .empty)).mapping?)
    makerOrderId := (← (data.get .makerOrderId (.str "")).text?)
    hedgeOrderId := (← (data.get .hedgeOrderId (.str "")).text?)
    makerClientOrderId := (← (data.get .makerClientOrderId (.str "")).text?)
    hedgeClientOrderId := (← (data.get .hedgeClientOrderId (.str "")).text?)
    makerLegFilled := (← (data.get .makerLegFilled (.int 0)).float?)
    hedgeLegFilled := (← (data.get .hedgeLegFilled (.int 0)).float?)
    makerFeeQuote := (data.get .makerFeeQuote).finiteFloat?
    hedgeFeeQuote := (data.get .hedgeFeeQuote).finiteFloat?
    deadlineMs := (← (data.get .deadlineMs (.int 0)).int?)
    fallbackRoute := (← (data.get .fallbackRoute (.str "")).text?)
    uncertainOutcome := (data.get .uncertainOutcome (.bool false)).truthy
    reconcileAttempt := (← (data.get .reconcileAttempt (.int 0)).int?)
    reconcileNextAttemptMs := (← (data.get .reconcileNextAttemptMs (.int 0)).int?)
    entryType := (← (data.get .entryType (.str "")).text?)
    makerPrice := (← (data.get .makerPrice (.int 0)).float?)
    makerFillPrice := (← (data.get .makerFillPrice (.int 0)).float?)
    hedgeFillPrice := (← (data.get .hedgeFillPrice (.int 0)).float?)
    hedgeInflight := (← restoreHedgeInflight (data.get .hedgeInflight (.str "")))
    hedgeAttemptCount := (← (data.get .hedgeAttemptCount (.int 0)).int?)
    repairState := (← (data.get .repairState (.str "")).text?)
    longQuantity := (← (data.get .longQuantity (.int 0)).float?)
    shortQuantity := (← (data.get .shortQuantity (.int 0)).float?)
    runId := (← (data.get .runId (.str "")).text?)
    entryRoute := (← (data.get .entryRoute (.str "")).text?)
    outcome := (← (data.get .outcome (.str "")).text?)
    opportunityType :=
      (← ((data.get .opportunityType (.str "aligned")).orElse (.str "aligned")).text?)
    fundingTimestampMs := (← (data.get .fundingTimestampMs (.int 0)).int?)
    firstFundingTimestampMs := (← (data.get .firstFundingTimestampMs (.int 0)).int?)
    longFundingTimestampMs := (← (data.get .longFundingTimestampMs (.int 0)).int?)
    shortFundingTimestampMs := (← (data.get .shortFundingTimestampMs (.int 0)).int?)
    secondFundingTimestampMs := (← (data.get .secondFundingTimestampMs (.int 0)).int?)
    firstFundingLeg := (← (data.get .firstFundingLeg (.str "")).text?)
    fundingEdgeBpsEntry := (← (data.get .fundingEdgeBpsEntry (.float 0)).float?)
    totalFundingEdgeBpsEntry := (← (data.get .totalFundingEdgeBpsEntry (.float 0)).float?)
    expectedEdgeBpsEntry := (← (data.get .expectedEdgeBpsEntry (.float 0)).float?)
    worstCaseEdgeBpsEntry := (← (data.get .worstCaseEdgeBpsEntry (.float 0)).float?)
    entryMakerLeg := (← (data.get .entryMakerLeg (.str "")).text?)
    exitMakerLeg := (← (data.get .exitMakerLeg (.str "")).text?)
    entryCrossBpsEntry := (← (data.get .entryCrossBpsEntry (.float 0)).float?)
    feeBpsEntry := (← (data.get .feeBpsEntry (.float 0)).float?)
    entrySlippageBpsEntry := (← (data.get .entrySlippageBpsEntry (.float 0)).float?)
    transferBiasBpsEntry := (← (data.get .transferBiasBpsEntry (.float 0)).float?)
    transferStateAtEntry := (← (data.get .transferStateAtEntry).optionalText?)
    entryLiquiditySourceAtEntry := (← (data.get .entryLiquiditySourceAtEntry).optionalText?)
    longVolume24hQuoteAtEntry := (← (data.get .longVolume24hQuoteAtEntry (.float 0)).float?)
    shortVolume24hQuoteAtEntry := (← (data.get .shortVolume24hQuoteAtEntry (.float 0)).float?)
    longOpenInterestQuoteAtEntry := (← (data.get .longOpenInterestQuoteAtEntry (.float 0)).float?)
    shortOpenInterestQuoteAtEntry := (← (data.get .shortOpenInterestQuoteAtEntry (.float 0)).float?)
    longEntryVwap := (← (data.get .longEntryVwap).optionalFloat?)
    shortEntryVwap := (← (data.get .shortEntryVwap).optionalFloat?)
    entryCapacityConstrained := (data.get .entryCapacityConstrained (.bool false)).truthy
    entryTargetQuantity := (← (data.get .entryTargetQuantity (.float 0)).float?)
    longMaxExecutableQuantity := (← (data.get .longMaxExecutableQuantity (.float 0)).float?)
    shortMaxExecutableQuantity := (← (data.get .shortMaxExecutableQuantity (.float 0)).float?)
    entryMaxExecutableQuantity := (← (data.get .entryMaxExecutableQuantity (.float 0)).float?)
    entryDepthShortfallQuantity := (← (data.get .entryDepthShortfallQuantity (.float 0)).float?)
    entryMaxExecutableNotionalQuote :=
      (← (data.get .entryMaxExecutableNotionalQuote (.float 0)).float?)
    entryDepthCappedAtEntry := (data.get .entryDepthCappedAtEntry (.bool false)).truthy
    advisories := (← (data.get .advisories (.texts [])).texts?)
    blockedReasons := (← (data.get .blockedReasons (.texts [])).texts?)
    exitAfterFirstStage := (data.get .exitAfterFirstStage (.bool false)).truthy
    phaseState := (← restoreRecord PendingEntryPassivePhaseState.ofFields (data.get .phaseState))
    passiveManagerRuntime :=
      (← PassiveOrderManagerRuntime.fromValue (data.get .passiveManagerRuntime))
    createdCycle := (← ((data.get .createdCycle (.int 0)).orElse (.int 0)).int?)
    repostAttemptCount :=
      (← ((data.get .repostAttemptCount (data.get .repostCount (.int 0))).orElse (.int 0)).int?)
    passiveAttemptCount := (← ((data.get .passiveAttemptCount (.int 0)).orElse (.int 0)).int?)
    passiveOpsTotal := (← ((data.get .passiveOpsTotal (.int 0)).orElse (.int 0)).int?)
    makerRemainderSlices :=
      (← (data.get .makerRemainderSlices (.list [])).items.mapM
        PendingEntryRemainderSlice.fromValue)
    lifetimeExhaustedLoggedFinalReason :=
      (← (data.get .lifetimeExhaustedLoggedFinalReason).optionalText?)
    frozenCandidate := (data.get .frozenCandidate).mapping?
    repostCount := (← (data.get .repostCount (.int 0)).int?)
    zeroFillSinceMs := (← (data.get .zeroFillSinceMs (.int 0)).int?)
    makerLeg := (← (data.get .makerLeg (.str "long")).text?)
    passiveOrder := (← restoreRecord PendingPassiveOrder.ofFields (data.get .passiveOrder))
    nextProgressPollMs := (← ((data.get .nextProgressPollMs (.int 0)).orElse (.int 0)).int?) }

def restorePendingEntry (id : String) (data : SnapshotFields) :
    Option (PendingEntry ExactFloat) :=
  (PendingEntry.ofFields id data).map PendingEntry.postInit

def restorePendingClose (id : String) (data : SnapshotFields) : Option PendingClose := do
  return {
    closeId := (← (data.get .closeId (.str id)).text?)
    positionId := (← (data.get .positionId (.str "")).text?)
    reason := (← (data.get .reason (.str "")).text?)
    createdAtMs := (← (data.get .createdAtMs (.int 0)).int?)
    longOrderId := (← (data.get .longOrderId (.str "")).text?)
    shortOrderId := (← (data.get .shortOrderId (.str "")).text?)
    longClientOrderId := (← (data.get .longClientOrderId (.str "")).text?)
    shortClientOrderId := (← (data.get .shortClientOrderId (.str "")).text?)
    longTargetCloseQty := (← (data.get .longTargetCloseQty (.int 0)).float?)
    shortTargetCloseQty := (← (data.get .shortTargetCloseQty (.int 0)).float?)
    longClosed := (← (data.get .longClosed (.int 0)).float?)
    shortClosed := (← (data.get .shortClosed (.int 0)).float?)
    longUncertain := (data.get .longUncertain (.bool false)).truthy
    shortUncertain := (data.get .shortUncertain (.bool false)).truthy
    deadlineMs := (← (data.get .deadlineMs (.int 0)).int?)
    reconcileAttempt := (← (data.get .reconcileAttempt (.int 0)).int?)
    reconcileNextAttemptMs := (← (data.get .reconcileNextAttemptMs (.int 0)).int?)
    runId := (← (data.get .runId (.str "")).text?)
    chunkIndex := (← (data.get .chunkIndex (.int 0)).int?)
    totalChunks := (← (data.get .totalChunks (.int 1)).int?)
    longLegs := (← restoreRecords restoreCloseLegRecord (data.get .longLegs (.list [])).items)
    shortLegs := (← restoreRecords restoreCloseLegRecord (data.get .shortLegs (.list [])).items) }

/-- The position of a restored passive close: the restored one of its id, else the
snapshot stored with the close. -/
def restorePositionSnapshot (positions : OrderedDict String OpenPosition) (positionId : String)
    (stored : SnapshotValue) : Option (Option OpenPosition) :=
  match positions.find? positionId with
  | some position => some (some position)
  | none => restoreRecord deserializeOpenPosition stored

def restorePendingPassiveClose (positions : OrderedDict String OpenPosition) (id : String)
    (data : SnapshotFields) : Option PendingPassiveClose := do
  let positionId ← ((data.get .positionId (.str id)).orElse (.str id)).text?
  let positionSnapshot ←
    restorePositionSnapshot positions positionId (data.get .positionSnapshot)
  return {
    positionId := positionId
    reason := (← (data.get .reason (.str "")).text?)
    positionSnapshot := positionSnapshot
    shortStage := (← ((data.get .shortStage (.str "")).orElse (.str "exit_short")).text?)
    longStage := (← ((data.get .longStage (.str "")).orElse (.str "exit_long")).text?)
    targetQuantity := (← (data.get .targetQuantity (.int 0)).float?)
    maxSlippageBps := (← (data.get .maxSlippageBps).optionalFloat?)
    chunkQuantities := (← (data.get .chunkQuantities (.floats [])).floats?)
    activeChunkIndex := (← (data.get .activeChunkIndex (.int 0)).int?)
    phaseState := (← (data.get .phaseState).fields?.bind PassivePhaseState.ofFields)
    makerFill := (← (data.get .makerFill).fields?.bind PendingPassiveLegFill.ofFields)
    hedgeFill := (← (data.get .hedgeFill).fields?.bind PendingPassiveLegFill.ofFields)
    longLegs := (← restoreRecords restorePersistedCloseExecutionLeg (data.get .longLegs).items)
    shortLegs := (← restoreRecords restorePersistedCloseExecutionLeg (data.get .shortLegs).items)
    passiveManagerRuntimes :=
      (← restoreTable (fun _ data => PassiveOrderManagerRuntime.ofFields data)
      (data.get .passiveManagerRuntimes (.table [])))
    smallFillMinNotionalAttempts :=
      (← ((data.get .smallFillMinNotionalAttempts (.int 0)).orElse (.int 0)).int?)
    lastSmallFillMissingQuantity :=
      (← ((data.get .lastSmallFillMissingQuantity (.float 0)).orElse (.float 0)).float?)
    smallFillBufferStartedAtMs := (← (data.get .smallFillBufferStartedAtMs).optionalInt?)
    nextRetryAtMs := (← (data.get .nextRetryAtMs (.int 0)).int?)
    multiPhaseStartedAtMs := (← (data.get .multiPhaseStartedAtMs (.int 0)).int?)
    createdCycle := (← (data.get .createdCycle (.int 0)).int?)
    opsCountThisWindow := (← ((data.get .opsCountThisWindow (.int 0)).orElse (.int 0)).int?)
    opsWindowStartedAtMs := (← ((data.get .opsWindowStartedAtMs (.int 0)).orElse (.int 0)).int?) }

/-! ## The state -/

/-- A stale lifecycle of older snapshots becomes the risk-only one. -/
def restoreLifecycle (value : SnapshotValue) : EngineLifecycle :=
  if value.text? = some "fail_closed" then .riskOnly
  else (value.text?.bind EngineLifecycle.ofValue).getD .booting

def OperatorControlState.ofFields (data : SnapshotFields) : OperatorControlState where
  requestedMode := (data.get .requestedMode).text?.bind GlobalRiskMode.ofValue
  pendingReconcile := (data.get .pendingReconcile (.bool false)).truthy

/-- `_restore_state_from_snapshot_dict`. -/
def restoreStateFromSnapshotDict (snap : SnapshotFields) : Option EngineState := do
  let openPositions ← restoreTable (fun _ data => deserializeOpenPosition data)
    (snap.get .openPositions (.table []))
  return {
    lifecycle := restoreLifecycle (snap.get .lifecycle (.str "booting"))
    riskMode :=
      (((snap.get .riskMode (.str "running")).text?).bind GlobalRiskMode.ofValue).getD .running
    recoveryBlockedReason := (← (snap.get .recoveryBlockedReason).optionalText?)
    recoveryBlockedAtMs := (← (snap.get .recoveryBlockedAtMs (.int 0)).int?)
    pendingResidualRepairs := (← (snap.get .pendingResidualRepairs (.plain [])).plain?)
    liveRecoveryReduceOnlyPairs := (← (snap.get .liveRecoveryReduceOnlyPairs (.plain [])).plain?)
    operator := (snap.get .operator).fields?.elim {} OperatorControlState.ofFields
    openPositions := openPositions
    pendingEntries := (← restoreTable restorePendingEntry (snap.get .pendingEntries (.table [])))
    pendingCloses := (← restoreTable restorePendingClose (snap.get .pendingCloses (.table [])))
    pendingPassiveCloses := (← restoreTable (restorePendingPassiveClose openPositions)
      (snap.get .pendingPassiveCloses (.table []))) }

end LightFee.Engine
