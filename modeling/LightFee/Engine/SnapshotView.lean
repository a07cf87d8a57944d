import LightFee.Engine.SnapshotValue

/-!
# The persistent view of the state

What a snapshot stores. The engine's own dictionary lists positions, entries and
closes a second time; the view replaces those parts by the fuller ones below, so
only these are written.
-/

namespace LightFee.Engine

open LightFee.Venues

/-! ## Parts of records -/

/-- `_serialize_order_fill`. -/
def serializeOrderFill (fill : OrderFill) : SnapshotValue :=
  .fields fun
  | .venue => some (.str fill.venue.value)
  | .symbol => some (.str fill.symbol)
  | .side => some (.str fill.side.value)
  | .quantity => some (.float fill.quantity)
  | .price => some (.float fill.price)
  | .orderId => some (.str fill.orderId)
  | .clientOrderId => some (.textOrNull fill.clientOrderId)
  | .feeQuote => some (.floatOrNull fill.feeQuote)
  | .filledAtMs => some (.int fill.filledAtMs)
  | _ => none

def HedgeInflight.toFields (inflight : HedgeInflight ExactFloat) : SnapshotValue :=
  .fields fun
  | .clientOrderId => some (.str inflight.clientOrderId)
  | .venue => some (.str inflight.venue.value)
  | .side => some (.str inflight.side.value)
  | .quantity => some (.float inflight.quantity)
  | .attempt => some (.int inflight.attempt)
  | .submittedAtMs => some (.int inflight.submittedAtMs)
  | .softDeadlineLogged => some (.bool inflight.softDeadlineLogged)
  | _ => none

def PendingPassiveOrder.toFields (order : PendingPassiveOrder ExactFloat) : SnapshotValue :=
  .fields fun
  | .orderId => some (.str order.orderId)
  | .clientOrderId => some (.str order.clientOrderId)
  | .limitPrice => some (.floatOrNull order.limitPrice)
  | .targetQuantity => some (.float order.targetQuantity)
  | .acceptedAtMs => some (.int order.acceptedAtMs)
  | .timeoutAtMs => some (.int order.timeoutAtMs)
  | .cancelRequestedAtMs => some (.int order.cancelRequestedAtMs)
  | .lastProgressState => some (.str order.lastProgressState.value)
  | .fillCheckpointQuantity => some (.float order.fillCheckpointQuantity)
  | .fillCheckpointNotionalQuote => some (.float order.fillCheckpointNotionalQuote)
  | .fillCheckpointFeeQuote => some (.float order.fillCheckpointFeeQuote)
  | .fillCheckpointLastFillAtMs => some (.intOrNull order.fillCheckpointLastFillAtMs)
  | _ => none

def PendingEntryPassivePhaseState.toFields (state : PendingEntryPassivePhaseState) :
    SnapshotValue :=
  .fields fun
  | .executionKind => some (.str state.executionKind)
  | .preferredMakerLeg => some (.str state.preferredMakerLeg)
  | .activeMakerLeg => some (.str state.activeMakerLeg)
  | .phase => some (.str state.phase)
  | .zeroFillCyclesInPhase => some (.int state.zeroFillCyclesInPhase)
  | .cycleAttempt => some (.int state.cycleAttempt)
  | .nextCycleDelayMs => some (.intOrNull state.nextCycleDelayMs)
  | .smallFillMinNotionalAttempts => some (.int state.smallFillMinNotionalAttempts)
  | .hedgeDeadlineAtMs => some (.intOrNull state.hedgeDeadlineAtMs)
  | .hedgeTimeoutGraceDeadlineAtMs => some (.intOrNull state.hedgeTimeoutGraceDeadlineAtMs)
  | .phaseStartedAtMs => some (.int state.phaseStartedAtMs)
  | .cycleStartedAtMs => some (.int state.cycleStartedAtMs)
  | _ => none

def PendingEntryRemainderSlice.toFields (slice : PendingEntryRemainderSlice ExactFloat) :
    SnapshotValue :=
  .fields fun
  | .quantity => some (.float slice.quantity)
  | .notionalQuote => some (.float slice.notionalQuote)
  | .fillAtMs => some (.intOrNull slice.fillAtMs)
  | _ => none

def PassiveOrderManagerRuntime.toFields (runtime : PassiveOrderManagerRuntime) : SnapshotValue :=
  .fields fun
  | .cooldownUntilMs => some (.intOrNull runtime.cooldownUntilMs)
  | .consecutiveFailures => some (.int runtime.consecutiveFailures)
  | .lastSuccessMs => some (.int runtime.lastSuccessMs)
  | .lastAttemptMs => some (.int runtime.lastAttemptMs)
  | .opsBudgetRemaining => some (.int runtime.opsBudgetRemaining)
  | .opsBudgetResetMs => some (.int runtime.opsBudgetResetMs)
  | .lastOperationMs => some (.int runtime.lastOperationMs)
  | _ => none

def serializeCloseLegRecord (leg : CloseLegRecord) : SnapshotValue :=
  .fields fun
  | .venue => some (.str leg.venue)
  | .orderId => some (.str leg.orderId)
  | .clientOrderId => some (.str leg.clientOrderId)
  | .quantity => some (.float leg.quantity)
  | .averagePrice => some (.float leg.averagePrice)
  | .feeQuote => some (.floatOrNull leg.feeQuote)
  | _ => none

/-- Without a flag of its own, a leg's fee evidence is complete when its fill has a
fee that is not negative. -/
def PersistedCloseExecutionLeg.feeEvidence (leg : PersistedCloseExecutionLeg) : Bool :=
  match leg.feeEvidenceComplete with
  | some complete => complete
  | none =>
    match (leg.fill.bind OrderFill.feeQuote).filter ExactFloat.isFinite with
    | some fee => (0 : ExactFloat).le fee
    | none => false

/-- `_serialize_persisted_close_execution_leg`. -/
def serializePersistedCloseExecutionLeg (leg : PersistedCloseExecutionLeg) : SnapshotValue :=
  .fields fun
  | .fill => some (leg.fill.elim .null serializeOrderFill)
  | .feeEvidenceComplete => some (.bool leg.feeEvidence)
  | .orderId => some (.str leg.orderId)
  | .clientOrderId => some (.str leg.clientOrderId)
  | .submitStartedAtMs => some (.int leg.submitStartedAtMs)
  | .latencyMs => some (.int leg.latencyMs)
  | _ => none

def serializePhaseState (state : PassivePhaseState) : SnapshotValue :=
  .fields fun
  | .phase => some (.str state.phase.value)
  | .preferredMakerLeg => some (.str state.preferredMakerLeg.value)
  | .activeMakerLeg => some (.str state.activeMakerLeg.value)
  | .phaseStartedAtMs => some (.int state.phaseStartedAtMs)
  | .cycleAttempt => some (.int state.cycleAttempt)
  | .cycleStartedAtMs => some (.int state.cycleStartedAtMs)
  | .zeroFillCyclesInPhase => some (.int state.zeroFillCyclesInPhase)
  | .makerSubmitAttempt => some (.int state.makerSubmitAttempt)
  | .makerSubmitConsecutiveFailures => some (.int state.makerSubmitConsecutiveFailures)
  | .missingL2TickConsecutiveCount => some (.int state.missingL2TickConsecutiveCount)
  | .makerOrderId => some (.str state.makerOrderId)
  | .makerClientOrderId => some (.str state.makerClientOrderId)
  | .makerRestingLimitPrice => some (.floatOrNull state.makerRestingLimitPrice)
  | .makerRestingSinceMs => some (.int state.makerRestingSinceMs)
  | _ => none

def serializeLegFill (fill : PendingPassiveLegFill) : SnapshotValue :=
  .fields fun
  | .quantity => some (.float fill.quantity)
  | .averagePrice => some (.float fill.averagePrice)
  | .feeQuote => some (.float fill.feeQuote)
  | .feeEvidenceComplete => some (.bool fill.feeEvidenceComplete)
  | .lastFillTimeMs => some (.int fill.lastFillTimeMs)
  | .orderId => some (.str fill.orderId)
  | .clientOrderId => some (.str fill.clientOrderId)
  | _ => none

/-! ## Records by id -/

/-- `_serialize_open_position`. -/
def serializeOpenPosition (position : OpenPosition) : SnapshotValue :=
  .fields fun
  | .positionId => some (.str position.positionId)
  | .symbol => some (.str position.symbol)
  | .reviewId => some (.textOrNull position.reviewId)
  | .opportunityOriginTags => some (.texts position.opportunityOriginTags)
  | .opportunityHintSource => some (.textOrNull position.opportunityHintSource)
  | .longVenue => some (.str position.longVenue.value)
  | .shortVenue => some (.str position.shortVenue.value)
  | .longQuantity => some (.float position.longQuantity)
  | .shortQuantity => some (.float position.shortQuantity)
  | .longEntryPrice => some (.float position.longEntryPrice)
  | .shortEntryPrice => some (.float position.shortEntryPrice)
  | .entryNotionalQuote => some (.float position.entryNotionalQuote)
  | .openedAtMs => some (.int position.openedAtMs)
  | .matchedQuantity => some (.float position.matchedQuantity)
  | .initialQuantity => some (.float position.initialQuantity)
  | .enteredAtMs => some (.int position.enteredAtMs)
  | .capturedFundingQuote => some (.float position.capturedFundingQuote)
  | .fundingCaptured => some (.bool position.fundingCaptured)
  | .peakNetQuote => some (.float position.peakNetQuote)
  | .currentNetQuote => some (.float position.currentNetQuote)
  | .realizedPricePnlQuote => some (.float position.realizedPricePnlQuote)
  | .realizedExitFeeQuote => some (.float position.realizedExitFeeQuote)
  | .riskDeleverRealizedPricePnlQuote => some (.float position.riskDeleverRealizedPricePnlQuote)
  | .riskDeleverRealizedExitFeeQuote => some (.float position.riskDeleverRealizedExitFeeQuote)
  | .protectionRealizedPricePnlQuote => some (.float position.protectionRealizedPricePnlQuote)
  | .protectionRealizedExitFeeQuote => some (.float position.protectionRealizedExitFeeQuote)
  | .longEntryFeeQuote => some (.float position.longEntryFeeQuote)
  | .shortEntryFeeQuote => some (.float position.shortEntryFeeQuote)
  | .totalEntryFeeQuote => some (.float position.totalEntryFeeQuote)
  | .entryFeeEvidenceComplete => some (.bool position.entryFeeEvidenceComplete)
  | .fundingEdgeBpsEntry => some (.float position.fundingEdgeBpsEntry)
  | .totalFundingEdgeBpsEntry => some (.float position.totalFundingEdgeBpsEntry)
  | .expectedEdgeBpsEntry => some (.float position.expectedEdgeBpsEntry)
  | .worstCaseEdgeBpsEntry => some (.float position.worstCaseEdgeBpsEntry)
  | .entryCrossBpsEntry => some (.float position.entryCrossBpsEntry)
  | .feeBpsEntry => some (.float position.feeBpsEntry)
  | .entrySlippageBpsEntry => some (.float position.entrySlippageBpsEntry)
  | .transferBiasBpsEntry => some (.float position.transferBiasBpsEntry)
  | .transferStateAtEntry => some (.textOrNull position.transferStateAtEntry)
  | .entryLiquiditySourceAtEntry => some (.textOrNull position.entryLiquiditySourceAtEntry)
  | .longVolume24hQuoteAtEntry => some (.float position.longVolume24hQuoteAtEntry)
  | .shortVolume24hQuoteAtEntry => some (.float position.shortVolume24hQuoteAtEntry)
  | .longOpenInterestQuoteAtEntry => some (.float position.longOpenInterestQuoteAtEntry)
  | .shortOpenInterestQuoteAtEntry => some (.float position.shortOpenInterestQuoteAtEntry)
  | .longEntryVwap => some (.floatOrNull position.longEntryVwap)
  | .shortEntryVwap => some (.floatOrNull position.shortEntryVwap)
  | .entryCapacityConstrained => some (.bool position.entryCapacityConstrained)
  | .entryTargetQuantity => some (.float position.entryTargetQuantity)
  | .longMaxExecutableQuantity => some (.float position.longMaxExecutableQuantity)
  | .shortMaxExecutableQuantity => some (.float position.shortMaxExecutableQuantity)
  | .entryMaxExecutableQuantity => some (.float position.entryMaxExecutableQuantity)
  | .entryDepthShortfallQuantity => some (.float position.entryDepthShortfallQuantity)
  | .entryMaxExecutableNotionalQuote => some (.float position.entryMaxExecutableNotionalQuote)
  | .entryDepthCappedAtEntry => some (.bool position.entryDepthCappedAtEntry)
  | .advisories => some (.texts position.advisories)
  | .blockedReasons => some (.texts position.blockedReasons)
  | .entryQualityCompletedAtMs => some (.int position.entryQualityCompletedAtMs)
  | .entryQualityMarkout5sEmitted => some (.bool position.entryQualityMarkout5sEmitted)
  | .entryQualityMarkout30sEmitted => some (.bool position.entryQualityMarkout30sEmitted)
  | .settlementHalfClosedQuantity => some (.float position.settlementHalfClosedQuantity)
  | .settlementHalfClosedAtMs => some (.int position.settlementHalfClosedAtMs)
  | .exitReason => some (.textOrNull position.exitReason)
  | .lastRiskActionAtMs => some (.int position.lastRiskActionAtMs)
  | .riskDeleverStepCount => some (.int position.riskDeleverStepCount)
  | .lastRiskReason => some (.textOrNull position.lastRiskReason)
  | .singleSideProtectionTriggered => some (.bool position.singleSideProtectionTriggered)
  | .fundingTimestampMs => some (.int position.fundingTimestampMs)
  | .longFundingTimestampMs => some (.int position.longFundingTimestampMs)
  | .shortFundingTimestampMs => some (.int position.shortFundingTimestampMs)
  | .exitAfterFirstStage => some (.bool position.exitAfterFirstStage)
  | .opportunityType => some (.str position.opportunityType)
  | .firstFundingLeg => some (.str position.firstFundingLeg)
  | .secondStageEnabledAtEntry => some (.bool position.secondStageEnabledAtEntry)
  | .secondFundingTimestampMs => some (.int position.secondFundingTimestampMs)
  | .secondStageFundingCaptured => some (.bool position.secondStageFundingCaptured)
  | .secondStageFundingQuote => some (.float position.secondStageFundingQuote)
  | .entryMakerLeg => some (.str position.entryMakerLeg)
  | .exitMakerLeg => some (.str position.exitMakerLeg)
  | .longFill => some (position.longFill.elim .null serializeOrderFill)
  | .shortFill => some (position.shortFill.elim .null serializeOrderFill)
  | _ => none

/-- An entry's dictionary in the view. -/
def serializePendingEntry (pending : PendingEntry ExactFloat) : SnapshotValue :=
  .fields fun
  | .pendingId => some (.str pending.pendingId)
  | .symbol => some (.str pending.symbol)
  | .longVenue => some (.str pending.longVenue.value)
  | .shortVenue => some (.str pending.shortVenue.value)
  | .targetQuantity => some (.float pending.targetQuantity)
  | .longSide => some (.str pending.longSide.value)
  | .shortSide => some (.str pending.shortSide.value)
  | .createdAtMs => some (.int pending.createdAtMs)
  | .metadata => some (.mapping pending.metadata)
  | .makerOrderId => some (.str pending.makerOrderId)
  | .hedgeOrderId => some (.str pending.hedgeOrderId)
  | .makerClientOrderId => some (.str pending.makerClientOrderId)
  | .hedgeClientOrderId => some (.str pending.hedgeClientOrderId)
  | .makerLegFilled => some (.float pending.makerLegFilled)
  | .hedgeLegFilled => some (.float pending.hedgeLegFilled)
  | .deadlineMs => some (.int pending.deadlineMs)
  | .fallbackRoute => some (.str pending.fallbackRoute)
  | .uncertainOutcome => some (.bool pending.uncertainOutcome)
  | .reconcileAttempt => some (.int pending.reconcileAttempt)
  | .reconcileNextAttemptMs => some (.int pending.reconcileNextAttemptMs)
  | .entryType => some (.str pending.entryType)
  | .makerPrice => some (.float pending.makerPrice)
  | .makerFillPrice => some (.float pending.makerFillPrice)
  | .hedgeFillPrice => some (.float pending.hedgeFillPrice)
  | .hedgeInflight => some (pending.hedgeInflight.elim (.str "") HedgeInflight.toFields)
  | .hedgeAttemptCount => some (.int pending.hedgeAttemptCount)
  | .repairState => some (.str pending.repairState)
  | .makerLeg => some (.str pending.makerLeg)
  | .longQuantity => some (.float pending.longQuantity)
  | .shortQuantity => some (.float pending.shortQuantity)
  | .runId => some (.str pending.runId)
  | .entryRoute => some (.str pending.entryRoute)
  | .outcome => some (.str pending.outcome)
  | .opportunityType => some (.str pending.opportunityType)
  | .fundingTimestampMs => some (.int pending.fundingTimestampMs)
  | .firstFundingTimestampMs => some (.int pending.firstFundingTimestampMs)
  | .longFundingTimestampMs => some (.int pending.longFundingTimestampMs)
  | .shortFundingTimestampMs => some (.int pending.shortFundingTimestampMs)
  | .secondFundingTimestampMs => some (.int pending.secondFundingTimestampMs)
  | .firstFundingLeg => some (.str pending.firstFundingLeg)
  | .fundingEdgeBpsEntry => some (.float pending.fundingEdgeBpsEntry)
  | .totalFundingEdgeBpsEntry => some (.float pending.totalFundingEdgeBpsEntry)
  | .expectedEdgeBpsEntry => some (.float pending.expectedEdgeBpsEntry)
  | .worstCaseEdgeBpsEntry => some (.float pending.worstCaseEdgeBpsEntry)
  | .entryMakerLeg => some (.str pending.entryMakerLeg)
  | .exitMakerLeg => some (.str pending.exitMakerLeg)
  | .entryCrossBpsEntry => some (.float pending.entryCrossBpsEntry)
  | .feeBpsEntry => some (.float pending.feeBpsEntry)
  | .entrySlippageBpsEntry => some (.float pending.entrySlippageBpsEntry)
  | .transferBiasBpsEntry => some (.float pending.transferBiasBpsEntry)
  | .transferStateAtEntry => some (.textOrNull pending.transferStateAtEntry)
  | .entryLiquiditySourceAtEntry => some (.textOrNull pending.entryLiquiditySourceAtEntry)
  | .longVolume24hQuoteAtEntry => some (.float pending.longVolume24hQuoteAtEntry)
  | .shortVolume24hQuoteAtEntry => some (.float pending.shortVolume24hQuoteAtEntry)
  | .longOpenInterestQuoteAtEntry => some (.float pending.longOpenInterestQuoteAtEntry)
  | .shortOpenInterestQuoteAtEntry => some (.float pending.shortOpenInterestQuoteAtEntry)
  | .longEntryVwap => some (.floatOrNull pending.longEntryVwap)
  | .shortEntryVwap => some (.floatOrNull pending.shortEntryVwap)
  | .entryCapacityConstrained => some (.bool pending.entryCapacityConstrained)
  | .entryTargetQuantity => some (.float pending.entryTargetQuantity)
  | .longMaxExecutableQuantity => some (.float pending.longMaxExecutableQuantity)
  | .shortMaxExecutableQuantity => some (.float pending.shortMaxExecutableQuantity)
  | .entryMaxExecutableQuantity => some (.float pending.entryMaxExecutableQuantity)
  | .entryDepthShortfallQuantity => some (.float pending.entryDepthShortfallQuantity)
  | .entryMaxExecutableNotionalQuote => some (.float pending.entryMaxExecutableNotionalQuote)
  | .entryDepthCappedAtEntry => some (.bool pending.entryDepthCappedAtEntry)
  | .advisories => some (.texts pending.advisories)
  | .blockedReasons => some (.texts pending.blockedReasons)
  | .exitAfterFirstStage => some (.bool pending.exitAfterFirstStage)
  | .phaseState => some (pending.phaseState.elim .null PendingEntryPassivePhaseState.toFields)
  | .passiveManagerRuntime => some (pending.passiveManagerRuntime.toFields)
  | .createdCycle => some (.int pending.createdCycle)
  | .repostAttemptCount => some (.int pending.repostAttemptCount)
  | .passiveAttemptCount => some (.int pending.passiveAttemptCount)
  | .passiveOpsTotal => some (.int pending.passiveOpsTotal)
  | .makerRemainderSlices =>
    some (.list (pending.makerRemainderSlices.map PendingEntryRemainderSlice.toFields))
  | .lifetimeExhaustedLoggedFinalReason =>
    some (.textOrNull pending.lifetimeExhaustedLoggedFinalReason)
  | .frozenCandidate => some (pending.frozenCandidate.elim .null .mapping)
  | .repostCount => some (.int pending.repostCount)
  | .zeroFillSinceMs => some (.int pending.zeroFillSinceMs)
  | .passiveOrder => some (pending.passiveOrder.elim .null PendingPassiveOrder.toFields)
  | .nextProgressPollMs => some (.int pending.nextProgressPollMs)
  | _ => none

def serializePendingClose (close : PendingClose) : SnapshotValue :=
  .fields fun
  | .closeId => some (.str close.closeId)
  | .positionId => some (.str close.positionId)
  | .reason => some (.str close.reason)
  | .createdAtMs => some (.int close.createdAtMs)
  | .longOrderId => some (.str close.longOrderId)
  | .shortOrderId => some (.str close.shortOrderId)
  | .longClientOrderId => some (.str close.longClientOrderId)
  | .shortClientOrderId => some (.str close.shortClientOrderId)
  | .longTargetCloseQty => some (.float close.longTargetCloseQty)
  | .shortTargetCloseQty => some (.float close.shortTargetCloseQty)
  | .longClosed => some (.float close.longClosed)
  | .shortClosed => some (.float close.shortClosed)
  | .longUncertain => some (.bool close.longUncertain)
  | .shortUncertain => some (.bool close.shortUncertain)
  | .deadlineMs => some (.int close.deadlineMs)
  | .reconcileAttempt => some (.int close.reconcileAttempt)
  | .reconcileNextAttemptMs => some (.int close.reconcileNextAttemptMs)
  | .runId => some (.str close.runId)
  | .chunkIndex => some (.int close.chunkIndex)
  | .totalChunks => some (.int close.totalChunks)
  | .longLegs => some (.list (close.longLegs.map serializeCloseLegRecord))
  | .shortLegs => some (.list (close.shortLegs.map serializeCloseLegRecord))
  | _ => none

def serializePendingPassiveClose (close : PendingPassiveClose) : SnapshotValue :=
  .fields fun
  | .positionId => some (.str close.positionId)
  | .reason => some (.str close.reason)
  | .positionSnapshot => some (close.positionSnapshot.elim .null serializeOpenPosition)
  | .shortStage => some (.str close.shortStage)
  | .longStage => some (.str close.longStage)
  | .targetQuantity => some (.float close.targetQuantity)
  | .maxSlippageBps => some (.floatOrNull close.maxSlippageBps)
  | .chunkQuantities => some (.floats close.chunkQuantities)
  | .activeChunkIndex => some (.int close.activeChunkIndex)
  | .phaseState => some (serializePhaseState close.phaseState)
  | .makerFill => some (serializeLegFill close.makerFill)
  | .hedgeFill => some (serializeLegFill close.hedgeFill)
  | .longLegs => some (.list (close.longLegs.map serializePersistedCloseExecutionLeg))
  | .shortLegs => some (.list (close.shortLegs.map serializePersistedCloseExecutionLeg))
  | .passiveManagerRuntimes => some (.table (close.passiveManagerRuntimes.entries.map (fun entry =>
      (entry.1, entry.2.toFields))))
  | .smallFillMinNotionalAttempts => some (.int close.smallFillMinNotionalAttempts)
  | .lastSmallFillMissingQuantity => some (.float close.lastSmallFillMissingQuantity)
  | .smallFillBufferStartedAtMs => some (.intOrNull close.smallFillBufferStartedAtMs)
  | .nextRetryAtMs => some (.int close.nextRetryAtMs)
  | .multiPhaseStartedAtMs => some (.int close.multiPhaseStartedAtMs)
  | .createdCycle => some (.int close.createdCycle)
  | .opsCountThisWindow => some (.int close.opsCountThisWindow)
  | .opsWindowStartedAtMs => some (.int close.opsWindowStartedAtMs)
  | _ => none

/-- The table of records by id. -/
def serializeTable {Record : Type} (serialize : Record → SnapshotValue)
    (records : OrderedDict String Record) : SnapshotValue :=
  .table (records.entries.map (fun entry => (entry.1, serialize entry.2)))

def OperatorControlState.toFields (operator : OperatorControlState) : SnapshotValue :=
  .fields fun
  | .requestedMode => some (.textOrNull (operator.requestedMode.map GlobalRiskMode.value))
  | .pendingReconcile => some (.bool operator.pendingReconcile)
  | _ => none

def buildPersistentStateView (state : EngineState) : SnapshotFields
  | .lifecycle => some (.str state.lifecycle.value)
  | .riskMode => some (.str state.riskMode.value)
  | .recoveryBlockedReason => some (.textOrNull state.recoveryBlockedReason)
  | .recoveryBlockedAtMs => some (.int state.recoveryBlockedAtMs)
  | .pendingResidualRepairs => some (.plain state.pendingResidualRepairs)
  | .liveRecoveryReduceOnlyPairs => some (.plain state.liveRecoveryReduceOnlyPairs)
  | .operator => some state.operator.toFields
  | .openPositions => some (serializeTable serializeOpenPosition state.openPositions)
  | .pendingEntries => some (serializeTable serializePendingEntry state.pendingEntries)
  | .pendingCloses => some (serializeTable serializePendingClose state.pendingCloses)
  | .pendingPassiveCloses =>
    some (serializeTable serializePendingPassiveClose state.pendingPassiveCloses)
  | _ => none

end LightFee.Engine
