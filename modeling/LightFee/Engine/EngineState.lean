import LightFee.Engine.PendingEntry
import LightFee.Library.DynValue

/-!
# The engine's state

Positions, entries and closes are held by id. Residual repairs and reduce-only
pairs are lists of decoded values. The fields are those that the recovery of a
restarted engine reads or repairs.
-/

namespace LightFee.Engine

open LightFee.Venues

inductive EngineLifecycle where
  | booting
  | reconciling
  | riskOnly
  | running
deriving DecidableEq, Repr

def EngineLifecycle.value : EngineLifecycle → String
  | .booting => "booting"
  | .reconciling => "reconciling"
  | .riskOnly => "risk_only"
  | .running => "running"

inductive GlobalRiskMode where
  | running
  | entryPaused
  | reduceOnly
  | failClosed
deriving DecidableEq, Repr

/-- An execution that a venue reports. -/
structure OrderFill where
  venue : Venue
  symbol : String
  side : Side
  quantity : ExactFloat
  price : ExactFloat
  orderId : String := ""
  clientOrderId : Option String := none
  feeQuote : Option ExactFloat := none
  filledAtMs : Int := 0

structure OpenPosition where
  positionId : String
  symbol : String
  longVenue : Venue
  shortVenue : Venue
  longQuantity : ExactFloat
  shortQuantity : ExactFloat
  longEntryPrice : ExactFloat
  shortEntryPrice : ExactFloat
  openedAtMs : Int
  entryNotionalQuote : ExactFloat := .finite 0
  reviewId : Option String := none
  opportunityOriginTags : List String := []
  opportunityHintSource : Option String := none
  longEntryFeeQuote : ExactFloat := .finite 0
  shortEntryFeeQuote : ExactFloat := .finite 0
  totalEntryFeeQuote : ExactFloat := .finite 0
  entryFeeEvidenceComplete : Bool := false
  realizedPricePnlQuote : ExactFloat := .finite 0
  realizedExitFeeQuote : ExactFloat := .finite 0
  riskDeleverRealizedPricePnlQuote : ExactFloat := .finite 0
  riskDeleverRealizedExitFeeQuote : ExactFloat := .finite 0
  protectionRealizedPricePnlQuote : ExactFloat := .finite 0
  protectionRealizedExitFeeQuote : ExactFloat := .finite 0
  capturedFundingQuote : ExactFloat := .finite 0
  fundingCaptured : Bool := false
  fundingEdgeBpsEntry : ExactFloat := .finite 0
  totalFundingEdgeBpsEntry : ExactFloat := .finite 0
  expectedEdgeBpsEntry : ExactFloat := .finite 0
  worstCaseEdgeBpsEntry : ExactFloat := .finite 0
  entryCrossBpsEntry : ExactFloat := .finite 0
  feeBpsEntry : ExactFloat := .finite 0
  entrySlippageBpsEntry : ExactFloat := .finite 0
  peakNetQuote : ExactFloat := .finite 0
  currentNetQuote : ExactFloat := .finite 0
  settlementHalfClosedQuantity : ExactFloat := .finite 0
  settlementHalfClosedAtMs : Int := 0
  lastRiskActionAtMs : Int := 0
  riskDeleverStepCount : Int := 0
  lastRiskReason : Option String := none
  singleSideProtectionTriggered : Bool := false
  matchedQuantity : ExactFloat := .finite 0
  initialQuantity : ExactFloat := .finite 0
  fundingTimestampMs : Int := 0
  longFundingTimestampMs : Int := 0
  shortFundingTimestampMs : Int := 0
  exitAfterFirstStage : Bool := false
  opportunityType : String := "aligned"
  firstFundingLeg : String := ""
  secondStageEnabledAtEntry : Bool := false
  secondFundingTimestampMs : Int := 0
  secondStageFundingCaptured : Bool := false
  secondStageFundingQuote : ExactFloat := .finite 0
  entryMakerLeg : String := ""
  exitMakerLeg : String := ""
  transferBiasBpsEntry : ExactFloat := .finite 0
  transferStateAtEntry : Option String := none
  entryLiquiditySourceAtEntry : Option String := none
  longVolume24hQuoteAtEntry : ExactFloat := .finite 0
  shortVolume24hQuoteAtEntry : ExactFloat := .finite 0
  longOpenInterestQuoteAtEntry : ExactFloat := .finite 0
  shortOpenInterestQuoteAtEntry : ExactFloat := .finite 0
  longEntryVwap : Option ExactFloat := none
  shortEntryVwap : Option ExactFloat := none
  entryCapacityConstrained : Bool := false
  entryTargetQuantity : ExactFloat := .finite 0
  longMaxExecutableQuantity : ExactFloat := .finite 0
  shortMaxExecutableQuantity : ExactFloat := .finite 0
  entryMaxExecutableQuantity : ExactFloat := .finite 0
  entryDepthShortfallQuantity : ExactFloat := .finite 0
  entryMaxExecutableNotionalQuote : ExactFloat := .finite 0
  entryDepthCappedAtEntry : Bool := false
  advisories : List String := []
  blockedReasons : List String := []
  entryQualityCompletedAtMs : Int := 0
  entryQualityMarkout5sEmitted : Bool := false
  entryQualityMarkout30sEmitted : Bool := false
  exitReason : Option String := none
  enteredAtMs : Int := 0
  longFill : Option OrderFill := none
  shortFill : Option OrderFill := none

/-- A leg of a pending close. Its fee is declared a float; the executor stores `None` for a
missing one. -/
structure CloseLegRecord where
  venue : String
  orderId : String := ""
  clientOrderId : String := ""
  quantity : ExactFloat := .finite 0
  averagePrice : ExactFloat := .finite 0
  feeQuote : Option ExactFloat := some (.finite 0)

structure PendingClose where
  closeId : String
  positionId : String
  reason : String
  createdAtMs : Int
  longOrderId : String := ""
  shortOrderId : String := ""
  longClientOrderId : String := ""
  shortClientOrderId : String := ""
  longTargetCloseQty : ExactFloat := .finite 0
  shortTargetCloseQty : ExactFloat := .finite 0
  longClosed : ExactFloat := .finite 0
  shortClosed : ExactFloat := .finite 0
  deadlineMs : Int := 0
  longUncertain : Bool := false
  shortUncertain : Bool := false
  reconcileAttempt : Int := 0
  reconcileNextAttemptMs : Int := 0
  runId : String := ""
  chunkIndex : Int := 0
  totalChunks : Int := 1
  longLegs : List CloseLegRecord := []
  shortLegs : List CloseLegRecord := []

inductive PassiveExecutionPhase where
  | highSlippageMaker
  | lowSlippageMaker
  | dualTaker
deriving DecidableEq

inductive ActiveMakerLeg where
  | long
  | short
deriving DecidableEq

structure PassivePhaseState where
  phase : PassiveExecutionPhase := .highSlippageMaker
  preferredMakerLeg : ActiveMakerLeg := .long
  activeMakerLeg : ActiveMakerLeg := .long
  phaseStartedAtMs : Int := 0
  cycleAttempt : Int := 1
  cycleStartedAtMs : Int := 0
  zeroFillCyclesInPhase : Int := 0
  makerSubmitAttempt : Int := 0
  makerSubmitConsecutiveFailures : Int := 0
  missingL2TickConsecutiveCount : Int := 0
  makerOrderId : String := ""
  makerClientOrderId : String := ""
  makerRestingLimitPrice : Option ExactFloat := none
  makerRestingSinceMs : Int := 0

/-- What one leg of a passive close has filled. -/
structure PendingPassiveLegFill where
  quantity : ExactFloat := .finite 0
  averagePrice : ExactFloat := .finite 0
  feeQuote : ExactFloat := .finite 0
  feeEvidenceComplete : Bool := false
  lastFillTimeMs : Int := 0
  orderId : String := ""
  clientOrderId : String := ""

/-- One identified order of a passive close. Nothing is said of its fee when no
evidence flag is set. -/
structure PersistedCloseExecutionLeg where
  fill : Option OrderFill := none
  feeEvidenceComplete : Option Bool := none
  orderId : String := ""
  clientOrderId : String := ""
  submitStartedAtMs : Int := 0
  latencyMs : Int := 0

structure PendingPassiveClose where
  positionId : String
  reason : String
  positionSnapshot : Option OpenPosition := none
  shortStage : String := ""
  longStage : String := ""
  targetQuantity : ExactFloat := .finite 0
  maxSlippageBps : Option ExactFloat := none
  chunkQuantities : List ExactFloat := []
  activeChunkIndex : Int := 0
  phaseState : PassivePhaseState := {}
  makerFill : PendingPassiveLegFill := {}
  hedgeFill : PendingPassiveLegFill := {}
  longLegs : List PersistedCloseExecutionLeg := []
  shortLegs : List PersistedCloseExecutionLeg := []
  passiveManagerRuntimes : OrderedDict String PassiveOrderManagerRuntime := .empty
  smallFillMinNotionalAttempts : Int := 0
  lastSmallFillMissingQuantity : ExactFloat := .finite 0
  smallFillBufferStartedAtMs : Option Int := none
  nextRetryAtMs : Int := 0
  multiPhaseStartedAtMs : Int := 0
  createdCycle : Int := 0
  opsCountThisWindow : Int := 0
  opsWindowStartedAtMs : Int := 0

structure OperatorControlState where
  requestedMode : Option GlobalRiskMode := none
  pendingReconcile : Bool := false

structure EngineState where
  lifecycle : EngineLifecycle := .booting
  riskMode : GlobalRiskMode := .running
  operator : OperatorControlState := {}
  openPositions : OrderedDict String OpenPosition := .empty
  pendingEntries : OrderedDict String (PendingEntry ExactFloat) := .empty
  pendingCloses : OrderedDict String PendingClose := .empty
  pendingPassiveCloses : OrderedDict String PendingPassiveClose := .empty
  recoveryBlockedReason : Option String := none
  recoveryBlockedAtMs : Int := 0
  pendingResidualRepairs : List DynValue := []
  liveRecoveryReduceOnlyPairs : List DynValue := []

/-- The state together with the fields that only a running engine reads. -/
structure RuntimeState where
  engine : EngineState
  /-- `pending_close_reconciliations`, oldest first. -/
  pendingCloseReconciliations : List DynValue := []
  lastError : Option String := none
  tickCount : Int := 0

end LightFee.Engine
