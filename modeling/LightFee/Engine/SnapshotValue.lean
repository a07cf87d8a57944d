import LightFee.Engine.EngineState

/-!
# Snapshot values

A snapshot is a dictionary of values. The keys of its records are the names of
the records' fields, one enumeration for all records; a record's dictionary is a
partial function of the key. Records by id are tables. Conversions are the
built-in ones on the kinds of values that a view of the state holds; a value of
any other kind is answered by nothing.
-/

namespace LightFee.Engine

open LightFee.Venues

/-- The keys of a snapshot, those of its records among them. -/
inductive SnapshotKey where
  -- the state
  | lifecycle | riskMode | operator | requestedMode | pendingReconcile | recoveryBlockedReason
  | recoveryBlockedAtMs | pendingResidualRepairs | liveRecoveryReduceOnlyPairs | openPositions
  | pendingEntries | pendingCloses | pendingPassiveCloses
  -- fills and close legs
  | venue | side | quantity | price | orderId | clientOrderId | feeQuote | filledAtMs
  | averagePrice | fill | feeEvidenceComplete | submitStartedAtMs | latencyMs | lastFillTimeMs
  -- open positions
  | positionId | symbol | reviewId | opportunityOriginTags | opportunityHintSource | longVenue
  | shortVenue | longQuantity | shortQuantity | longEntryPrice | shortEntryPrice
  | entryNotionalQuote | openedAtMs | matchedQuantity | initialQuantity | enteredAtMs
  | capturedFundingQuote | fundingCaptured | peakNetQuote | currentNetQuote
  | realizedPricePnlQuote | realizedExitFeeQuote | riskDeleverRealizedPricePnlQuote
  | riskDeleverRealizedExitFeeQuote | protectionRealizedPricePnlQuote
  | protectionRealizedExitFeeQuote | longEntryFeeQuote | shortEntryFeeQuote | totalEntryFeeQuote
  | entryFeeEvidenceComplete | fundingEdgeBpsEntry | totalFundingEdgeBpsEntry
  | expectedEdgeBpsEntry | worstCaseEdgeBpsEntry | entryCrossBpsEntry | feeBpsEntry
  | entrySlippageBpsEntry | transferBiasBpsEntry | transferStateAtEntry
  | entryLiquiditySourceAtEntry | longVolume24hQuoteAtEntry | shortVolume24hQuoteAtEntry
  | longOpenInterestQuoteAtEntry | shortOpenInterestQuoteAtEntry | longEntryVwap
  | shortEntryVwap | entryCapacityConstrained | entryTargetQuantity | longMaxExecutableQuantity
  | shortMaxExecutableQuantity | entryMaxExecutableQuantity | entryDepthShortfallQuantity
  | entryMaxExecutableNotionalQuote | entryDepthCappedAtEntry | advisories | blockedReasons
  | entryQualityCompletedAtMs | entryQualityMarkout5sEmitted | entryQualityMarkout30sEmitted
  | settlementHalfClosedQuantity | settlementHalfClosedAtMs | exitReason | lastRiskActionAtMs
  | riskDeleverStepCount | lastRiskReason | singleSideProtectionTriggered | fundingTimestampMs
  | longFundingTimestampMs | shortFundingTimestampMs | exitAfterFirstStage | opportunityType
  | firstFundingLeg | secondStageEnabledAtEntry | secondFundingTimestampMs
  | secondStageFundingCaptured | secondStageFundingQuote | entryMakerLeg | exitMakerLeg
  | longFill | shortFill
  -- pending entries
  | pendingId | targetQuantity | longSide | shortSide | createdAtMs | metadata | makerOrderId
  | hedgeOrderId | makerClientOrderId | hedgeClientOrderId | makerLegFilled | hedgeLegFilled
  | makerFeeQuote | hedgeFeeQuote | deadlineMs | fallbackRoute | uncertainOutcome
  | reconcileAttempt | reconcileNextAttemptMs | entryType | makerPrice | makerFillPrice
  | hedgeFillPrice | hedgeInflight | hedgeAttemptCount | repairState | makerLeg | runId
  | entryRoute | outcome | firstFundingTimestampMs | phaseState | passiveManagerRuntime
  | createdCycle | repostAttemptCount | passiveAttemptCount | passiveOpsTotal
  | makerRemainderSlices | lifetimeExhaustedLoggedFinalReason | frozenCandidate | repostCount
  | zeroFillSinceMs | passiveOrder | nextProgressPollMs
  -- hedges in flight, passive orders, remainder slices and order runtimes
  | attempt | submittedAtMs | softDeadlineLogged | limitPrice | acceptedAtMs | timeoutAtMs
  | cancelRequestedAtMs | lastProgressState | fillCheckpointQuantity
  | fillCheckpointNotionalQuote | fillCheckpointFeeQuote | fillCheckpointLastFillAtMs
  | notionalQuote | fillAtMs | cooldownUntilMs | consecutiveFailures | lastSuccessMs
  | lastAttemptMs | opsBudgetRemaining | opsBudgetResetMs | lastOperationMs
  -- passive phases
  | executionKind | phase | preferredMakerLeg | activeMakerLeg | phaseStartedAtMs | cycleAttempt
  | cycleStartedAtMs | zeroFillCyclesInPhase | nextCycleDelayMs | hedgeDeadlineAtMs
  | hedgeTimeoutGraceDeadlineAtMs | makerSubmitAttempt | makerSubmitConsecutiveFailures
  | missingL2TickConsecutiveCount | makerRestingLimitPrice | makerRestingSinceMs
  -- closes
  | closeId | reason | longOrderId | shortOrderId | longClientOrderId | shortClientOrderId
  | longTargetCloseQty | shortTargetCloseQty | longClosed | shortClosed | longUncertain
  | shortUncertain | chunkIndex | totalChunks | longLegs | shortLegs | positionSnapshot
  | shortStage | longStage | maxSlippageBps | chunkQuantities | activeChunkIndex | makerFill
  | hedgeFill | passiveManagerRuntimes | smallFillMinNotionalAttempts
  | lastSmallFillMissingQuantity | smallFillBufferStartedAtMs | nextRetryAtMs
  | multiPhaseStartedAtMs | opsCountThisWindow | opsWindowStartedAtMs

inductive SnapshotValue where
  | null
  | bool (value : Bool)
  | int (value : Int)
  | float (value : ExactFloat)
  | str (value : String)
  | texts (items : List String)
  | floats (items : List ExactFloat)
  /-- A dictionary that the state only carries along. -/
  | mapping (entries : OrderedDict String DynValue)
  /-- A list that the state only carries along. -/
  | plain (items : List DynValue)
  | list (items : List SnapshotValue)
  /-- Records by id, each id once. -/
  | table (entries : List (String × SnapshotValue))
  /-- A record's dictionary. -/
  | fields (get? : SnapshotKey → Option SnapshotValue)

abbrev SnapshotFields := SnapshotKey → Option SnapshotValue

/-- `data.get(key, default)`. -/
def SnapshotFields.get (data : SnapshotFields) (key : SnapshotKey)
    (default : SnapshotValue := .null) : SnapshotValue := (data key).getD default

namespace SnapshotValue

/-- A missing value is written as null. -/
def textOrNull : Option String → SnapshotValue
  | none => null
  | some value => str value

def floatOrNull : Option ExactFloat → SnapshotValue
  | none => null
  | some value => float value

def intOrNull : Option Int → SnapshotValue
  | none => null
  | some value => int value

/-- What `bool(value)` is of a decoded value. -/
def truthy : SnapshotValue → Bool
  | null => false
  | bool value => value
  | int value => value ≠ 0
  | float value => value.truthy
  | str value => value ≠ ""
  | texts items => !items.isEmpty
  | floats items => !items.isEmpty
  | mapping entries => !entries.entries.isEmpty
  | plain items => !items.isEmpty
  | list items => !items.isEmpty
  | table entries => !entries.isEmpty
  | fields _ => true

/-- `value or fallback`. -/
def orElse (value fallback : SnapshotValue) : SnapshotValue :=
  if value.truthy then value else fallback

/-- `float(value)`. -/
def float? : SnapshotValue → Option ExactFloat
  | bool value => some (.finite (if value then 1 else 0))
  | int value => some (.finite value)
  | float value => some value
  | _ => none

/-- `int(value)`. -/
def int? : SnapshotValue → Option Int
  | bool value => some (if value then 1 else 0)
  | int value => some value
  | float (.finite value) => some (value.num.tdiv value.den)
  | _ => none

/-- `str(value)` of a text, and the text itself. -/
def text? : SnapshotValue → Option String
  | str value => some value
  | _ => none

/-- `_optional_finite_float`. -/
def finiteFloat? (value : SnapshotValue) : Option ExactFloat :=
  value.float?.filter ExactFloat.isFinite

/-- `None` stays `None`; any other value is read as a text. -/
def optionalText? : SnapshotValue → Option (Option String)
  | null => some none
  | value => value.text?.map some

/-- `None` stays `None`; any other value is read as a float. -/
def optionalFloat? : SnapshotValue → Option (Option ExactFloat)
  | null => some none
  | value => value.float?.map some

/-- `list(value)` of texts. -/
def texts? : SnapshotValue → Option (List String)
  | texts items => some items
  | _ => none

/-- `[float(x) for x in value]`. -/
def floats? : SnapshotValue → Option (List ExactFloat)
  | floats items => some items
  | _ => none

/-- A mapping that the snapshot carries as it is. -/
def mapping? : SnapshotValue → Option (OrderedDict String DynValue)
  | mapping entries => some entries
  | _ => none

/-- Items that the snapshot carries as they are. -/
def plain? : SnapshotValue → Option (List DynValue)
  | plain items => some items
  | _ => none

/-- Items of a list; nothing and an empty list have none. -/
def items : SnapshotValue → List SnapshotValue
  | list items => items
  | _ => []

/-! ## What the conversions answer on a view's values -/

@[simp] theorem float_float (value : ExactFloat) : (float value).float? = some value := rfl

@[simp] theorem int_int (value : Int) : (int value).int? = some value := rfl

@[simp] theorem text_str (value : String) : (str value).text? = some value := rfl

@[simp] theorem texts_texts (items : List String) : (texts items).texts? = some items := rfl

@[simp] theorem floats_floats (items : List ExactFloat) : (floats items).floats? = some items := rfl

@[simp] theorem mapping_mapping (entries : OrderedDict String DynValue) :
    (mapping entries).mapping? = some entries := rfl

@[simp] theorem plain_plain (items : List DynValue) : (plain items).plain? = some items := rfl

@[simp] theorem items_list (values : List SnapshotValue) : (list values).items = values := rfl

@[simp] theorem truthy_bool (value : Bool) : (bool value).truthy = value := rfl

@[simp] theorem finiteFloat_null : null.finiteFloat? = none := rfl

@[simp] theorem optionalText_textOrNull (value : Option String) :
    (textOrNull value).optionalText? = some value := by
  cases value <;> rfl

@[simp] theorem optionalFloat_floatOrNull (value : Option ExactFloat) :
    (floatOrNull value).optionalFloat? = some value := by
  cases value <;> rfl

@[simp] theorem int_intOrNull (value : Option Int) : (intOrNull value).int? = value := by
  cases value <;> rfl

/-- `value or 0` changes no integer. -/
@[simp] theorem int_orElse_zero (value : Int) : ((int value).orElse (int 0)).int? = some value := by
  rw [orElse]
  split_ifs with isTruthy
  · rfl
  · simp only [truthy, ne_eq, decide_not, Bool.not_eq_true', decide_eq_false_iff_not,
      not_not] at isTruthy
    rw [isTruthy]
    rfl

/-- `value or default` of a text. -/
theorem text_orElse (value default : String) :
    ((str value).orElse (str default)).text? = some (if value = "" then default else value) := by
  by_cases empty : value = "" <;> simp [orElse, truthy, empty]

/-- `value or ""` changes no text. -/
@[simp] theorem text_orElse_empty (value : String) :
    ((str value).orElse (str "")).text? = some value := by
  rw [text_orElse]
  split_ifs with empty
  · rw [empty]
  · rfl

/-- `value or 0.0` changes no float: zero and minus zero are one value here. -/
@[simp] theorem float_orElse_zero (value : ExactFloat) :
    ((float value).orElse (float 0)).float? = some value := by
  rw [orElse]
  split_ifs with isTruthy
  · rfl
  · have zero : value = 0 := by
      cases value with
      | finite exact =>
        simp only [truthy, ExactFloat.truthy, ne_eq, decide_not, Bool.not_eq_true',
          decide_eq_false_iff_not, not_not] at isTruthy
        rw [isTruthy]
        rfl
      | infinite negative => exact absurd rfl isTruthy
      | notANumber => exact absurd rfl isTruthy
    rw [zero]
    rfl

end SnapshotValue

/-! ## Enumerations by their values -/

def GlobalRiskMode.value : GlobalRiskMode → String
  | .running => "running"
  | .entryPaused => "entry_paused"
  | .reduceOnly => "reduce_only"
  | .failClosed => "fail_closed"

def PassiveExecutionPhase.value : PassiveExecutionPhase → String
  | .highSlippageMaker => "high_slippage_maker"
  | .lowSlippageMaker => "low_slippage_maker"
  | .dualTaker => "dual_taker"

def ActiveMakerLeg.value : ActiveMakerLeg → String
  | .long => "long"
  | .short => "short"

def Side.value : Side → String
  | .buy => "buy"
  | .sell => "sell"

def PassiveOrderState.value : PassiveOrderState → String
  | .unknown => "unknown"
  | .created => "created"
  | .open => "open"
  | .partiallyFilled => "partially_filled"
  | .filled => "filled"
  | .canceled => "canceled"
  | .rejected => "rejected"
  | .expired => "expired"

/-- The member of an enumeration with a value. -/
def memberOf {Member : Type} (members : List Member) (value : Member → String) (text : String) :
    Option Member :=
  members.find? (fun member => value member == text)

def EngineLifecycle.ofValue (text : String) : Option EngineLifecycle :=
  memberOf [.booting, .reconciling, .riskOnly, .running] EngineLifecycle.value text

def GlobalRiskMode.ofValue (text : String) : Option GlobalRiskMode :=
  memberOf [.running, .entryPaused, .reduceOnly, .failClosed] GlobalRiskMode.value text

def PassiveExecutionPhase.ofValue (text : String) : Option PassiveExecutionPhase :=
  memberOf [.highSlippageMaker, .lowSlippageMaker, .dualTaker] PassiveExecutionPhase.value text

def ActiveMakerLeg.ofValue (text : String) : Option ActiveMakerLeg :=
  memberOf [.long, .short] ActiveMakerLeg.value text

def Side.ofValue (text : String) : Option Side := memberOf [.buy, .sell] Side.value text

/-- `Venue(value)`: only the value of a member names it. -/
def venueOfValue (text : String) : Option Venue :=
  memberOf [.binance, .okx, .bybit, .bitget, .gate, .aster, .hyperliquid] Venue.value text

def PassiveOrderState.ofValue (text : String) : Option PassiveOrderState :=
  memberOf [.unknown, .created, .open, .partiallyFilled, .filled, .canceled, .rejected, .expired]
    PassiveOrderState.value text

@[simp] theorem EngineLifecycle.ofValue_value (member : EngineLifecycle) :
    EngineLifecycle.ofValue member.value = some member := by
  cases member <;> rfl

@[simp] theorem GlobalRiskMode.ofValue_value (member : GlobalRiskMode) :
    GlobalRiskMode.ofValue member.value = some member := by
  cases member <;> rfl

@[simp] theorem PassiveExecutionPhase.ofValue_value (member : PassiveExecutionPhase) :
    PassiveExecutionPhase.ofValue member.value = some member := by
  cases member <;> rfl

@[simp] theorem ActiveMakerLeg.ofValue_value (member : ActiveMakerLeg) :
    ActiveMakerLeg.ofValue member.value = some member := by
  cases member <;> rfl

@[simp] theorem Side.ofValue_value (member : Side) : Side.ofValue member.value = some member := by
  cases member <;> rfl

@[simp] theorem venueOfValue_value (member : Venue) : venueOfValue member.value = some member := by
  cases member <;> rfl

@[simp] theorem PassiveOrderState.ofValue_value (member : PassiveOrderState) :
    PassiveOrderState.ofValue member.value = some member := by
  cases member <;> rfl

/-- An ASCII text without capitals is its own lower case. -/
theorem lower_of_all [TextCase] {text : String}
    (plain : text.toList.all (fun c => c.toNat < 128 && c.toLower == c) = true) :
    TextCase.lower text = text := by
  apply TextCase.lower_plain
  intro c member
  have both := List.all_eq_true.mp plain c member
  rw [Bool.and_eq_true, decide_eq_true_iff, beq_iff_eq] at both
  exact both

/-- A venue is found by its own name. -/
@[simp] theorem venue_fromStr_value [TextCase] (member : Venue) :
    Venue.fromStr member.value = some member := by
  cases member
  all_goals
    rw [Venue.fromStr, lower_of_all (by decide +kernel)]
    decide +kernel

end LightFee.Engine
