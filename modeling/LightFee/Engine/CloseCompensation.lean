import LightFee.Engine.CloseLegSubmission

/-!
# Compensating a failed close

A close whose leg failed flattens what the venues still show, one venue after the other:
a few attempts, then a delayed last one, then a last look at the position. Fills and
unconfirmed submissions of all attempts are kept for the close. The call returns, or it
latches the engine fail-closed and raises.
-/

namespace LightFee.Engine

open LightFee.Venues

/-! ## Outcomes -/

/-- What flattening a leg left behind. -/
structure CompensationCloseOutcome where
  legs : List CloseExecutionLeg := []
  unresolvedSubmissionIdentities : List (String × String) := []
  exchangeFlat : Bool := false

namespace CompensationCloseOutcome

/-- `_record_compensation_submission_identity`. -/
def recordIdentity (outcome : CompensationCloseOutcome) (orderId clientOrderId : String) :
    CompensationCloseOutcome :=
  { outcome with unresolvedSubmissionIdentities :=
      addIdentity outcome.unresolvedSubmissionIdentities (orderId, clientOrderId) }

/-- A fill becomes a leg, and one of no size an unconfirmed submission. -/
def addFill (outcome : CompensationCloseOutcome) (fill : OrderFill) (clientOrderId : String)
    (submitMs : Int) : CompensationCloseOutcome :=
  if fill.quantity.le fillDust then
    outcome.recordIdentity fill.orderId (orText (fill.clientOrderId.getD "") clientOrderId)
  else
    { outcome with legs := outcome.legs ++
        [{ fill := fill, clientOrderId := clientOrderId, submitStartedAtMs := submitMs }] }

def setFlat (outcome : CompensationCloseOutcome) (flat : Bool) : CompensationCloseOutcome :=
  { outcome with exchangeFlat := flat }

/-- `_merge_compensation_outcome`. -/
def merge (target additional : CompensationCloseOutcome) : CompensationCloseOutcome where
  legs := target.legs ++ additional.legs
  unresolvedSubmissionIdentities := additional.unresolvedSubmissionIdentities.foldl addIdentity
    target.unresolvedSubmissionIdentities
  exchangeFlat := target.exchangeFlat || additional.exchangeFlat

end CompensationCloseOutcome

/-- No position, or one of no size. -/
def readsFlat (position : Option PositionSnapshot) : Bool :=
  match position with
  | none => true
  | some position => position.quantity.abs.le flatDust

section Compensation

variable [TextCase] {World : Type} (env : CloseEnvironment World)

/-! ## One flatten order -/

/-- A stage of compensation on one venue. -/
structure FlattenStage where
  venue : Venue
  symbol : String
  positionId : String
  stage : String

/-- `verify_exchange_flat`: a failing query leaves the outcome. -/
def verifyExchangeFlat (tier : FlattenStage) (adapter : CloseAdapter World)
    (outcome : CompensationCloseOutcome) (run : CloseRun World) :
    CompensationCloseOutcome × CloseRun World :=
  match run.fetchPosition adapter tier.venue tier.symbol with
  | (.ok position, run) => (outcome.setFlat (readsFlat position), run)
  | (.error _, run) => (outcome, run)

/-- An order that may have created exposure leaves its identity. -/
def CompensationCloseOutcome.recordError (outcome : CompensationCloseOutcome) (error : SubmitError)
    (clientOrderId : String) : CompensationCloseOutcome :=
  if error.acceptedOrderId ≠ "" ∨ error.failureClass = some .uncertain then
    outcome.recordIdentity error.acceptedOrderId
      (orText error.acceptedClientOrderId clientOrderId)
  else outcome

/-- The retry under a fresh client order id. -/
def retryDuplicate (tier : FlattenStage) (adapter : CloseAdapter World) (request : OrderRequest)
    (found : DuplicateReconcile) (submitMs : Int) (outcome : CompensationCloseOutcome)
    (run : CloseRun World) : CompensationCloseOutcome × CloseRun World :=
  let retryClientOrderId := env.compactClientOrderId tier.positionId
    (tier.stage ++ ":duplicate_retry:" ++ tier.symbol)
  let (answer, run) := run.placeOrder adapter
    { request with quantity := found.retryQty, clientOrderId := retryClientOrderId }
  match answer with
  | .error error =>
    verifyExchangeFlat tier adapter (outcome.recordError error retryClientOrderId) run
  | .ok fill =>
    let outcome := outcome.addFill fill retryClientOrderId submitMs
    if (found.retryQty.sub flatDust).le fill.quantity then (outcome.setFlat true, run)
    else
      let (outcome, run) := verifyExchangeFlat tier adapter outcome run
      if outcome.exchangeFlat then (outcome, run)
      else verifyExchangeFlat tier adapter outcome run

/-- The fills that the reconciliation of a duplicate finds. -/
def CompensationCloseOutcome.addDuplicate (outcome : CompensationCloseOutcome)
    (request : OrderRequest) (found : DuplicateReconcile) (submitMs : Int) :
    CompensationCloseOutcome :=
  let clientOrderId := orText found.clientOrderId request.clientOrderId
  if flatDust.lt found.reconciledQty then
    outcome.addFill
      { venue := request.venue, symbol := request.symbol, side := request.side
        quantity := found.reconciledQty
        price := if found.averagePrice.truthy then found.averagePrice else .finite 0
        orderId := found.orderId, clientOrderId := some clientOrderId, filledAtMs := submitMs }
      clientOrderId submitMs
  else if found.orderId ≠ "" then outcome.recordIdentity found.orderId clientOrderId
  else outcome

/-- A refused client order id is reconciled before anything is tried again. -/
def flattenDuplicate (tier : FlattenStage) (adapter : CloseAdapter World) (request : OrderRequest)
    (submitMs : Int) (outcome : CompensationCloseOutcome) (run : CloseRun World) :
    CompensationCloseOutcome × CloseRun World :=
  let (found, run) := reconcileDuplicateClientOrder run adapter tier.venue tier.symbol
    request.clientOrderId request.quantity
  let run := (run.log "order.reconcile_result"
    [("client_order_id", .text request.clientOrderId), ("symbol", .text tier.symbol)]).log
      "exit.compensation_duplicate_client_order_reconcile_result"
      [("position_id", .text tier.positionId), ("stage", .text tier.stage),
        ("client_order_id", .text request.clientOrderId), ("order_id", .text found.orderId),
        ("retry_qty", .number found.retryQty)]
  let outcome := outcome.addDuplicate request found submitMs
  if found.clearState then (outcome.setFlat true, run)
  else if found.shouldRetryWithNewClientId then
    retryDuplicate env tier adapter request found submitMs outcome run
  else verifyExchangeFlat tier adapter outcome run

/-- `_compensate_close_leg_exposure`. -/
def compensateCloseLegExposure (tier : FlattenStage) (quantity : ExactFloat) (side : Side)
    (run : CloseRun World) : CompensationCloseOutcome × CloseRun World :=
  match env.adapters tier.venue with
  | none => ({}, run)
  | some adapter =>
    let clientOrderId := env.compactClientOrderId tier.positionId
      (tier.stage ++ ":" ++ tier.symbol)
    let submitMs := env.wallClockNowMs run.world
    let request : OrderRequest :=
      { venue := tier.venue, symbol := tier.symbol, side := side, quantity := quantity
        clientOrderId := clientOrderId }
    let (answer, run) := run.placeOrder adapter request
    match answer with
    | .error error =>
      let outcome := CompensationCloseOutcome.recordError {} error clientOrderId
      if isDuplicateClientOrderError tier.venue error.text error.answerTexts then
        flattenDuplicate env tier adapter request submitMs outcome run
      else verifyExchangeFlat tier adapter outcome run
    | .ok fill =>
      let outcome := CompensationCloseOutcome.addFill {} fill clientOrderId submitMs
      if (quantity.sub flatDust).le fill.quantity then (outcome.setFlat true, run)
      else verifyExchangeFlat tier adapter outcome run

/-! ## Tiers -/

def Side.opposite : Side → Side
  | .buy => .sell
  | .sell => .buy

def maxEmergencyFlattenAttempts : Nat := 3

/-- Attempts from a given one on; the position is fetched again before each further one. -/
def flattenAttempts (adapter : CloseAdapter World) (tier : FlattenStage) :
    (left attempt : Nat) → ExactFloat → Side → CompensationCloseOutcome → CloseRun World →
    CompensationCloseOutcome × CloseRun World
  | 0, _, _, _, outcome, run => (outcome, run)
  | left + 1, attempt, quantity, side, outcome, run =>
    let (attempted, run) := compensateCloseLegExposure env
      { tier with stage := tier.stage ++ "_attempt_" ++ toString attempt } quantity side run
    let outcome := outcome.merge attempted
    if outcome.exchangeFlat then (outcome, run)
    else if left = 0 then (outcome, run)
    else
      match run.fetchPosition adapter tier.venue tier.symbol with
      | (.error _, run) => flattenAttempts adapter tier left (attempt + 1) quantity side outcome run
      | (.ok none, run) => (outcome.setFlat true, run)
      | (.ok (some position), run) =>
        if position.quantity.abs.le flatDust then (outcome.setFlat true, run)
        else flattenAttempts adapter tier left (attempt + 1) position.quantity.abs
          position.side.opposite outcome run

/-- `_flatten_close_leg_with_retries`. -/
def flattenCloseLegWithRetries (tier : FlattenStage) (quantity : ExactFloat) (side : Side)
    (run : CloseRun World) : CompensationCloseOutcome × CloseRun World :=
  match env.adapters tier.venue with
  | none => ({}, run)
  | some adapter =>
    flattenAttempts env adapter tier maxEmergencyFlattenAttempts 1 quantity side {} run

/-- `_compensation_hard_stop_close_leg`, without its delay. -/
def compensationHardStopCloseLeg (tier : FlattenStage) (run : CloseRun World) :
    CompensationCloseOutcome × CloseRun World :=
  match env.adapters tier.venue with
  | none => ({}, run)
  | some adapter =>
    match run.fetchPosition adapter tier.venue tier.symbol with
    | (.error _, run) => ({}, run)
    | (.ok none, run) => ({ exchangeFlat := true }, run)
    | (.ok (some position), run) =>
      if position.quantity.abs.le flatDust then ({ exchangeFlat := true }, run)
      else compensateCloseLegExposure env { tier with stage := tier.stage ++ "_hard_stop" }
        position.quantity.abs position.side.opposite run

/-! ## Both venues -/

/-- What a fill is told apart by. -/
def CloseExecutionLeg.key (leg : CloseExecutionLeg) : String × String × ExactFloat × Int :=
  (leg.fill.orderId, leg.reportedClientOrderId, leg.fill.quantity, leg.fill.filledAtMs)

/-- A fill that is told apart from the known ones is appended. -/
def addLeg (legs : List CloseExecutionLeg) (leg : CloseExecutionLeg) : List CloseExecutionLeg :=
  if leg.key ∈ legs.map CloseExecutionLeg.key then legs else legs ++ [leg]

/-- `retain_compensation_outcome`: one venue for both legs counts as the short one. -/
def CollectedClose.retain (collected : CollectedClose) (position : OpenPosition) (venue : Venue)
    (outcome : CompensationCloseOutcome) : CollectedClose :=
  if venue = position.shortVenue then
    { collected with
      shortLegs := outcome.legs.foldl addLeg collected.shortLegs
      unresolvedShortSubmissionIdentities := outcome.unresolvedSubmissionIdentities.foldl
        addIdentity collected.unresolvedShortSubmissionIdentities }
  else
    { collected with
      longLegs := outcome.legs.foldl addLeg collected.longLegs
      unresolvedLongSubmissionIdentities := outcome.unresolvedSubmissionIdentities.foldl
        addIdentity collected.unresolvedLongSubmissionIdentities }

/-- How a compensation ends; a failing one raises `CompensationFailedError`. -/
inductive CompensationEnd where
  | compensated
  | failed
deriving DecidableEq

/-- The engine after `enter_fail_closed`, with the error. -/
def CloseRun.failClosed (run : CloseRun World) (text : String) : CloseRun World :=
  { run with state := { run.state with runtime := { run.state.runtime with
      engine := { run.state.runtime.engine with
        lifecycle := .riskOnly, riskMode := .failClosed }
      lastError := some text } } }

/-- What the failed close is reported with. -/
structure CompensationReport where
  reason : String
  failedStage : String
  failedVenue : Venue
  error : String

def CompensationReport.payload (report : CompensationReport) (position : OpenPosition)
    (venue : Venue) : List (String × PayloadValue) :=
  [("position_id", .text position.positionId), ("symbol", .text position.symbol),
    ("reason", .text report.reason), ("failed_stage", .text report.failedStage),
    ("failed_venue", .text report.failedVenue.value), ("error", .text report.error),
    ("venue", .text venue.value)]

def CloseRun.compensationFailed (run : CloseRun World) (position : OpenPosition) (venue : Venue)
    (report : CompensationReport) (text : String) : CloseRun World :=
  (run.failClosed (text ++ " for " ++ position.positionId ++ " on " ++ venue.value)).log
    "execution.compensation_failed" (report.payload position venue)

/-- The attempts, and the hard stop after them. -/
def flattenTiers (tier : FlattenStage) (quantity : ExactFloat) (side : Side)
    (run : CloseRun World) : CompensationCloseOutcome × CloseRun World :=
  let (outcome, run) := flattenCloseLegWithRetries env tier quantity side run
  if outcome.exchangeFlat then (outcome, run)
  else
    let (hardStop, run) := compensationHardStopCloseLeg env tier run
    (outcome.merge hardStop, run)

/-- A venue that shows a position; after the tiers a last look decides. -/
def flattenVenue (position : OpenPosition) (report : CompensationReport) (venue : Venue)
    (stage : String) (adapter : CloseAdapter World) (shown : PositionSnapshot)
    (collected : CollectedClose) (run : CloseRun World) :
    CompensationEnd × CollectedClose × CloseRun World :=
  let (outcome, run) := flattenTiers env
    { venue := venue, symbol := position.symbol, positionId := position.positionId, stage := stage }
    shown.quantity.abs shown.side.opposite run
  let retained := collected.retain position venue outcome
  if outcome.exchangeFlat then (.compensated, retained, run)
  else
    match run.fetchPosition adapter venue position.symbol with
    | (.ok seen, run) =>
      if readsFlat seen then
        (.compensated, retained,
          run.log "exit.compensation_already_flat" (report.payload position venue))
      else
        (.failed, retained,
          run.compensationFailed position venue report "close compensation failed")
    | (.error _, run) =>
      (.failed, retained,
        run.compensationFailed position venue report "close compensation failed")

/-- One venue: without an adapter it is skipped. -/
def compensateVenue (position : OpenPosition) (report : CompensationReport) (venue : Venue)
    (stage : String) (collected : CollectedClose) (run : CloseRun World) :
    CompensationEnd × CollectedClose × CloseRun World :=
  match env.adapters venue with
  | none => (.compensated, collected, run)
  | some adapter =>
    match run.fetchPosition adapter venue position.symbol with
    | (.error _, run) =>
      (.failed, collected, run.compensationFailed position venue report
        "close compensation position truth unavailable")
    | (.ok none, run) => (.compensated, collected, run)
    | (.ok (some shown), run) =>
      if shown.quantity.abs.le flatDust then (.compensated, collected, run)
      else flattenVenue env position report venue stage adapter shown collected run

/-- `compensate_failed_full_close`: the short venue, then the long one. -/
def compensateFailedFullClose (position : OpenPosition) (report : CompensationReport)
    (collected : CollectedClose) (run : CloseRun World) :
    CompensationEnd × CollectedClose × CloseRun World :=
  match compensateVenue env position report position.shortVenue "exit_compensate_short" collected
      run with
  | (.failed, collected, run) => (.failed, collected, run)
  | (.compensated, collected, run) =>
    match compensateVenue env position report position.longVenue "exit_compensate_long" collected
        run with
    | (.failed, collected, run) => (.failed, collected, run)
    | (.compensated, collected, run) =>
      (.compensated, collected,
        run.log "exit.compensated" (report.payload position report.failedVenue))

end Compensation

end LightFee.Engine
