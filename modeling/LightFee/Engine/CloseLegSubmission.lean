import LightFee.Engine.CloseVenue

/-!
# Submitting a close leg

One order of a close, and its retries: an uncertain answer is tried again under the same
client order id, a refusal of the id asks the venue what became of the earlier order, and
a rejection is read as success when the venue holds nothing to reduce.

Waiting between two attempts is left out, and so is the evidence that is built from an
exchange's answer for the journal.
-/

namespace LightFee.Engine

open LightFee.Venues

inductive LegOutcome where
  | filled (fill : OrderFill)
  | terminalFlat
  | uncertain
  | rejected

def LegOutcome.value : LegOutcome → String
  | .filled _ => "filled"
  | .terminalFlat => "terminal_flat"
  | .uncertain => "uncertain"
  | .rejected => "rejected"

structure LegResult where
  outcome : LegOutcome
  orderId : String := ""
  clientOrderId : String := ""
  reason : String := ""
  unresolvedSubmissionIdentities : List (String × String) := []

/-- An identity that is neither empty nor known is appended. -/
def addIdentity (identities : List (String × String)) (identity : String × String) :
    List (String × String) :=
  if (identity.1 = "" ∧ identity.2 = "") ∨ identity ∈ identities then identities
  else identities ++ [identity]

/-- `first or second`. -/
def orText (first second : String) : String := if first = "" then second else first

section Submission

variable [TextCase] {World : Type} (env : CloseEnvironment World)

/-! ## One order -/

def orderPayload (positionId leg orderId clientOrderId : String) : List (String × PayloadValue) :=
  [("position_id", .text positionId), ("leg", .text leg), ("order_id", .text orderId),
    ("client_order_id", .text clientOrderId)]

/-- `_submit_close_leg`. -/
def submitCloseLeg (request : OrderRequest) (positionId leg : String) (run : CloseRun World) :
    LegResult × CloseRun World :=
  match env.adapters request.venue with
  | none =>
    ({ outcome := .rejected, reason := "no adapter" },
      run.log "order.rejected" (orderPayload positionId leg "" request.clientOrderId ++
        [("reason", .text ("no adapter for " ++ request.venue.value))]))
  | some adapter =>
    match run.placeOrder adapter request with
    | (.ok fill, run) =>
      if (ExactFloat.finite 0).lt fill.quantity then
        ({ outcome := .filled fill
           orderId := fill.orderId
           clientOrderId := orText (fill.clientOrderId.getD "") request.clientOrderId },
          run.log "order.filled" (orderPayload positionId leg fill.orderId request.clientOrderId ++
            [("quantity", .number fill.quantity), ("price", .number fill.price)]))
      else
        ({ outcome := .uncertain
           orderId := fill.orderId
           clientOrderId := orText (fill.clientOrderId.getD "") request.clientOrderId },
          run.log "order.uncertain" (orderPayload positionId leg fill.orderId
            request.clientOrderId ++ [("reason", .text "zero fill")]))
    | (.error error, run) =>
      match error.failureClass with
      | some .rejected =>
        ({ outcome := .rejected, reason := error.text },
          run.log "order.rejected" (orderPayload positionId leg "" request.clientOrderId ++
            [("reason", .text error.text)]))
      | some .uncertain =>
        ({ outcome := .uncertain
           orderId := error.acceptedOrderId
           clientOrderId := orText error.acceptedClientOrderId request.clientOrderId },
          run.log "order.uncertain" (orderPayload positionId leg error.acceptedOrderId
            request.clientOrderId ++ [("reason", .text error.text)]))
      | none =>
        ({ outcome := .uncertain, clientOrderId := request.clientOrderId },
          run.log "order.uncertain" (orderPayload positionId leg "" request.clientOrderId ++
            [("reason", .text error.text)]))

/-! ## After a rejection -/

/-- What follows an attempt: the leg's result, or one more attempt. -/
inductive LegStep (World : Type) where
  | done (result : LegResult) (run : CloseRun World)
  | again (request : OrderRequest) (run : CloseRun World)

/-- The fill of an earlier order under the same client order id. -/
def duplicateFill (request : OrderRequest) (nowMs : Int) (found : DuplicateReconcile) :
    OrderFill where
  venue := request.venue
  symbol := request.symbol
  side := request.side
  quantity := found.reconciledQty
  price :=
    if found.averagePrice.truthy then found.averagePrice else request.price.getD (.finite 0)
  orderId := found.orderId
  clientOrderId := some (orText found.clientOrderId request.clientOrderId)
  filledAtMs := nowMs

/-- A refused client order id after its reconciliation; `more` attempts may be left. -/
def duplicateAnswer (request : OrderRequest) (positionId leg : String) (nowMs : Int)
    (attempt : Nat) (more : Bool) (reason : String) (found : Option DuplicateReconcile)
    (run : CloseRun World) : LegStep World :=
  let pending : LegStep World :=
    .done { outcome := .uncertain, clientOrderId := request.clientOrderId, reason := reason }
      (run.log "exit.close_duplicate_client_order_pending_reconcile"
        (orderPayload positionId leg "" request.clientOrderId ++ [("reason", .text reason)]))
  let filled (found : DuplicateReconcile) (reason : String) : LegStep World :=
    let fill := duplicateFill request nowMs found
    .done { outcome := .filled fill, orderId := fill.orderId, reason := reason }
      (run.log "order.filled" (orderPayload positionId leg fill.orderId
        (fill.clientOrderId.getD "") ++ [("quantity", .number fill.quantity),
          ("price", .number fill.price)]))
  match found with
  | none => pending
  | some found =>
    if found.clearState then
      if found.reconciledQty.le fillDust then
        .done { outcome := .terminalFlat, orderId := found.orderId
                reason := "duplicate_client_order_live_flat" }
          (run.log "exit.close_duplicate_client_order_resolved_live_flat"
            (orderPayload positionId leg found.orderId
              (orText found.clientOrderId request.clientOrderId)))
      else filled found ""
    else if found.classification = .someFilled ∧ fillDust.lt found.reconciledQty ∧ more = false then
      filled found "duplicate_client_order_reconciled_partial"
    else if found.shouldRetryWithNewClientId ∧ more = true then
      .again { request with
        quantity := if flatDust.lt found.liveQty then found.remainingQty.min found.liveQty
          else found.remainingQty
        clientOrderId := env.compactClientOrderId positionId
          (leg ++ "_duplicate_" ++ toString (attempt + 1)) } run
    else pending

/-- The venue is asked about the earlier order. -/
def afterDuplicate (request : OrderRequest) (positionId leg : String) (nowMs : Int)
    (attempt : Nat) (more : Bool) (reason : String) (run : CloseRun World) : LegStep World :=
  match env.adapters request.venue with
  | none => duplicateAnswer env request positionId leg nowMs attempt more reason none run
  | some adapter =>
    let (found, run) := reconcileDuplicateClientOrder run adapter request.venue request.symbol
      request.clientOrderId request.quantity
    duplicateAnswer env request positionId leg nowMs attempt more reason (some found)
      (run.log "order.reconcile_result"
        [("client_order_id", .text request.clientOrderId), ("symbol", .text request.symbol)])

/-- The venue shows a position of no size; a failing query shows nothing. -/
def verifyFlat (request : OrderRequest) (run : CloseRun World) : Bool × CloseRun World :=
  match env.adapters request.venue with
  | none => (false, run)
  | some adapter =>
    match run.fetchPosition adapter request.venue request.symbol with
    | (.ok (some position), run) => (position.quantity.abs.le flatDust, run)
    | (_, run) => (false, run)

/-- Nothing is left to reduce: a fill of no size. -/
def terminalFlatFill (request : OrderRequest) : OrderFill where
  venue := request.venue
  symbol := request.symbol
  side := request.side
  quantity := .finite 0
  price := .finite 0
  orderId := "terminal-flat"

/-- A rejection that stands, unless a pending order is in its way. -/
def afterConflict (request : OrderRequest) (positionId leg : String) (more : Bool)
    (result : LegResult) (errorClass : CloseLegErrorClass) (run : CloseRun World) :
    LegStep World :=
  if errorClass.pendingConflict then
    let run := run.log "exit.close_reduce_only_pending_conflict"
      (orderPayload positionId leg "" request.clientOrderId ++ [("reason", .text result.reason)])
    if more then
      .again request (run.log "exit.retry_wait"
        (orderPayload positionId leg "" request.clientOrderId))
    else .done result run
  else .done result run

def afterRejection (request : OrderRequest) (positionId leg : String) (more : Bool)
    (result : LegResult) (run : CloseRun World) : LegStep World :=
  let errorClass := classifyCloseLegError result.reason
  if errorClass.isTerminalReduceOnly || errorClass.orderNotFound then
    let (isFlat, run) := verifyFlat env request run
    if isFlat || errorClass.emptyPosition || errorClass.orderNotFound then
      .done { outcome := .filled (terminalFlatFill request), orderId := "terminal-flat" }
        (run.log "order.filled" (orderPayload positionId leg "" request.clientOrderId ++
          [("reason", .text "terminal_reduce_only"), ("exchange_verified_flat", .bool isFlat)]))
    else afterConflict request positionId leg more result errorClass run
  else afterConflict request positionId leg more result errorClass run

/-! ## Attempts -/

/-- What follows the result of one attempt. -/
def afterAttempt (request : OrderRequest) (positionId leg : String) (nowMs : Int)
    (attempt : Nat) (more : Bool) (result : LegResult) (run : CloseRun World) : LegStep World :=
  match result.outcome with
  | .filled _ => .done result run
  | .rejected =>
    if isDuplicateClientOrderError request.venue result.reason then
      afterDuplicate env request positionId leg nowMs attempt more result.reason run
    else afterRejection env request positionId leg more result run
  | _ =>
    .again request (if more then run.log "exit.retry_wait"
      (orderPayload positionId leg "" request.clientOrderId) else run)

/-- An uncertain attempt leaves its identity. -/
def noteUncertain (identities : List (String × String)) (request : OrderRequest)
    (result : LegResult) : List (String × String) :=
  match result.outcome with
  | .uncertain =>
    addIdentity identities (result.orderId, orText result.clientOrderId request.clientOrderId)
  | _ => identities

/-- Attempts from a given one on; the first argument counts the ones that are left. -/
def submitAttempts (positionId leg : String) (nowMs : Int) : (left attempt : Nat) →
    OrderRequest → List (String × String) → CloseRun World → LegResult × CloseRun World
  | 0, _, request, identities, run =>
    ({ outcome := .uncertain, clientOrderId := request.clientOrderId
       unresolvedSubmissionIdentities := identities }, run)
  | left + 1, attempt, request, identities, run =>
    let (result, run) := submitCloseLeg env request positionId leg run
    let identities := noteUncertain identities request result
    match afterAttempt env request positionId leg nowMs attempt (decide (0 < left)) result run with
    | .done result run => ({ result with unresolvedSubmissionIdentities := identities }, run)
    | .again request run => submitAttempts positionId leg nowMs left (attempt + 1) request
        identities run

/-- `_submit_close_leg_with_retry`. -/
def submitCloseLegWithRetry (request : OrderRequest) (positionId leg : String) (nowMs : Int)
    (run : CloseRun World) : LegResult × CloseRun World :=
  submitAttempts env positionId leg nowMs env.maxCloseRetries 1 request [] run

end Submission

end LightFee.Engine
