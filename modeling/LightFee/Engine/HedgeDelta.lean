import LightFee.Engine.CloseLegSubmission
import LightFee.Engine.PassiveOrders

/-!
# Hedging a delta

What the maker fills beyond the hedge is hedged by a taker order on the other leg. All deltas
of a chunk are sent under one client order id. A refusal of that id asks the venue what became
of the order behind it, an accepted order without a known fill is kept as a truth gap, and
every fill that is learned is added to the hedge's counter.

The reference price and the rules of the venue are inputs. A delta that normalises to dust
submits nothing, and what the driver does about it is left out here, as are the journal and
the timing of the submission.
-/

namespace LightFee.Engine

open DynValue LightFee.Venues

/-! ## Answers of the venue -/

/-- An exception of a submission; an acknowledged order may be without a fill. -/
structure HedgeError extends SubmitError where
  orderAckOnly : Bool := false

/-- What is learned of an order, and whether its source counts as truth about fills. -/
structure HedgeReconciliation extends OrderFillReconciliation where
  side : Option Side := none
  feeQuote : Option ExactFloat := none
  filledAtMs : Int := 0
  confirms : Bool := true

/-- A submission: what the venue executes of a new order, and what it answers. -/
structure HedgePlacement where
  executed : Option ℚ := none
  answer : Except HedgeError OrderFill

/-- One call, with all answers that it may ask for. -/
structure HedgeCall where
  delta : ExactFloat
  /-- An error without an adapter, and when normalising fails. -/
  normalized : Except String ExactFloat
  /-- Why the order would be below the venue's minimum. -/
  minNotionalViolation : Option String := none
  price : Option ExactFloat := none
  nowMs : Int
  placed : HedgePlacement
  reconciled : Except String (Option HedgeReconciliation) := .ok none
  live : Except String (Option PositionSnapshot) := .ok none
  retryClientOrderId : String
  retried : HedgePlacement

structure HedgeDeltaResult where
  requested : ExactFloat
  filled : ExactFloat := .finite 0
  residual : ExactFloat
  success : Bool := false
  error : Option String := none
  orderId : String := ""
  truthGap : Bool := false
  acceptedOrderId : String := ""
  acceptedClientOrderId : String := ""

/-! ## The run of a chunk -/

/-- An order that the venue executed, and whether its fill was counted. -/
structure HedgeOrder where
  venue : Venue
  clientOrderId : String
  executed : ℚ
  counted : Bool := false

def HedgeOrder.named (venue : Venue) (clientOrderId : String) (order : HedgeOrder) : Bool :=
  decide (order.venue = venue) && decide (order.clientOrderId = clientOrderId)

/-- A passive close, the queue of reconciliations, and the hedge orders that venues executed
for the chunk; no function reads the orders. -/
structure HedgeRun where
  pending : PendingPassiveClose
  queue : List DynValue := []
  orders : List HedgeOrder := []

namespace PendingPassiveClose

/-- The hedge is on the leg without the maker. -/
def hedgeLeg (pending : PendingPassiveClose) : ActiveMakerLeg :=
  match pending.phaseState.activeMakerLeg with
  | .long => .short
  | .short => .long

/-- `pending.short_stage or "exit_short"`, and the same for the long leg. -/
def hedgeStage (pending : PendingPassiveClose) : String :=
  (match pending.hedgeLeg with
    | .short => orText pending.shortStage "exit_short"
    | .long => orText pending.longStage "exit_long") ++
  "_hedge" ++ pending.currentChunkSuffix

/-- `record_hedge_fill`. -/
def recordHedgeFill (pending : PendingPassiveClose) (fill : OrderFill) (hedgeCid : String)
    (submittedAtMs : Int) : PendingPassiveClose :=
  let clientOrderId := orText (fill.clientOrderId.getD "") hedgeCid
  let known := pending.hedgeFill
  let newQty := known.quantity.add fill.quantity
  let total := (known.quantity.mul known.averagePrice).add (fill.quantity.mul fill.price)
  let fee : Option ExactFloat := fill.feeQuote.filter (fun fee => feeEvidenceComplete (some fee))
  let counted := { pending with
    hedgeFill :=
      { quantity := newQty
        averagePrice := if (ExactFloat.finite 0).lt newQty then total.div newQty else fill.price
        feeQuote := match fee with
          | some fee => known.feeQuote.add fee
          | none => known.feeQuote
        feeEvidenceComplete :=
          fee.isSome && (known.quantity.le fillDust || known.feeEvidenceComplete)
        lastFillTimeMs := fill.filledAtMs
        orderId := fill.orderId
        clientOrderId := clientOrderId } }
  counted.setLegs pending.hedgeLeg
    (recordCloseExecutionLeg (pending.legsOn pending.hedgeLeg) fill clientOrderId submittedAtMs)

end PendingPassiveClose

def ActiveMakerLeg.label : ActiveMakerLeg → String
  | .long => "long"
  | .short => "short"

def OpenPosition.venueOn (position : OpenPosition) : ActiveMakerLeg → Venue
  | .long => position.longVenue
  | .short => position.shortVenue

/-- The side that closes a leg. -/
def closeSide : ActiveMakerLeg → Side
  | .long => .sell
  | .short => .buy

namespace HedgeRun

/-- An execution of a new order is added. -/
def place (run : HedgeRun) (venue : Venue) (clientOrderId : String) (executed : Option ℚ) :
    HedgeRun :=
  match executed with
  | none => run
  | some quantity => { run with
      orders := run.orders ++
        [{ venue := venue, clientOrderId := clientOrderId, executed := quantity }] }

/-- A fill of an order is counted. -/
def count (run : HedgeRun) (venue : Venue) (clientOrderId : String) (fill : OrderFill)
    (hedgeCid : String) (submittedAtMs : Int) : HedgeRun :=
  { run with
    pending := run.pending.recordHedgeFill fill hedgeCid submittedAtMs
    orders := run.orders.modify (run.orders.findIdx (HedgeOrder.named venue clientOrderId))
      (fun order => { order with counted := true }) }

end HedgeRun

/-! ## Truth gaps -/

/-- Rows of a leg of a queued record at a venue. -/
def gapLegs [TextCase] (hedgeLeg : ActiveMakerLeg) (venue : Venue) (reconciliation : DynValue) :
    List DynValue :=
  (legGroup reconciliation (hedgeLeg.label ++ "_legs")).filter (fun record =>
    decide (textOf (record.get "venue") = venue.value))

/-- `_active_hedge_truth_gap_reconciliation`: the first record of an accepted order of the
hedge's leg. -/
def activeHedgeTruthGap [TextCase] (queue : List DynValue) (positionId : String) (venue : Venue)
    (hedgeLeg : ActiveMakerLeg) : Option DynValue :=
  queue.find? (fun reconciliation =>
    reconciliation.isMapping &&
      decide (textOf (reconciliation.get "kind") = "accepted_order_truth_gap") &&
      decide (textOf (reconciliation.get "position_id") = positionId) &&
      ((decide (textOf (reconciliation.get "venue") = venue.value) &&
          decide (textOf (reconciliation.get "leg") = hedgeLeg.label)) ||
        !(gapLegs hedgeLeg venue reconciliation).isEmpty))

/-- `_accepted_order_truth_gap_identity`: order id and client order id. -/
def acceptedOrderTruthGapIdentity [TextCase] (reconciliation : DynValue) (venue : Venue)
    (hedgeLeg : ActiveMakerLeg) : String × String :=
  let payload := reconciliation.get "original_payload"
  let payload := if payload.isMapping then payload else .dict []
  (gapLegs hedgeLeg venue reconciliation).foldl
    (fun known record => (orText known.1 (textOf (record.get "order_id")),
      orText known.2 (textOf (record.get "client_order_id"))))
    (textOf (payload.get "accepted_order_id"), textOf (payload.get "accepted_client_order_id"))

/-- `_reconciliation_int`. -/
def reconciliationInt (value : DynValue) : Int := value.toInt?.getD 0

/-- What `remove_pending_close_reconciliation` compares. -/
def removalKey [TextCase] (reconciliation : DynValue) : String × String × Int :=
  (textOf (reconciliation.get "position_id"),
    ((reconciliation.get "kind").orElse (.str "final")).text,
    reconciliationInt (reconciliation.get "closed_at_ms"))

def removePendingCloseReconciliation [TextCase] (queue : List DynValue) (task : DynValue) :
    List DynValue :=
  (setPendingCloseReconciliations (.list queue)).filter (fun item =>
    decide (removalKey item ≠ removalKey task))

/-- The record of `_register_accepted_order_truth_gap`, as far as the queue reads it. -/
def acceptedOrderTruthGap (pending : PendingPassiveClose) (position : OpenPosition)
    (leg : ActiveMakerLeg) (orderId clientOrderId : String) (nowMs : Int) : DynValue :=
  let venue := position.venueOn leg
  let record := legRecord venue orderId clientOrderId
  let onLong := decide (venue = position.longVenue) || decide (leg = .long)
  .dict [("position_id", .str pending.positionId), ("symbol", .str position.symbol),
    ("kind", .str "accepted_order_truth_gap"), ("reason", .str pending.reason),
    ("venue", .str venue.value), ("leg", .str leg.label), ("closed_at_ms", .int nowMs),
    ("position_snapshot", closeReconciliationPositionSnapshot position),
    ("original_payload", .dict [("accepted_order_id", .str orderId),
      ("accepted_client_order_id", .str clientOrderId)]),
    ("long_legs", .list (if onLong then [record] else [])),
    ("short_legs", .list (if onLong then [] else [record])),
    ("attempt_count", .int 0), ("next_attempt_ms", .int nowMs)]

/-! ## The submission -/

/-- What stays the same during one call. -/
structure HedgeContext where
  position : OpenPosition
  /-- A hash of a position and a stage. -/
  compactClientOrderId : (positionId stage : String) → String
  /-- Truth gaps are registered in live mode only. -/
  live : Bool := true

section Submission

variable [TextCase] (context : HedgeContext)

def hedgeVenue (pending : PendingPassiveClose) : Venue :=
  context.position.venueOn pending.hedgeLeg

/-- The client order id of every delta of the chunk. -/
def hedgeClientOrderId (pending : PendingPassiveClose) : String :=
  context.compactClientOrderId context.position.positionId pending.hedgeStage

/-- A confirmed fill, with what the call knows where the answer says nothing. -/
def reconciledHedge (pending : PendingPassiveClose) (call : HedgeCall)
    (found : HedgeReconciliation) (orderId clientOrderId : String) : OrderFill where
  venue := hedgeVenue context pending
  symbol := context.position.symbol
  side := found.side.getD (closeSide pending.hedgeLeg)
  quantity := positiveFloat found.quantity
  price := found.averagePrice
  orderId := orText found.orderId orderId
  clientOrderId := some (orText (found.clientOrderId.getD "") clientOrderId)
  feeQuote := found.feeQuote
  filledAtMs := if found.filledAtMs = 0 then call.nowMs else found.filledAtMs

/-- `resolve_order_success` without live truth: a positive fill from a confirmed source. -/
def confirmedHedge (call : HedgeCall) : Option HedgeReconciliation :=
  match call.reconciled with
  | .ok (some found) =>
    if flatDust.lt (positiveFloat found.quantity) && found.confirms then some found else none
  | _ => none

/-- A fill of the whole delta succeeds. -/
def filledResult (delta filled : ExactFloat) (orderId : String) : HedgeDeltaResult :=
  let residual := (delta.sub filled).max (.finite 0)
  let success := residual.lt fillDust
  { requested := delta
    filled := filled
    residual := residual
    success := success
    error := if success then none else some "partial_fill"
    orderId := orderId }

/-- Nothing of the delta was filled. -/
def failedResult (delta : ExactFloat) (error : String) : HedgeDeltaResult :=
  { requested := delta, residual := delta, error := some error }

/-- An accepted order without a known fill is asked about before anything is submitted. -/
def resolveTruthGap (gap : DynValue) (call : HedgeCall) (run : HedgeRun) :
    HedgeDeltaResult × HedgeRun :=
  let pending := run.pending
  let hedgeCid := hedgeClientOrderId context pending
  let named := acceptedOrderTruthGapIdentity gap (hedgeVenue context pending) pending.hedgeLeg
  let accepted := orText named.2 hedgeCid
  match confirmedHedge call with
  | some found =>
    let fill := reconciledHedge context pending call found named.1 accepted
    let run := run.count (hedgeVenue context pending) accepted fill hedgeCid call.nowMs
    (filledResult call.delta fill.quantity fill.orderId,
      { run with queue := removePendingCloseReconciliation run.queue gap })
  | none =>
    ({ failedResult call.delta "accepted_order_truth_gap_pending" with
        truthGap := true, acceptedOrderId := named.1, acceptedClientOrderId := accepted }, run)

/-- The intent of an order is kept before it is sent. -/
def HedgeRun.claim (run : HedgeRun) (clientOrderId operation : String) (nowMs : Int) : HedgeRun :=
  { run with pending :=
      claimCloseOrderIntent run.pending run.pending.hedgeLeg clientOrderId operation nowMs }

/-- An acknowledged order is bound to its intent. -/
def HedgeRun.acknowledge (run : HedgeRun) (orderId clientOrderId : String) (nowMs : Int) :
    HedgeRun :=
  { run with pending :=
      acknowledgeCloseOrderIdentity run.pending run.pending.hedgeLeg orderId clientOrderId nowMs }

/-- A fill that a call counted under one of its own orders. -/
def HedgeRun.countOwn (run : HedgeRun) (clientOrderId : String) (fill : OrderFill) (call : HedgeCall) :
    HedgeRun :=
  run.count (hedgeVenue context run.pending) clientOrderId fill
    (hedgeClientOrderId context run.pending) call.nowMs

/-- The fill of the earlier order under a refused client order id. -/
def duplicateHedge (pending : PendingPassiveClose) (call : HedgeCall) (found : DuplicateReconcile) :
    OrderFill where
  venue := hedgeVenue context pending
  symbol := context.position.symbol
  side := closeSide pending.hedgeLeg
  quantity := found.reconciledQty
  price :=
    if found.averagePrice.truthy then found.averagePrice else call.price.getD (.finite 0)
  orderId := found.orderId
  clientOrderId := some (orText found.clientOrderId (hedgeClientOrderId context pending))
  filledAtMs := call.nowMs

/-- What is asked for under a new client order id. -/
def DuplicateReconcile.hedgeRetryQuantity (found : DuplicateReconcile) : ExactFloat :=
  if flatDust.lt found.liveQty then found.remainingQty.min found.liveQty else found.remainingQty

/-- What is left after the earlier order is tried once under a new client order id. -/
def retryHedge (call : HedgeCall) (found : DuplicateReconcile) (run : HedgeRun) :
    HedgeDeltaResult × HedgeRun :=
  let run := (run.claim call.retryClientOrderId "place_order_duplicate_retry" call.nowMs).place
    (hedgeVenue context run.pending) call.retryClientOrderId call.retried.executed
  match call.retried.answer with
  | .error _ =>
    ({ requested := call.delta
       filled := found.reconciledQty
       residual := (call.delta.sub found.reconciledQty).max (.finite 0)
       error := some "duplicate_client_order_id_retry_failed"
       orderId := found.orderId }, run)
  | .ok fill =>
    let run := run.acknowledge fill.orderId
      (orText (fill.clientOrderId.getD "") call.retryClientOrderId) call.nowMs
    let own := { fill with
      clientOrderId := some (orText (fill.clientOrderId.getD "") call.retryClientOrderId) }
    let counted := if (ExactFloat.finite 0).lt fill.quantity then
        run.countOwn context call.retryClientOrderId own call
      else run
    (filledResult call.delta (found.reconciledQty.add (fill.quantity.max (.finite 0)))
      (orText fill.orderId found.orderId), counted)

/-- The client order id was used before. -/
def afterDuplicateHedge (normalized : ExactFloat) (call : HedgeCall) (run : HedgeRun) :
    HedgeDeltaResult × HedgeRun :=
  let hedgeCid := hedgeClientOrderId context run.pending
  let reconciled : Except String (Option OrderFillReconciliation) :=
    call.reconciled.map (fun found => found.map HedgeReconciliation.toOrderFillReconciliation)
  let found := resolveDuplicateConflict hedgeCid normalized reconciled call.live
  let run := if fillDust.lt found.reconciledQty then
      run.countOwn context hedgeCid (duplicateHedge context run.pending call found) call
    else run
  if found.clearState then
    ({ requested := call.delta
       filled := found.reconciledQty
       residual := .finite 0
       success := true
       orderId := found.orderId }, run)
  else if found.shouldRetryWithNewClientId then retryHedge context call found run
  else
    ({ requested := call.delta
       filled := found.reconciledQty
       residual := (call.delta.sub found.reconciledQty).max (.finite 0)
       error := some "duplicate_client_order_id_backoff"
       orderId := found.orderId }, run)

/-- `is_order_truth_gap`. -/
def HedgeError.isOrderTruthGap (error : HedgeError) : Bool :=
  error.orderAckOnly ||
    (decide (error.failureClass = some .uncertain) &&
      containsAny (TextCase.lower error.text)
        ["fill not confirmed", "no order id and no fill data",
          "order response contains no order id"])

/-- An accepted order without a known fill is queued. -/
def HedgeRun.registerTruthGap (run : HedgeRun) (orderId clientOrderId : String) (nowMs : Int) :
    HedgeRun :=
  if context.live && !(orderId == "" && clientOrderId == "") then
    let run := run.acknowledge orderId clientOrderId nowMs
    let gap := acceptedOrderTruthGap run.pending context.position run.pending.hedgeLeg orderId
      clientOrderId nowMs
    { run with queue := enqueuePendingCloseReconciliation (.list run.queue) gap }
  else run

/-- Another failure: an error of the submission is followed by a look at the order. -/
def afterHedgeError (call : HedgeCall) (error : HedgeError) (run : HedgeRun) :
    HedgeDeltaResult × HedgeRun :=
  let hedgeCid := hedgeClientOrderId context run.pending
  let accepted := orText error.acceptedClientOrderId hedgeCid
  match (if error.failureClass.isSome then confirmedHedge call else none) with
  | some found =>
    let fill := reconciledHedge context run.pending call found "" hedgeCid
    (filledResult call.delta fill.quantity fill.orderId, run.countOwn context hedgeCid fill call)
  | none =>
    if error.isOrderTruthGap then
      ({ failedResult call.delta error.text with
          truthGap := true
          acceptedOrderId := error.acceptedOrderId
          acceptedClientOrderId := accepted },
        run.registerTruthGap context error.acceptedOrderId accepted call.nowMs)
    else (failedResult call.delta error.text, run)

/-- An acknowledged order; one venue acknowledges before it knows of fills. -/
def afterHedgeAck (call : HedgeCall) (fill : OrderFill) (run : HedgeRun) :
    HedgeDeltaResult × HedgeRun :=
  let hedgeCid := hedgeClientOrderId context run.pending
  let venue := hedgeVenue context run.pending
  let named := orText (fill.clientOrderId.getD "") hedgeCid
  let filledQty := if (ExactFloat.finite 0).lt fill.quantity then fill.quantity else .finite 0
  let run := run.acknowledge fill.orderId named call.nowMs
  let asks := filledQty.le fillDust && decide (venue = .bybit) &&
    !(fill.orderId == "" && named == "")
  match (if asks then confirmedHedge call else none) with
  | some found =>
    let known := reconciledHedge context run.pending call found fill.orderId named
    (filledResult call.delta known.quantity known.orderId,
      run.countOwn context hedgeCid known call)
  | none =>
    let residual := (call.delta.sub filledQty).max (.finite 0)
    let success := residual.lt fillDust
    let partly := (ExactFloat.finite 0).lt filledQty
    let counted := if (ExactFloat.finite 0).lt fill.quantity then
        run.countOwn context hedgeCid fill call
      else run
    ({ requested := call.delta
       filled := filledQty
       residual := residual
       success := success
       error := if success then none else if partly then some "partial_fill" else some "zero_fill" },
      counted)

/-- A delta is sent under the chunk's client order id. -/
def sendHedge (normalized : ExactFloat) (call : HedgeCall) (run : HedgeRun) :
    HedgeDeltaResult × HedgeRun :=
  let hedgeCid := hedgeClientOrderId context run.pending
  let venue := hedgeVenue context run.pending
  let sent := (run.claim hedgeCid "place_order" call.nowMs).place venue hedgeCid
    call.placed.executed
  match call.placed.answer with
  | .ok fill => afterHedgeAck context call fill sent
  | .error error =>
    if isDuplicateClientOrderError venue error.text error.answerTexts then
      afterDuplicateHedge context normalized call sent
    else afterHedgeError context call error sent

/-- `_submit_hedge_for_delta`. -/
def submitHedgeForDelta (call : HedgeCall) (run : HedgeRun) : HedgeDeltaResult × HedgeRun :=
  if call.delta.le fillDust then
    ({ requested := call.delta, residual := .finite 0, success := true }, run)
  else
    match call.normalized with
    | .error text => (failedResult call.delta text, run)
    | .ok normalized =>
      if normalized.le fillDust then (failedResult call.delta "normalized_quantity_zero", run)
      else
        match call.minNotionalViolation with
        | some reason => (failedResult call.delta (orText reason "min_notional_rejected"), run)
        | none =>
          match activeHedgeTruthGap run.queue run.pending.positionId
              (hedgeVenue context run.pending) run.pending.hedgeLeg with
          | some gap => resolveTruthGap context gap call run
          | none => sendHedge context normalized call run

end Submission

end LightFee.Engine
