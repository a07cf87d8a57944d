import LightFee.Engine.OrderTruth

/-!
# Residual repairs

A pass works on the pending repairs one after the other. Each task is sized from a look at the
venues: the excess of the live position over what the task's own position needs is sent as one
reduce-only order. A task leaves the list when its order covers the excess, when the look finds
none, or when the excess is too small for the venue; a task that is cleared releases the
reduce-only gate of its pair.

The adapters' answers to one task are given beside it; an exception is its text. A task and a
gate have the fields that the pass reads, with the types of their writers. The journal has the
kind of each record, the names of the task, the result and what a replay reads; other evidence is
left out, and so is the recovery decision after the pass, which changes no repair and no gate.
-/

namespace LightFee.Engine

open LightFee.Venues

/-! ## Tasks and gates -/

/-- A residual repair; an absent text is empty. -/
structure RepairTask where
  positionId : String := ""
  pairId : String := ""
  symbol : String := ""
  origin : String := ""
  repairVenue : String := ""
  exposureVenue : String := ""
  repairSide : String := ""
  exposureSide : String := ""
  repairQuantity : Option ExactFloat := none
  exposureQuantity : Option ExactFloat := none
  localEntryPaused : Bool := false
  deadlineMs : Int := 0
  retryCount : Option Int := none
  attemptCount : Option Int := none
  lastAttemptAtMs : Int := 0
  nextAttemptMs : Int := 0
  lastError : String := ""
  acceptedOrderTruthGap : Bool := false
  acceptedOrderId : String := ""
  acceptedClientOrderId : String := ""
  orderTruthState : String := ""
  ledgerDecision : String := ""
  nextClientOrderId : String := ""
  nextDuplicateAttempt : Option Int := none

/-- An element of `pending_residual_repairs`. -/
inductive RepairItem where
  | task (task : RepairTask)
  /-- Not a dictionary. -/
  | other (value : String)

/-- A reduce-only gate of a pair. -/
structure PairGate where
  pairId : String := ""
  symbol : String := ""
  longVenue : String := ""
  shortVenue : String := ""
deriving DecidableEq

/-- The names that a completion is filed under. -/
structure RepairScope where
  positionId : String
  pairId : String
  symbol : String
  origin : String
deriving DecidableEq

def RepairTask.scope (task : RepairTask) : RepairScope :=
  ⟨task.positionId, task.pairId, task.symbol, task.origin⟩

def Side.repairText : Side → String
  | .buy => "buy"
  | .sell => "sell"

/-! ## Answers -/

structure LivePosition extends PositionSnapshot where
  entryPrice : ExactFloat := .finite 0

structure RepairSubmitError extends SubmitError where
  orderAckOnly : Bool := false

/-- One venue's answers to a look: its position, and how many orders are open. -/
structure VenueAnswers where
  position : Except String (Option LivePosition)
  openOrders : Except String Nat

/-- What the adapters answer while one task is worked on. -/
structure RepairAnswers where
  look : Venue → VenueAnswers
  /-- Nothing when the adapter does not normalize. -/
  normalizeQuantity : Option (Except String ExactFloat)
  placeOrder : Except RepairSubmitError OrderFill
  refusedReconciliation : Except String (Option AcceptedReconciliation)
  refusedPosition : Except String (Option LivePosition)
  retryOrder : Except RepairSubmitError OrderFill
  /-- Nothing when the adapter does not reconcile fills. -/
  acceptedReconciliation : Option (Except String (Option AcceptedReconciliation))
  acceptedLook : Venue → VenueAnswers

structure RepairEnvironment where
  hasAdapter : Venue → Bool
  venueMinNotional : Venue → String → ExactFloat
  /-- A hash of a position and a suffix. -/
  compactClientOrderId : (positionId suffix : String) → String

/-- A successful look at several venues. -/
structure RepairLook where
  positions : List (Venue × Option LivePosition) := []
  openOrders : List (Venue × Nat) := []

def RepairLook.positionOf (look : RepairLook) (venue : Venue) : Option LivePosition :=
  (OrderedDict.lookupEntries venue look.positions).getD none

def RepairLook.openOrderCount (look : RepairLook) : Nat := (look.openOrders.map Prod.snd).sum

/-- What was sent and answered while a task was worked on: the look and the side that it sized
the task with, the position after a refused client order id, the look after an acceptance, the
orders, and the executed quantities that were answered. -/
structure RepairEvidence where
  look : Option RepairLook := none
  side : Option Side := none
  refusedPosition : Option (Option LivePosition) := none
  acceptedLook : Option RepairLook := none
  sent : List OrderRequest := []
  executed : List ExactFloat := []

/-! ## Outcomes -/

/-- Why a task leaves the list. -/
inductive RepairExit where
  | acceptedFill
  | acceptedFlat
  | alreadyFlat
  | minQuantityDust
  | minNotionalDust
  | duplicateCleared
  | submittedFill
  | submittedFlat
  | filled
deriving DecidableEq

namespace RepairExit

def isTerminal : RepairExit → Bool
  | minQuantityDust | minNotionalDust => true
  | _ => false

/-- The kind of the record that reports the exit. -/
def kind (exit : RepairExit) : String :=
  if exit.isTerminal then "execution.residual_repair_terminal"
  else "execution.residual_repair_completed"

/-- The `result`, or the terminal reason. -/
def result : RepairExit → String
  | acceptedFill | submittedFill => "accepted_order_reconciled"
  | acceptedFlat | submittedFlat => "accepted_order_live_flat"
  | alreadyFlat => "already_flat"
  | minQuantityDust => "exchange_min_quantity_dust"
  | minNotionalDust => "exchange_min_notional_dust"
  | duplicateCleared => "duplicate_client_order_reconciled"
  | filled => ""

end RepairExit

/-- A record of another kind, and the text it gives. -/
structure RepairNote where
  kind : String
  text : String := ""

inductive RepairOutcome where
  /-- Not due yet. -/
  | waiting
  /-- Unreadable, and removed. -/
  | invalid
  /-- The task stays, changed in place; the engine may be blocked with a reason. -/
  | retained (task : RepairTask) (blocked : Option String := none)
  /-- The task leaves; a successor takes what remains. -/
  | left (exit : RepairExit) (successor : Option RepairTask)

structure RepairDecision where
  outcome : RepairOutcome
  notes : List RepairNote := []
  evidence : RepairEvidence := {}
  /-- Appended after the record of the exit. -/
  laterNotes : List RepairNote := []

/-! ## Reading a task -/

namespace RepairTask

section Reading

variable [TextCase]

def sideFromText (text : String) : Option Side :=
  let value := TextCase.lower (TextSearch.strip text)
  if value = "buy" then some .buy else if value = "sell" then some .sell else none

/-- `_pending_residual_repair_fields`. -/
def fields (task : RepairTask) : Option (Venue × Side × ExactFloat) :=
  let venueRaw := if task.repairVenue = "" then task.exposureVenue else task.repairVenue
  let sideRaw := if task.repairSide = "" then task.exposureSide else task.repairSide
  let quantity := task.repairQuantity.getD (task.exposureQuantity.getD (.finite 0))
  match Venue.fromStr venueRaw, sideFromText sideRaw with
  | some venue, some side => if quantity.le flatDust then none else some (venue, side, quantity)
  | _, _ => none

/-- The repair venue and the other venues of the pair that have an adapter. -/
def probeVenues (env : RepairEnvironment) (task : RepairTask) (venue : Venue) : List Venue :=
  if task.pairId ≠ "" ∧ TextSearch.occursIn "->" task.pairId then
    let venuePart := ":".intercalate ((TextSearch.split ":" task.pairId).drop 1)
    (TextSearch.split "->" venuePart).foldl (fun venues raw =>
      match Venue.fromStr raw with
      | some parsed =>
        if parsed ∉ venues ∧ env.hasAdapter parsed then venues ++ [parsed] else venues
      | none => venues) [venue]
  else [venue]

end Reading

/-- `_residual_repair_attempt_count`. -/
def attempts (task : RepairTask) : Int := task.retryCount.getD (task.attemptCount.getD 0)

/-- `_residual_repair_deadline_or_attempts_exhausted`. -/
def exhausted (task : RepairTask) (nowMs : Int) : Bool :=
  (task.deadlineMs > 0 && task.deadlineMs ≤ nowMs) || 3 ≤ task.attempts

def retryDelayMs (attemptCount : Int) : Int :=
  min (1000 * 2 ^ ((max attemptCount 1) - 1).toNat) 30000

/-- `_pause_pending_residual_repair`. -/
def pause (task : RepairTask) (nowMs : Int) : RepairTask :=
  { task with
    localEntryPaused := true
    lastAttemptAtMs := nowMs
    nextAttemptMs := nowMs + retryDelayMs task.attempts
    lastError :=
      if task.lastError = "" then "residual_repair_deadline_or_attempts_exhausted"
      else task.lastError }

def pauseNote (task : RepairTask) (nowMs : Int) : RepairNote :=
  ⟨"execution.residual_repair_paused", (task.pause nowMs).lastError⟩

/-- The counters and the error of a failed attempt. -/
def countAttempt (task : RepairTask) (nowMs : Int) (error : String) : RepairTask :=
  { task with
    retryCount := some (task.attempts + 1)
    attemptCount := some (task.attempts + 1)
    lastAttemptAtMs := nowMs
    lastError := error }

/-- `_reschedule_pending_residual_repair_task`. -/
def reschedule (task : RepairTask) (nowMs : Int) (error : String) :
    RepairTask × List RepairNote :=
  let counted := task.countAttempt nowMs error
  if counted.exhausted nowMs then (counted.pause nowMs, [counted.pauseNote nowMs])
  else ({ counted with nextAttemptMs := nowMs + retryDelayMs counted.attempts }, [])

/-- `_retain_residual_repair_accepted_order_gap`. -/
def retainAcceptedGap (task : RepairTask) (nowMs : Int) (status truthState decision : String)
    (orderId clientOrderId : String) : RepairTask :=
  { task with
    retryCount := some (task.attempts + 1)
    attemptCount := some (task.attempts + 1)
    lastAttemptAtMs := nowMs
    nextAttemptMs := nowMs + retryDelayMs (task.attempts + 1)
    acceptedOrderTruthGap := true
    orderTruthState := truthState
    ledgerDecision := decision
    acceptedOrderId := if orderId = "" then task.acceptedOrderId else orderId
    acceptedClientOrderId :=
      if clientOrderId = "" then task.acceptedClientOrderId else clientOrderId
    lastError := "accepted_order_truth_gap_" ++ status }

/-- `_clear_residual_repair_accepted_order_gap`. -/
def clearAcceptedGap (task : RepairTask) : RepairTask :=
  { task with
    acceptedOrderTruthGap := false
    acceptedOrderId := ""
    acceptedClientOrderId := ""
    orderTruthState := ""
    ledgerDecision := "" }

/-- What remains of a task after a fill. -/
def continued (task : RepairTask) (venue : Venue) (side : Side) (remaining : ExactFloat)
    (nowMs : Int) : RepairTask :=
  { task with
    repairVenue := venue.value
    repairSide := side.repairText
    repairQuantity := some remaining
    retryCount := some 0
    lastAttemptAtMs := nowMs
    nextAttemptMs := nowMs }

def dropExposure (task : RepairTask) : RepairTask :=
  { task with exposureVenue := "", exposureSide := "", exposureQuantity := none }

end RepairTask

/-! ## Looking -/

/-- `_signed_position_size`: a position that is missing has no size. -/
def signedPositionSize : Option LivePosition → ExactFloat
  | none => .finite 0
  | some position =>
    match position.side with
    | .buy => position.quantity.abs
    | .sell => position.quantity.abs.neg

/-- What the live size has beyond the baseline, against the side of the repair. -/
def liveExcess (side : Side) (liveSize baseline : ExactFloat) : ExactFloat :=
  match side with
  | .sell => (liveSize.sub baseline).max (.finite 0)
  | .buy => (baseline.sub liveSize).max (.finite 0)

/-- What a position needs on a venue: its matched quantity, signed. -/
def OpenPosition.matchedLeg (position : OpenPosition) (venue : Venue) : ExactFloat :=
  let matched := if position.matchedQuantity.truthy then position.matchedQuantity
    else position.longQuantity.min position.shortQuantity
  if venue = position.longVenue then matched
  else if venue = position.shortVenue then matched.neg
  else .finite 0

/-- `_residual_repair_baseline_size`. -/
def repairBaseline (positions : OrderedDict String OpenPosition) (positionId : String)
    (venue : Venue) : ExactFloat :=
  match positions.find? positionId with
  | none => .finite 0
  | some position => position.matchedLeg venue

/-- Positions and open orders of the venues, up to the first that raises. -/
def takeLook (answers : Venue → VenueAnswers) : List Venue → RepairLook → Except String RepairLook
  | [], look => .ok look
  | venue :: rest, look =>
    match (answers venue).position with
    | .error text => .error text
    | .ok position =>
      match (answers venue).openOrders with
      | .error text => .error text
      | .ok count => takeLook answers rest
          { positions := look.positions ++ [(venue, position)]
            openOrders := look.openOrders ++ [(venue, count)] }

/-! ## Working on a task -/

/-- The locals of the loop: the task as it was read. -/
structure RepairWork where
  env : RepairEnvironment
  nowMs : Int
  positions : OrderedDict String OpenPosition
  answers : RepairAnswers
  task : RepairTask
  venue : Venue
  side : Side
  baseline : ExactFloat
  probes : List Venue

namespace RepairWork

def failed (error : String) : RepairNote := ⟨"recovery.residual_repair_failed", error⟩

/-- Paused before, or out of time or attempts. -/
def givesUp (work : RepairWork) : Bool :=
  work.task.localEntryPaused || work.task.exhausted work.nowMs

/-! Accepted orders -/

inductive AcceptedStatus where
  /-- Of the fill only its quantity is read. -/
  | filled (quantity : ExactFloat)
  | liveFlat
  | openOrderPresent
  | truthGap
  | truthUnavailable

def AcceptedStatus.text : AcceptedStatus → String
  | filled _ => "filled"
  | liveFlat => "live_flat"
  | openOrderPresent => "open_order_present"
  | truthGap => "truth_gap"
  | truthUnavailable => "truth_unavailable"

/-- `truth_gap_status_decision`: the state and the decision. -/
def AcceptedStatus.ledger : AcceptedStatus → String × String
  | filled _ => ("resolved_flat", "clear")
  | liveFlat => ("resolved_flat", "clear_live_flat")
  | openOrderPresent => ("resolved_position", "retain")
  | truthGap | truthUnavailable => ("unresolved", "backoff_recheck")

section Accepted

variable [TextCase]

/-- `_close_reconciliation_fill_qty`. -/
def reconciliationFillQty (reconciliation : AcceptedReconciliation) : ExactFloat :=
  if reconciliation.quantity.isFinite then reconciliation.quantity else .finite 0

/-- The look of `_resolve_residual_repair_accepted_order`. -/
def lookAfterAcceptance (work : RepairWork) : AcceptedStatus × Option RepairLook :=
  match takeLook work.answers.acceptedLook work.probes {} with
  | .error _ => (.truthUnavailable, none)
  | .ok look =>
    let excess := liveExcess work.side (signedPositionSize (look.positionOf work.venue)) work.baseline
    if look.openOrderCount > 0 then (.openOrderPresent, some look)
    else if excess.le flatDust then (.liveFlat, some look)
    else (.truthGap, some look)

/-- `_resolve_residual_repair_accepted_order`; one of the two ids is known. -/
def resolveAcceptedOrder (work : RepairWork) : AcceptedStatus × Option RepairLook :=
  match work.answers.acceptedReconciliation with
  | none => work.lookAfterAcceptance
  | some (.error _) => (.truthUnavailable, none)
  | some (.ok none) => work.lookAfterAcceptance
  | some (.ok (some reconciliation)) =>
    if OrderTruth.confirmedFill work.venue reconciliation then
      (.filled (positiveFloat reconciliation.quantity), none)
    else if (ExactFloat.finite (1 / 10 ^ 12)).lt (reconciliationFillQty reconciliation) then
      (.truthGap, none)
    else work.lookAfterAcceptance

end Accepted

/-- The executed quantity that an accepted order was found to have. -/
def AcceptedStatus.executed : AcceptedStatus → List ExactFloat
  | filled quantity => [quantity]
  | _ => []

/-- A task whose order is accepted but not accounted for. -/
def retainGap (work : RepairWork) (task : RepairTask) (status : AcceptedStatus)
    (orderId clientOrderId : String) : RepairTask :=
  task.retainAcceptedGap work.nowMs status.text status.ledger.1 status.ledger.2 orderId
    clientOrderId

/-- A task that comes with an accepted order is settled against its own quantity. -/
def reconcileAccepted [TextCase] (work : RepairWork) (taskQuantity : ExactFloat) :
    RepairDecision :=
  let task := work.task
  let (status, look) := work.resolveAcceptedOrder
  let evidence : RepairEvidence := { acceptedLook := look, executed := status.executed }
  match status with
  | .filled quantity =>
    let remaining := ((task.repairQuantity.getD taskQuantity).sub quantity).max (.finite 0)
    let successor := task.clearAcceptedGap.continued work.venue work.side remaining work.nowMs
    { outcome := .left .acceptedFill (if flatDust.lt remaining then some successor else none)
      evidence := evidence }
  | .liveFlat => { outcome := .left .acceptedFlat none, evidence := evidence }
  | _ =>
    let retained := work.retainGap task status task.acceptedOrderId task.acceptedClientOrderId
    { outcome := .retained retained
      notes := [failed retained.lastError]
      evidence := evidence }

/-! Submitting -/

/-- A task with its size: the look, the side and the excess that were found. -/
structure SizedRepair where
  task : RepairTask
  side : Side
  excess : ExactFloat
  look : RepairLook
  notes : List RepairNote := []

def SizedRepair.evidence (sized : SizedRepair) : RepairEvidence where
  look := some sized.look
  side := some sized.side

section Submitting

variable [TextCase] (work : RepairWork) (sized : SizedRepair)

/-- What is left of the excess goes to a successor. -/
def successorOf (task : RepairTask) (executed : ExactFloat) : Option RepairTask :=
  let remaining := (sized.excess.sub executed).max (.finite 0)
  if flatDust.lt remaining then
    some (task.continued work.venue sized.side remaining work.nowMs).dropExposure
  else none

/-- The submission raised; a blocking reason comes with a second refusal. -/
def afterSubmitError (task : RepairTask) (clientOrderId : String) (error : RepairSubmitError)
    (blocking : Option String) (notes : List RepairNote) (evidence : RepairEvidence) :
    RepairDecision :=
  if error.failureClass.isSome ∧ error.orderAckOnly then
    let acceptedClientOrderId :=
      if error.acceptedClientOrderId = "" then clientOrderId else error.acceptedClientOrderId
    let (status, look) := { work with task := task, side := sized.side }.resolveAcceptedOrder
    let evidence := { evidence with
      acceptedLook := look, executed := evidence.executed ++ status.executed }
    match status with
    | .filled quantity =>
      { outcome := .left .submittedFill (successorOf work sized task.clearAcceptedGap quantity)
        notes := notes
        evidence := evidence }
    | .liveFlat => { outcome := .left .submittedFlat none, notes := notes, evidence := evidence }
    | _ =>
      let retained := work.retainGap task status error.acceptedOrderId acceptedClientOrderId
      { outcome := .retained retained
        notes := notes ++ [failed retained.lastError]
        evidence := evidence }
  else
    let (rescheduled, paused) := task.reschedule work.nowMs error.text
    match blocking with
    | some "residual_repair_duplicate_live_nonzero_blocked" =>
      let reason := "residual_repair_duplicate_live_nonzero_blocked"
      { outcome := .retained { rescheduled with lastError := reason } (some reason)
        notes := notes ++ paused ++
          [⟨"recovery.residual_repair_duplicate_live_nonzero_blocked", reason⟩, failed error.text]
        evidence := evidence }
    | _ =>
      { outcome := .retained rescheduled
        notes := notes ++ paused ++ [failed error.text]
        evidence := evidence }

/-- A fill that the venue answered. -/
def afterFill (task : RepairTask) (executed : ExactFloat) (notes : List RepairNote)
    (evidence : RepairEvidence) : RepairDecision :=
  { outcome := .left .filled (successorOf work sized task executed)
    notes := notes
    evidence := { evidence with executed := evidence.executed ++ [executed] } }

/-- `_residual_repair_client_order_id`. -/
def repairClientOrderId (positionId : String) (duplicateAttempt : Int) : String :=
  work.env.compactClientOrderId positionId
    (if duplicateAttempt ≤ 0 then "residual_repair"
    else "residual_repair_duplicate_" ++ toString duplicateAttempt)

def orderRequest (quantity : ExactFloat) (clientOrderId : String) : OrderRequest where
  venue := work.venue
  symbol := work.task.symbol
  side := sized.side
  quantity := quantity
  clientOrderId := clientOrderId

/-- The client order id was refused: the venue is asked what became of it. -/
def afterDuplicate (task : RepairTask) (quantity : ExactFloat) (clientOrderId : String)
    (currentAttempt : Int) (error : RepairSubmitError) (notes : List RepairNote)
    (evidence : RepairEvidence) : RepairDecision :=
  let found := resolveDuplicateConflict clientOrderId quantity
    (work.answers.refusedReconciliation.map (Option.map AcceptedReconciliation.toOrderFillReconciliation))
    (work.answers.refusedPosition.map (Option.map LivePosition.toPositionSnapshot))
  let notes := notes ++ [⟨"order.reconcile_result", ""⟩,
    ⟨"recovery.residual_repair_duplicate_client_order_reconcile_result", error.text⟩]
  let evidence := { evidence with
    refusedPosition :=
      match work.answers.refusedPosition with
      | .ok position => some position
      | .error _ => none
    executed := evidence.executed ++
      match work.answers.refusedReconciliation with
      | .ok (some reconciliation) => [positiveFloat reconciliation.quantity]
      | _ => [] }
  if found.clearState then
    { outcome := .left .duplicateCleared none, notes := notes, evidence := evidence }
  else if found.shouldRetryWithNewClientId then
    let retryQuantity :=
      if flatDust.lt found.liveQty then found.retryQty.min found.liveQty else found.retryQty
    let firstAttempt := max (task.attempts + 1) (currentAttempt + 1)
    let duplicateAttempt :=
      if work.repairClientOrderId task.positionId firstAttempt = clientOrderId then
        firstAttempt + 1
      else firstAttempt
    let retry := work.orderRequest sized retryQuantity
      (work.repairClientOrderId task.positionId duplicateAttempt)
    let evidence := { evidence with sent := evidence.sent ++ [retry] }
    match work.answers.retryOrder with
    | .ok fill => work.afterFill sized task fill.quantity notes evidence
    | .error retryError =>
      if isDuplicateClientOrderError work.venue retryError.text retryError.answerTexts ∧
          flatDust.lt found.liveQty then
        let reason := if 3 ≤ task.attempts + 1 then
            "residual_repair_duplicate_live_nonzero_blocked"
          else "residual_repair_duplicate_live_nonzero_retry_failed"
        let renamed := { task with
          nextClientOrderId := work.repairClientOrderId task.positionId (duplicateAttempt + 1)
          nextDuplicateAttempt := some (duplicateAttempt + 1) }
        work.afterSubmitError sized renamed clientOrderId { failureClass := none, text := reason }
          (some reason) notes evidence
      else work.afterSubmitError sized task clientOrderId retryError none notes evidence
  else work.afterSubmitError sized task clientOrderId error none notes evidence

/-- One reduce-only order for the excess. -/
def submitRepair (quantity : ExactFloat) : RepairDecision :=
  let resumed : List RepairNote := if work.givesUp then
    [⟨"execution.residual_repair_resumed", sized.task.lastError⟩] else []
  let currentAttempt := sized.task.nextDuplicateAttempt.getD sized.task.attempts
  let clientOrderId := if sized.task.nextClientOrderId = "" then
    work.repairClientOrderId sized.task.positionId currentAttempt
    else sized.task.nextClientOrderId
  let task := { sized.task with nextClientOrderId := "", nextDuplicateAttempt := none }
  let notes := sized.notes ++ resumed
  let evidence : RepairEvidence :=
    { sized.evidence with sent := [work.orderRequest sized quantity clientOrderId] }
  match work.answers.placeOrder with
  | .ok fill => work.afterFill sized task fill.quantity notes evidence
  | .error error =>
    if isDuplicateClientOrderError work.venue error.text error.answerTexts then
      work.afterDuplicate sized task quantity clientOrderId currentAttempt error notes evidence
    else work.afterSubmitError sized task clientOrderId error none notes evidence

end Submitting

/-! Dust -/

section Dust

variable [TextCase] (work : RepairWork) (sized : SizedRepair)

/-- The matched quantity that an entry's residual is compared with. -/
def toleratedAgainst : ExactFloat :=
  if sized.task.origin = "entry_open" then
    match work.positions.find? sized.task.positionId with
    | some position => position.matchedQuantity.abs
    | none => .finite 0
  else .finite 0

/-- Dust of an entry beyond two percent of the matched quantity. -/
def overTolerance : Bool :=
  flatDust.lt (work.toleratedAgainst sized) &&
    (ExactFloat.finite (2 / 100 + 1 / 10 ^ 12)).lt
      (sized.excess.abs.div (work.toleratedAgainst sized))

def dustPaused : RepairDecision :=
  let marked := { sized.task with lastError := "entry_residual_dust_over_tolerance" }
  { outcome := .retained (marked.pause work.nowMs)
    notes := sized.notes ++ [marked.pauseNote work.nowMs]
    evidence := sized.evidence }

/-- `_terminalize_residual_repair_task`. -/
def terminalized (exit : RepairExit) (quantity : ExactFloat) : RepairDecision :=
  let matched := match work.positions.find? sized.task.positionId with
    | some position => position.matchedQuantity
    | none => .finite 0
  let tolerated := sized.task.origin = "entry_open" ∧ flatDust.lt matched ∧
    (quantity.abs.div matched).le (.finite (2 / 100 + 1 / 10 ^ 12))
  { outcome := .left exit none
    notes := sized.notes
    evidence := sized.evidence
    laterNotes := if tolerated then
      [⟨"execution.entry_residual_dust_tolerated", exit.result⟩] else [] }

/-- The price of the live position. -/
def livePrice : ExactFloat :=
  match sized.look.positionOf work.venue with
  | some position => position.entryPrice.abs
  | none => .finite 0

/-- The order would be below the venue's minimum notional. -/
def belowMinNotional (quantity : ExactFloat) : Bool :=
  let minNotional := work.env.venueMinNotional work.venue sized.task.symbol
  (ExactFloat.finite 0).lt minNotional && (ExactFloat.finite 0).lt (work.livePrice sized) &&
    ((quantity.mul (work.livePrice sized)).add (.finite (1 / 10 ^ 12))).lt minNotional &&
    !work.venue.reduceOnlyCloseExemptsMinNotional

/-- The quantity of the order is dust, or it is sent. -/
def sendUnlessDust (quantity : ExactFloat) : RepairDecision :=
  if quantity.le flatDust then
    if work.venue = .okx then
      if work.overTolerance sized then work.dustPaused sized
      else work.terminalized sized .minQuantityDust sized.excess
    else
      let (rescheduled, paused) := sized.task.reschedule work.nowMs "normalized_repair_quantity_zero"
      { outcome := .retained rescheduled
        notes := sized.notes ++ paused ++ [failed "normalized_repair_quantity_zero"]
        evidence := sized.evidence }
  else if work.belowMinNotional sized quantity then
    if work.overTolerance sized then work.dustPaused sized
    else work.terminalized sized .minNotionalDust quantity
  else work.submitRepair sized quantity

/-- The excess as the adapter normalizes it. -/
def normalizeAndSend : RepairDecision :=
  match work.answers.normalizeQuantity with
  | none => work.sendUnlessDust sized sized.excess
  | some (.ok quantity) => work.sendUnlessDust sized quantity
  | some (.error text) =>
    let (rescheduled, paused) := sized.task.reschedule work.nowMs text
    { outcome := .retained rescheduled
      notes := sized.notes ++ paused ++ [failed text]
      evidence := sized.evidence }

/-! Sizing -/

/-- Nothing can be concluded from the look: pause or try again. -/
def hold (error : String) (look : RepairLook) : RepairDecision :=
  let evidence : RepairEvidence := { look := some look }
  if work.givesUp then
    let marked := { work.task with lastError := error }
    { outcome := .retained (marked.pause work.nowMs)
      notes := [marked.pauseNote work.nowMs]
      evidence := evidence }
  else
    let (rescheduled, paused) := work.task.reschedule work.nowMs error
    { outcome := .retained rescheduled, notes := paused, evidence := evidence }

end Dust

/-- The excess of the live position, or the live position itself when the task's own is gone. -/
def sizeFromLook [TextCase] (work : RepairWork) (look : RepairLook) : RepairDecision :=
  let liveSize := signedPositionSize (look.positionOf work.venue)
  let excess := liveExcess work.side liveSize work.baseline
  let hasLocalPosition := work.positions.contains work.task.positionId
  let allFlat := look.positions.all (fun probed => (signedPositionSize probed.2).abs.le flatDust)
  if excess.le flatDust then
    if look.openOrderCount > 0 then work.hold "residual_repair_live_open_orders_present" look
    else if !hasLocalPosition ∧ flatDust.lt liveSize.abs then
      let side : Side := if (ExactFloat.finite 0).lt liveSize then .sell else .buy
      work.normalizeAndSend
        { task := { work.task with
            repairSide := side.repairText
            repairQuantity := some liveSize.abs }
          side := side
          excess := liveSize.abs
          look := look
          notes := [⟨"execution.residual_repair_side_rebuilt_from_live_truth", ""⟩] }
    else if !hasLocalPosition ∧ !allFlat then
      work.hold "residual_repair_live_position_nonzero" look
    else { outcome := .left .alreadyFlat none, evidence := { look := some look } }
  else
    work.normalizeAndSend { task := work.task, side := work.side, excess := excess, look := look }

/-- The first look at the venues. -/
def lookAndRepair [TextCase] (work : RepairWork) : RepairDecision :=
  match takeLook work.answers.look work.probes {} with
  | .ok look => work.sizeFromLook look
  | .error text =>
    let error := "residual_repair_live_truth_untrusted:" ++ text
    if work.givesUp then
      let marked := { work.task with lastError := error }
      { outcome := .retained (marked.pause work.nowMs)
        notes := [failed error, marked.pauseNote work.nowMs] }
    else
      let (rescheduled, paused) := work.task.reschedule work.nowMs error
      { outcome := .retained rescheduled, notes := paused ++ [failed error] }

def adapterMissing (work : RepairWork) : RepairDecision :=
  if work.givesUp then
    { outcome := .retained (work.task.pause work.nowMs)
      notes := [work.task.pauseNote work.nowMs] }
  else
    let (rescheduled, paused) := work.task.reschedule work.nowMs "adapter_missing"
    { outcome := .retained rescheduled, notes := paused ++ [failed "adapter_missing"] }

end RepairWork

section Pass

variable [TextCase] (env : RepairEnvironment) (nowMs : Int)
  (positions : OrderedDict String OpenPosition)

/-- The loop's body for one task. -/
def workOnRepair (answers : RepairAnswers) (task : RepairTask) : RepairDecision :=
  match task.fields with
  | none =>
    { outcome := .invalid, notes := [⟨"recovery.residual_repair_invalid_removed", ""⟩] }
  | some (venue, side, quantity) =>
    let work : RepairWork :=
      { env := env
        nowMs := nowMs
        positions := positions
        answers := answers
        task := task
        venue := venue
        side := side
        baseline := repairBaseline positions task.positionId venue
        probes := task.probeVenues env venue }
    if 0 < task.nextAttemptMs ∧ nowMs < task.nextAttemptMs then { outcome := .waiting }
    else if !env.hasAdapter venue then work.adapterMissing
    else if task.acceptedOrderId ≠ "" ∨ task.acceptedClientOrderId ≠ "" then
      work.reconcileAccepted quantity
    else work.lookAndRepair

/-! ## The pass -/

/-- An element of `live_recovery_reduce_only_pairs`. -/
inductive GateItem where
  | gate (gate : PairGate)
  /-- Not a dictionary, and without the fields of one. -/
  | other (value : String)
deriving DecidableEq

/-- The task lets go of the gate: it has its pair, or its symbol when the task names no pair. -/
def GateItem.releasedBy (pairId symbol : String) : GateItem → Bool
  | .gate held => if pairId ≠ "" then held.pairId = pairId else symbol ≠ "" ∧ held.symbol = symbol
  | .other _ => false

/-- The gates that a completion is filed with. -/
def GateItem.filedUnder (pairId symbol : String) : GateItem → Bool
  | .gate held => if pairId ≠ "" then held.pairId = pairId else held.symbol = symbol
  | .other _ => false

def RepairItem.filedUnder (scope : RepairScope) : RepairItem → Bool
  | .task repair => repair.scope = scope
  | .other _ => false

/-- `_release_residual_repair_pair_gate`. -/
def releasePairGate (pairId symbol : String) (gates : List GateItem) : List GateItem :=
  gates.filter (fun gate => !gate.releasedBy pairId symbol)

/-- A record of the journal. What remains of a scope comes with a completion only. -/
structure RepairRecord where
  kind : String
  scope : RepairScope
  result : String := ""
  remaining : Option (List RepairItem × List GateItem) := none

structure RepairState where
  pendingResidualRepairs : List RepairItem
  liveRecoveryReduceOnlyPairs : List GateItem

/-- A pass in its middle: the tasks that were worked on and stay, and the successors. -/
structure RepairPass where
  kept : List RepairItem := []
  appended : List RepairItem := []
  gates : List GateItem
  journal : List RepairRecord := []
  /-- The reason the engine was blocked with. -/
  blocked : Option String := none

namespace RepairPass

def note (pass : RepairPass) (task : RepairTask) (notes : List RepairNote) : RepairPass :=
  { pass with journal := pass.journal ++
      notes.map (fun note => ⟨note.kind, task.scope, note.text, none⟩) }

/-- The task leaves; its completion carries what remains of its scope and its gates. -/
def complete (pass : RepairPass) (task : RepairTask) (rest : List RepairItem) (exit : RepairExit)
    (successor : Option RepairTask) : RepairPass :=
  let appended := pass.appended ++ successor.toList.map RepairItem.task
  let gates := if successor.isSome then pass.gates
    else releasePairGate task.pairId task.symbol pass.gates
  { pass with
    appended := appended
    gates := gates
    journal := pass.journal ++ [
      { kind := exit.kind
        scope := task.scope
        result := exit.result
        remaining := some (
          (pass.kept ++ rest ++ appended).filter (RepairItem.filedUnder task.scope),
          gates.filter (GateItem.filedUnder task.pairId task.symbol)) }] }

/-- One turn of the loop; `rest` is still to come. -/
def step (answers : RepairAnswers) (rest : List RepairItem) (pass : RepairPass) :
    RepairItem → RepairPass
  | .other value => { pass with kept := pass.kept ++ [.other value] }
  | .task task =>
    let decision := workOnRepair env nowMs positions answers task
    let noted := pass.note task decision.notes
    match decision.outcome with
    | .waiting => { noted with kept := pass.kept ++ [.task task] }
    | .invalid => noted
    | .retained changed blocked =>
      { noted with kept := pass.kept ++ [.task changed], blocked := blocked.or pass.blocked }
    | .left exit successor =>
      (noted.complete task rest exit successor).note task decision.laterNotes

/-- The loop over the tasks that were pending; each has its answers. -/
def run : (Nat → RepairAnswers) → List RepairItem → RepairPass → RepairPass
  | _, [], pass => pass
  | answers, item :: rest, pass =>
    run (fun index => answers (index + 1)) rest
      (step env nowMs positions (answers 0) rest pass item)

def state (pass : RepairPass) : RepairState :=
  ⟨pass.kept ++ pass.appended, pass.gates⟩

end RepairPass

/-- `recover_residual_repairs`, up to the recovery decision. -/
def recoverResidualRepairs (answers : Nat → RepairAnswers) (state : RepairState) : RepairPass :=
  RepairPass.run env nowMs positions answers state.pendingResidualRepairs
    { gates := state.liveRecoveryReduceOnlyPairs }

end Pass

end LightFee.Engine
