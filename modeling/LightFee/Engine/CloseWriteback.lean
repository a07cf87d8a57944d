import LightFee.Engine.CloseAccounting

/-!
# Writing a close back

What `execute_close` does with the fills it collected: it registers a reconciliation
when evidence for the bill is missing, records one-sided exposure as a repair, reduces
the position, registers the uncertain legs, and appends its events to the journal.

The position is the object that the state holds under its id, so both change together.
Repairs that a close records are kept typed, behind the stored ones: their quantities
are computed and have no literal.
-/

namespace LightFee.Engine

open LightFee.Venues DynValue

/-! ## Journal and state -/

inductive PayloadValue where
  | text (value : String)
  | int (value : Int)
  | number (value : ExactFloat)
  | bool (value : Bool)
  | texts (values : List String)
  /-- A decoded value, such as a whole reconciliation record. -/
  | record (value : DynValue)

/-- A record of the journal. -/
structure CloseRecord where
  kind : String
  payload : List (String × PayloadValue) := []

def CloseRecord.get? (record : CloseRecord) (key : String) : Option PayloadValue :=
  OrderedDict.lookupEntries key record.payload

structure CloseState where
  runtime : RuntimeState
  /-- Repairs recorded by closes, behind `pending_residual_repairs`. -/
  newRepairs : List ResidualExposureTask := []
  /-- What the call appended, oldest first. -/
  journal : List CloseRecord := []

namespace CloseState

def append (state : CloseState) (kind : String) (payload : List (String × PayloadValue)) :
    CloseState :=
  { state with journal := state.journal ++ [⟨kind, payload⟩] }

def setEngine (state : CloseState) (engine : EngineState) : CloseState :=
  { state with runtime := { state.runtime with engine := engine } }

def enqueueReconciliation (state : CloseState) (item : DynValue) : CloseState :=
  { state with
    runtime := { state.runtime with
      pendingCloseReconciliations :=
        enqueuePendingCloseReconciliation (.list state.runtime.pendingCloseReconciliations) item } }

/-- The state after its position changed in place. -/
def putPosition (state : CloseState) (position : OpenPosition) : CloseState :=
  if state.runtime.engine.openPositions.contains position.positionId then
    state.setEngine { state.runtime.engine with
      openPositions := state.runtime.engine.openPositions.insert position.positionId position }
  else state

def popPosition (state : CloseState) (positionId : String) : CloseState :=
  state.setEngine { state.runtime.engine with
    openPositions := state.runtime.engine.openPositions.erase positionId }

end CloseState

/-! ## What the submissions left behind -/

/-- Fills, submitted ids and unconfirmed submissions of all chunks. -/
structure CollectedClose where
  shortLegs : List CloseExecutionLeg := []
  longLegs : List CloseExecutionLeg := []
  chunkShortCids : List String := []
  chunkLongCids : List String := []
  chunkShortOrderIds : List String := []
  chunkLongOrderIds : List String := []
  anyShortUncertain : Bool := false
  anyLongUncertain : Bool := false
  unresolvedShortClientOrderIds : List String := []
  unresolvedLongClientOrderIds : List String := []
  unresolvedShortSubmissionIdentities : List (String × String) := []
  unresolvedLongSubmissionIdentities : List (String × String) := []

/-- `unresolved_submission_legs`. -/
def CollectedClose.unresolvedSubmissionLegs (collected : CollectedClose) : List String :=
  (if collected.anyLongUncertain || !collected.unresolvedLongSubmissionIdentities.isEmpty then
    ["long"] else []) ++
  (if collected.anyShortUncertain || !collected.unresolvedShortSubmissionIdentities.isEmpty then
    ["short"] else [])

/-- What a call of `execute_close` is asked for. -/
structure CloseCall where
  reason : String
  nowMs : Int
  totalChunks : Nat := 1
  deadlineMs : Int := 30000

def CloseCall.closeId (call : CloseCall) (position : OpenPosition) : String :=
  "close-" ++ position.positionId ++ "-" ++ toString call.nowMs

/-! ## Registration -/

def CollectedClose.longRecords (collected : CollectedClose) (position : OpenPosition) :
    SubmissionRecords :=
  appendUnresolvedIdentities position.longVenue (closeReconciliationLegRecords collected.longLegs)
    collected.unresolvedLongClientOrderIds collected.unresolvedLongSubmissionIdentities

def CollectedClose.shortRecords (collected : CollectedClose) (position : OpenPosition) :
    SubmissionRecords :=
  appendUnresolvedIdentities position.shortVenue
    (closeReconciliationLegRecords collected.shortLegs)
    collected.unresolvedShortClientOrderIds collected.unresolvedShortSubmissionIdentities

/-- A close that leaves nothing on either leg is final. -/
def closeKind (position : OpenPosition) (longClosed shortClosed : ExactFloat) : String :=
  if ((position.longQuantity.sub longClosed).max (.finite 0)).le fillDust &&
      ((position.shortQuantity.sub shortClosed).max (.finite 0)).le fillDust then "final"
  else "partial"

/-- The reconciliation that keeps the identities of a close. -/
def closeReconciliation (position : OpenPosition) (collected : CollectedClose) (call : CloseCall)
    (tickCount : Int) (source : String) : DynValue :=
  let longClosed := closedQuantity collected.longLegs
  let shortClosed := closedQuantity collected.shortLegs
  let longRecords := collected.longRecords position
  let shortRecords := collected.shortRecords position
  let kind := closeKind position longClosed shortClosed
  let owned (quantity closed : ExactFloat) :=
    if kind = "final" then quantity.max (.finite 0) else closed
  let missing := missingIdentityLegs (owned position.longQuantity longClosed)
    (owned position.shortQuantity shortClosed) longRecords.records shortRecords.records
  let unresolved := (if longRecords.appended then [DynValue.str "long"] else []) ++
    (if shortRecords.appended then [DynValue.str "short"] else [])
  .dict ([("position_id", .str position.positionId), ("symbol", .str position.symbol),
    ("kind", .str kind), ("reason", .str call.reason), ("source", .str source),
    ("closed_at_ms", .int call.nowMs), ("created_cycle", .int tickCount),
    ("position_snapshot", closeReconciliationPositionSnapshot position),
    ("long_legs", .list longRecords.records), ("short_legs", .list shortRecords.records),
    ("attempt_count", .int 0), ("next_attempt_ms", .int call.nowMs),
    ("billing_reconciliation_required", .bool true)] ++
    (if unresolved.isEmpty then [] else [("unresolved_submission_legs", .list unresolved)]) ++
    [("missing_close_order_identity", .bool (!missing.isEmpty)),
      ("reconciliation_mode",
        .str (if missing.isEmpty then "order_identity" else "venue_execution_history_required"))])

def registerCloseAccountingReconciliation (state : CloseState) (position : OpenPosition)
    (collected : CollectedClose) (call : CloseCall) (source : String)
    (evidenceGaps : List String) : CloseState :=
  let reconciliation :=
    closeReconciliation position collected call state.runtime.tickCount source
  (state.append "exit.pending_close_reconciliation_registered"
    [("position_id", .text position.positionId), ("symbol", .text position.symbol),
      ("source", .text source), ("accounting_evidence_gaps", .texts evidenceGaps),
      ("reconciliation", .record reconciliation)]).enqueueReconciliation reconciliation

/-! ## Repairs -/

/-- The stored task has the residual's position, pair and origin. -/
def sameRepair (task : DynValue) (residual : ResidualExposureTask) : Bool :=
  task.isMapping && isText (task.get "position_id") residual.positionId &&
    isText (task.get "pair_id") residual.pairId && isText (task.get "origin") residual.origin.value

/-- A task replaces the ones of its position, pair and origin. -/
def CloseState.recordRepair (state : CloseState) (residual : ResidualExposureTask) : CloseState :=
  let engine := state.runtime.engine
  { state.setEngine { engine with
      pendingResidualRepairs := engine.pendingResidualRepairs.filter (fun task =>
        !sameRepair task residual) } with
    newRepairs := state.newRepairs.filter (fun task =>
      !(decide (task.positionId = residual.positionId) && decide (task.pairId = residual.pairId) &&
        decide (task.origin = residual.origin))) ++ [residual] }

/-! ## Write-back -/

/-- `_legs_to_records`. -/
def legsToRecords (legs : List CloseExecutionLeg) : List CloseLegRecord :=
  legs.map (fun leg =>
    { venue := leg.fill.venue.value
      orderId := leg.fill.orderId
      clientOrderId := leg.clientOrderId
      quantity := leg.fill.quantity
      averagePrice := leg.fill.price
      feeQuote := leg.fill.feeQuote })

/-- Quantities after a close: the matched one falls by what both legs closed. -/
def reduceQuantities (position : OpenPosition) (longClosed shortClosed : ExactFloat) :
    OpenPosition :=
  { position with
    matchedQuantity :=
      (position.matchedQuantity.sub (longClosed.min shortClosed)).max (.finite 0)
    longQuantity := (position.longQuantity.sub longClosed).max (.finite 0)
    shortQuantity := (position.shortQuantity.sub shortClosed).max (.finite 0) }

def isProtection (reason : String) : Bool :=
  TextSearch.occursIn "single_side_protection" reason ||
    TextSearch.occursIn "death_protection" reason || TextSearch.startsWith "protection_" reason ||
    TextSearch.startsWith "risk_protection" reason

/-- Results of a close with complete evidence. -/
def attributeResult (position : OpenPosition) (close : CloseExecution) (reason : String) :
    OpenPosition :=
  let fees := close.longFeeQuote.add close.shortFeeQuote
  let realized := { position with
    realizedPricePnlQuote := position.realizedPricePnlQuote.add close.realizedPricePnlQuote
    realizedExitFeeQuote := position.realizedExitFeeQuote.add fees }
  let attributed :=
    if TextSearch.startsWith "risk_delever" reason then
      { realized with
        riskDeleverRealizedPricePnlQuote :=
          position.riskDeleverRealizedPricePnlQuote.add close.realizedPricePnlQuote
        riskDeleverRealizedExitFeeQuote := position.riskDeleverRealizedExitFeeQuote.add fees }
    else if isProtection reason then
      { realized with
        protectionRealizedPricePnlQuote :=
          position.protectionRealizedPricePnlQuote.add close.realizedPricePnlQuote
        protectionRealizedExitFeeQuote := position.protectionRealizedExitFeeQuote.add fees }
    else realized
  { attributed with currentNetQuote := position.currentNetQuote.add close.netQuote }

/-- The pending close of uncertain legs. -/
def pendingCloseOf (position : OpenPosition) (collected : CollectedClose) (call : CloseCall) :
    PendingClose :=
  { closeId := call.closeId position
    positionId := position.positionId
    reason := call.reason
    createdAtMs := call.nowMs
    longOrderId := ", ".intercalate collected.chunkLongOrderIds
    shortOrderId := ", ".intercalate collected.chunkShortOrderIds
    longClientOrderId := ", ".intercalate collected.chunkLongCids
    shortClientOrderId := ", ".intercalate collected.chunkShortCids
    longClosed := closedQuantity collected.longLegs
    shortClosed := closedQuantity collected.shortLegs
    longUncertain := collected.anyLongUncertain
    shortUncertain := collected.anyShortUncertain
    chunkIndex := 0
    totalChunks := call.totalChunks
    longLegs := legsToRecords collected.longLegs
    shortLegs := legsToRecords collected.shortLegs }

def pendingClosePayload (pending : PendingClose) : List (String × PayloadValue) :=
  [("close_id", .text pending.closeId), ("position_id", .text pending.positionId),
    ("long_uncertain", .bool pending.longUncertain),
    ("short_uncertain", .bool pending.shortUncertain),
    ("long_client_order_id", .text pending.longClientOrderId),
    ("short_client_order_id", .text pending.shortClientOrderId),
    ("chunk_count", .int pending.totalChunks)]

def CloseState.registerPendingClose (state : CloseState) (pending : PendingClose) : CloseState :=
  (state.setEngine { state.runtime.engine with
      pendingCloses := state.runtime.engine.pendingCloses.insert pending.closeId pending }).append
    "exit.pending_close_registered" (pendingClosePayload pending)

/-- Quantities below this pause the position's closes. -/
def dustQuantityThreshold : ExactFloat := .finite (1 / 10 ^ 8)

/-- The position after `_writeback_to_state`. -/
def writtenPosition (position : OpenPosition) (close : CloseExecution)
    (collected : CollectedClose) (call : CloseCall) (evidenceGaps : List String) : OpenPosition :=
  let reduced := reduceQuantities position (closedQuantity collected.longLegs)
    (closedQuantity collected.shortLegs)
  let billed := if evidenceGaps.isEmpty then attributeResult reduced close call.reason else reduced
  if !billed.matchedQuantity.lt fillDust && billed.matchedQuantity.lt dustQuantityThreshold then
    { billed with lastRiskActionAtMs := call.nowMs }
  else billed

def partialClosedPayload (position : OpenPosition) (collected : CollectedClose) (call : CloseCall)
    (closeId : String) (evidenceGaps : List String) : List (String × PayloadValue) :=
  [("position_id", .text position.positionId), ("quantity", .number position.matchedQuantity),
    ("long_quantity", .number position.longQuantity),
    ("short_quantity", .number position.shortQuantity),
    ("current_net_quote", .number position.currentNetQuote),
    ("peak_net_quote", .number position.peakNetQuote),
    ("funding_captured", .bool position.fundingCaptured),
    ("second_stage_funding_captured", .bool position.secondStageFundingCaptured),
    ("long_closed_qty", .number (closedQuantity collected.longLegs)),
    ("short_closed_qty", .number (closedQuantity collected.shortLegs)),
    ("close_id", .text closeId), ("reason", .text call.reason),
    ("terminal_accounting_status", .text (if evidenceGaps.isEmpty then "final"
      else "pending_close_accounting_reconciliation")),
    ("accounting_evidence_gaps", .texts evidenceGaps)]

/-- An uncertain leg is registered for its reconciliation. -/
def CloseState.registerUncertain (state : CloseState) (position : OpenPosition)
    (collected : CollectedClose) (call : CloseCall) : CloseState :=
  if collected.anyLongUncertain || collected.anyShortUncertain then
    state.registerPendingClose (pendingCloseOf position collected call)
  else state

/-- A close of both legs that leaves a matched quantity is announced as partial. -/
def CloseState.announcePartial (state : CloseState) (written : OpenPosition)
    (collected : CollectedClose) (call : CloseCall) (evidenceGaps : List String) : CloseState :=
  let matchedClosed := (closedQuantity collected.longLegs).min (closedQuantity collected.shortLegs)
  if fillDust.lt matchedClosed && fillDust.lt written.matchedQuantity then
    state.append "exit.partial_closed"
      (partialClosedPayload written collected call (call.closeId written) evidenceGaps)
  else state

/-- A position without matched quantity is removed, one with dust is paused. -/
def CloseState.retire (state : CloseState) (written : OpenPosition) : CloseState :=
  if written.matchedQuantity.lt fillDust then state.popPosition written.positionId
  else if written.matchedQuantity.lt dustQuantityThreshold then
    state.append "exit.close_dust_paused"
      [("position_id", .text written.positionId),
        ("remaining_quantity", .number written.matchedQuantity)]
  else state

/-- `_writeback_to_state`. -/
def writebackToState (state : CloseState) (position : OpenPosition) (close : CloseExecution)
    (collected : CollectedClose) (call : CloseCall) (evidenceGaps : List String) : CloseState :=
  let written := writtenPosition position close collected call evidenceGaps
  (((state.putPosition written).registerUncertain position collected call).announcePartial
    written collected call evidenceGaps).retire written

/-! ## The end of a close -/

def exitClosedPayload (position : OpenPosition) (close : CloseExecution)
    (collected : CollectedClose) (call : CloseCall) : List (String × PayloadValue) :=
  let attribution := buildExitPnlAttribution position close
  [("position_id", .text position.positionId), ("reason", .text call.reason),
    ("long_closed_qty", .number (closedQuantity collected.longLegs)),
    ("short_closed_qty", .number (closedQuantity collected.shortLegs)),
    ("long_uncertain", .bool collected.anyLongUncertain),
    ("short_uncertain", .bool collected.anyShortUncertain),
    ("price_pnl", .number attribution.pricePnlQuote),
    ("funding_pnl_quote", .number attribution.fundingQuote),
    ("entry_fee_quote", .number attribution.entryFeeQuote),
    ("exit_fee_quote", .number attribution.exitFeeQuote),
    ("net_quote", .number attribution.netQuote), ("close_id", .text (call.closeId position)),
    ("chunk_count", .int call.totalChunks),
    ("long_client_order_id", .text (", ".intercalate collected.chunkLongCids)),
    ("short_client_order_id", .text (", ".intercalate collected.chunkShortCids))]

/-- The flags of uncertain legs after the chunk loop. -/
def CollectedClose.settle (collected : CollectedClose) : CollectedClose :=
  { collected with
    anyShortUncertain := collected.anyShortUncertain ||
      !collected.unresolvedShortSubmissionIdentities.isEmpty
    anyLongUncertain := collected.anyLongUncertain ||
      !collected.unresolvedLongSubmissionIdentities.isEmpty }

/-- One-sided exposure after the close is recorded as a repair. -/
def CloseState.recordResidual [TextCase] (state : CloseState) (position : OpenPosition)
    (collected : CollectedClose) (call : CloseCall) : CloseState :=
  match splitCloseFillResidual position (closedQuantity collected.longLegs)
      (closedQuantity collected.shortLegs) call.nowMs (call.nowMs + call.deadlineMs) with
  | none => state
  | some residual =>
    (state.append "exit.close_residual_detected"
      [("position_id", .text position.positionId),
        ("exposure_quantity", .number residual.exposureQuantity),
        ("exposure_venue", .text residual.exposureVenue.value),
        ("close_id", .text (call.closeId position)),
        ("chunk_count", .int call.totalChunks)]).recordRepair residual

def CollectedClose.evidenceGaps (collected : CollectedClose) (position : OpenPosition) :
    List String :=
  closeAccountingEvidenceGaps position collected.longLegs collected.shortLegs
    collected.unresolvedSubmissionLegs

def CollectedClose.execution (collected : CollectedClose) (position : OpenPosition)
    (reason : String) : CloseExecution :=
  { buildCloseExecutionFromLegs position collected.shortLegs collected.longLegs with
    reason := reason }

/-- No fill is confirmed and no leg is uncertain. -/
def CollectedClose.isEmpty (collected : CollectedClose) : Bool :=
  collected.shortLegs.isEmpty && collected.longLegs.isEmpty &&
    !(collected.anyShortUncertain || collected.anyLongUncertain)

/-- A close with missing evidence leaves its bill to a reconciliation. -/
def CloseState.registerGaps (state : CloseState) (position : OpenPosition)
    (collected : CollectedClose) (call : CloseCall) (evidenceGaps : List String) : CloseState :=
  if evidenceGaps.isEmpty then state
  else registerCloseAccountingReconciliation state position collected call
    "aggressive_close_execution" evidenceGaps

/-- A close with complete evidence is billed. -/
def CloseState.announceClosed (state : CloseState) (position : OpenPosition)
    (close : CloseExecution) (collected : CollectedClose) (call : CloseCall)
    (evidenceGaps : List String) : CloseState :=
  if (fillDust.lt (closedQuantity collected.longLegs) ||
      fillDust.lt (closedQuantity collected.shortLegs)) && evidenceGaps.isEmpty then
    state.append "exit.closed" (exitClosedPayload position close collected call)
  else state

/-- `execute_close` from the end of its chunk loop: its result, the state and the
position. -/
def finishClose [TextCase] (state : CloseState) (position : OpenPosition)
    (collected : CollectedClose) (call : CloseCall) :
    Option CloseExecution × CloseState × OpenPosition :=
  let collected := collected.settle
  if collected.isEmpty then
    (none, state.append "execution.close_failed"
      [("position_id", .text position.positionId), ("symbol", .text position.symbol),
        ("reason", .text call.reason), ("error", .text "close produced no confirmed fills")],
      position)
  else
    let close := collected.execution position call.reason
    let evidenceGaps := collected.evidenceGaps position
    let registered := state.registerGaps position collected call evidenceGaps
    let repaired := registered.recordResidual position collected call
    let written := writebackToState repaired position close collected call evidenceGaps
    (some close, written.announceClosed position close collected call evidenceGaps,
      writtenPosition position close collected call evidenceGaps)

/-! ## What each step leaves alone -/

namespace CloseState

/-- The state at the start of a call. -/
def start (runtime : RuntimeState) : CloseState := { runtime := runtime }

abbrev positions (state : CloseState) : OrderedDict String OpenPosition :=
  state.runtime.engine.openPositions

@[simp] theorem append_runtime (state : CloseState) (kind : String)
    (payload : List (String × PayloadValue)) : (state.append kind payload).runtime = state.runtime :=
  rfl

@[simp] theorem append_newRepairs (state : CloseState) (kind : String)
    (payload : List (String × PayloadValue)) :
    (state.append kind payload).newRepairs = state.newRepairs := rfl

@[simp] theorem append_journal (state : CloseState) (kind : String)
    (payload : List (String × PayloadValue)) :
    (state.append kind payload).journal = state.journal ++ [⟨kind, payload⟩] := rfl

@[simp] theorem enqueue_positions (state : CloseState) (item : DynValue) :
    (state.enqueueReconciliation item).positions = state.positions := by
  rw [enqueueReconciliation]

@[simp] theorem enqueue_newRepairs (state : CloseState) (item : DynValue) :
    (state.enqueueReconciliation item).newRepairs = state.newRepairs := by
  rw [enqueueReconciliation]

@[simp] theorem register_positions (state : CloseState) (position : OpenPosition)
    (collected : CollectedClose) (call : CloseCall) (source : String) (gaps : List String) :
    (registerCloseAccountingReconciliation state position collected call source gaps).positions =
      state.positions := by
  rw [registerCloseAccountingReconciliation, enqueue_positions]
  rfl

@[simp] theorem register_newRepairs (state : CloseState) (position : OpenPosition)
    (collected : CollectedClose) (call : CloseCall) (source : String) (gaps : List String) :
    (registerCloseAccountingReconciliation state position collected call source gaps).newRepairs =
      state.newRepairs := by
  rw [registerCloseAccountingReconciliation, enqueue_newRepairs, append_newRepairs]

theorem putPosition_held (state : CloseState) (position : OpenPosition)
    (held : state.positions.contains position.positionId = true) :
    (state.putPosition position).positions =
      state.positions.insert position.positionId position := by
  rw [putPosition, if_pos held]
  rfl

@[simp] theorem putPosition_newRepairs (state : CloseState) (position : OpenPosition) :
    (state.putPosition position).newRepairs = state.newRepairs := by
  rw [putPosition]
  split_ifs <;> rfl

@[simp] theorem recordResidual_positions [TextCase] (state : CloseState) (position : OpenPosition)
    (collected : CollectedClose) (call : CloseCall) :
    (state.recordResidual position collected call).positions = state.positions := by
  rw [recordResidual]
  split <;> rfl

/-- From the start of a call its repairs are the ones that the split finds. -/
theorem recordResidual_newRepairs [TextCase] (state : CloseState) (position : OpenPosition)
    (collected : CollectedClose) (call : CloseCall) (fresh : state.newRepairs = []) :
    (state.recordResidual position collected call).newRepairs =
      (splitCloseFillResidual position (closedQuantity collected.longLegs)
        (closedQuantity collected.shortLegs) call.nowMs (call.nowMs + call.deadlineMs)).toList := by
  rw [recordResidual]
  split
  · next split =>
    rw [split, fresh]
    rfl
  · next residual split =>
    rw [split]
    simp [recordRepair, fresh]

end CloseState

namespace CloseState

@[simp] theorem registerUncertain_positions (state : CloseState) (position : OpenPosition)
    (collected : CollectedClose) (call : CloseCall) :
    (state.registerUncertain position collected call).positions = state.positions := by
  rw [registerUncertain]
  split_ifs <;> rfl

@[simp] theorem registerUncertain_newRepairs (state : CloseState) (position : OpenPosition)
    (collected : CollectedClose) (call : CloseCall) :
    (state.registerUncertain position collected call).newRepairs = state.newRepairs := by
  rw [registerUncertain]
  split_ifs <;> rfl

@[simp] theorem announcePartial_runtime (state : CloseState) (written : OpenPosition)
    (collected : CollectedClose) (call : CloseCall) (gaps : List String) :
    (state.announcePartial written collected call gaps).runtime = state.runtime := by
  rw [announcePartial]
  split_ifs <;> rfl

@[simp] theorem announcePartial_positions (state : CloseState) (written : OpenPosition)
    (collected : CollectedClose) (call : CloseCall) (gaps : List String) :
    (state.announcePartial written collected call gaps).positions = state.positions := by
  rw [positions, announcePartial_runtime]

@[simp] theorem announcePartial_newRepairs (state : CloseState) (written : OpenPosition)
    (collected : CollectedClose) (call : CloseCall) (gaps : List String) :
    (state.announcePartial written collected call gaps).newRepairs = state.newRepairs := by
  rw [announcePartial]
  split_ifs <;> rfl

theorem retire_positions (state : CloseState) (written : OpenPosition) :
    (state.retire written).positions =
      if written.matchedQuantity.lt fillDust then state.positions.erase written.positionId
      else state.positions := by
  rw [retire]
  split_ifs <;> rfl

@[simp] theorem retire_newRepairs (state : CloseState) (written : OpenPosition) :
    (state.retire written).newRepairs = state.newRepairs := by
  rw [retire]
  split_ifs <;> rfl

@[simp] theorem registerGaps_positions (state : CloseState) (position : OpenPosition)
    (collected : CollectedClose) (call : CloseCall) (gaps : List String) :
    (state.registerGaps position collected call gaps).positions = state.positions := by
  rw [registerGaps]
  split_ifs
  · rfl
  · rw [register_positions]

@[simp] theorem registerGaps_newRepairs (state : CloseState) (position : OpenPosition)
    (collected : CollectedClose) (call : CloseCall) (gaps : List String) :
    (state.registerGaps position collected call gaps).newRepairs = state.newRepairs := by
  rw [registerGaps]
  split_ifs
  · rfl
  · rw [register_newRepairs]

@[simp] theorem announceClosed_runtime (state : CloseState) (position : OpenPosition)
    (close : CloseExecution) (collected : CollectedClose) (call : CloseCall) (gaps : List String) :
    (state.announceClosed position close collected call gaps).runtime = state.runtime := by
  rw [announceClosed]
  split_ifs <;> rfl

@[simp] theorem announceClosed_newRepairs (state : CloseState) (position : OpenPosition)
    (close : CloseExecution) (collected : CollectedClose) (call : CloseCall) (gaps : List String) :
    (state.announceClosed position close collected call gaps).newRepairs = state.newRepairs := by
  rw [announceClosed]
  split_ifs <;> rfl

end CloseState

@[simp] theorem attributeResult_id (position : OpenPosition) (close : CloseExecution)
    (reason : String) : (attributeResult position close reason).positionId = position.positionId := by
  rw [attributeResult]
  split_ifs <;> rfl

@[simp] theorem writtenPosition_id (position : OpenPosition) (close : CloseExecution)
    (collected : CollectedClose) (call : CloseCall) (gaps : List String) :
    (writtenPosition position close collected call gaps).positionId = position.positionId := by
  rw [writtenPosition]
  split_ifs <;> simp [reduceQuantities]

@[simp] theorem attributeResult_quantities (position : OpenPosition) (close : CloseExecution)
    (reason : String) :
    (attributeResult position close reason).matchedQuantity = position.matchedQuantity ∧
      (attributeResult position close reason).longQuantity = position.longQuantity ∧
      (attributeResult position close reason).shortQuantity = position.shortQuantity := by
  rw [attributeResult]
  split_ifs <;> exact ⟨rfl, rfl, rfl⟩

theorem writtenPosition_quantities (position : OpenPosition) (close : CloseExecution)
    (collected : CollectedClose) (call : CloseCall) (gaps : List String) :
    let reduced := reduceQuantities position (closedQuantity collected.longLegs)
      (closedQuantity collected.shortLegs)
    (writtenPosition position close collected call gaps).matchedQuantity =
        reduced.matchedQuantity ∧
      (writtenPosition position close collected call gaps).longQuantity = reduced.longQuantity ∧
      (writtenPosition position close collected call gaps).shortQuantity =
        reduced.shortQuantity := by
  rw [writtenPosition]
  split_ifs <;> first | exact attributeResult_quantities _ close call.reason | exact ⟨rfl, rfl, rfl⟩

/-- The write-back removes the position or replaces it by the written one. -/
theorem writeback_positions (state : CloseState) (position : OpenPosition) (close : CloseExecution)
    (collected : CollectedClose) (call : CloseCall) (gaps : List String)
    (held : state.positions.contains position.positionId = true) :
    (writebackToState state position close collected call gaps).positions =
      let written := writtenPosition position close collected call gaps
      if written.matchedQuantity.lt fillDust then
        (state.positions.insert position.positionId written).erase position.positionId
      else state.positions.insert position.positionId written := by
  have put := CloseState.putPosition_held state
    (writtenPosition position close collected call gaps)
    (by rw [writtenPosition_id]; exact held)
  rw [writebackToState, CloseState.retire_positions, CloseState.announcePartial_positions,
    CloseState.registerUncertain_positions, put, writtenPosition_id]

@[simp] theorem writeback_newRepairs (state : CloseState) (position : OpenPosition)
    (close : CloseExecution) (collected : CollectedClose) (call : CloseCall) (gaps : List String) :
    (writebackToState state position close collected call gaps).newRepairs = state.newRepairs := by
  simp [writebackToState]

/-- The position as a close leaves it. -/
def CollectedClose.written (collected : CollectedClose) (position : OpenPosition)
    (call : CloseCall) : OpenPosition :=
  writtenPosition position (collected.execution position call.reason) collected call
    (collected.evidenceGaps position)

/-- Only legs of unconfirmed submissions and fills without evidence leave gaps. -/
theorem evidenceGaps_nil_iff (collected : CollectedClose) (position : OpenPosition) :
    collected.evidenceGaps position = [] ↔
      collected.unresolvedSubmissionLegs = [] ∧
      isPositivePrice position.longEntryPrice = true ∧
      isPositivePrice position.shortEntryPrice = true ∧
      position.entryFeeEvidenceComplete = true ∧
      legEvidenceGaps "long" collected.longLegs = [] ∧
      legEvidenceGaps "short" collected.shortLegs = [] := by
  have labels : collected.unresolvedSubmissionLegs.filter
      (fun label => label = "long" ∨ label = "short") = collected.unresolvedSubmissionLegs := by
    rw [CollectedClose.unresolvedSubmissionLegs]
    split_ifs <;> rfl
  simp only [CollectedClose.evidenceGaps, closeAccountingEvidenceGaps, labels,
    List.append_eq_nil_iff, List.map_eq_nil_iff, ite_eq_left_iff, List.cons_ne_nil, imp_false,
    not_not, and_assoc]

theorem unresolved_nil_iff (collected : CollectedClose) :
    collected.unresolvedSubmissionLegs = [] ↔
      collected.anyLongUncertain = false ∧
      collected.unresolvedLongSubmissionIdentities = [] ∧
      collected.anyShortUncertain = false ∧
      collected.unresolvedShortSubmissionIdentities = [] := by
  simp only [CollectedClose.unresolvedSubmissionLegs, List.append_eq_nil_iff, ite_eq_right_iff,
    List.cons_ne_nil, imp_false, Bool.not_eq_true, Bool.or_eq_false_iff, List.isEmpty_iff,
    Bool.not_eq_eq_eq_not, Bool.not_false, and_assoc]

section Finish

variable [TextCase] (state : CloseState) (position : OpenPosition) (collected : CollectedClose)
  (call : CloseCall)

theorem finishClose_empty (nothing : collected.settle.isEmpty = true) :
    (finishClose state position collected call).2.1.positions = state.positions ∧
      (finishClose state position collected call).2.1.newRepairs = state.newRepairs := by
  rw [finishClose, if_pos nothing]
  exact ⟨rfl, rfl⟩

theorem finishClose_positions (something : collected.settle.isEmpty = false)
    (held : state.positions.contains position.positionId = true) :
    (finishClose state position collected call).2.1.positions =
      if (collected.settle.written position call).matchedQuantity.lt fillDust then
        (state.positions.insert position.positionId
          (collected.settle.written position call)).erase position.positionId
      else state.positions.insert position.positionId (collected.settle.written position call) := by
  rw [finishClose, if_neg (by rw [something]; decide), CloseState.positions,
    CloseState.announceClosed_runtime]
  have written := writeback_positions
    ((state.registerGaps position collected.settle call
      (collected.settle.evidenceGaps position)).recordResidual position collected.settle call)
    position (collected.settle.execution position call.reason) collected.settle call
    (collected.settle.evidenceGaps position)
    (by rw [CloseState.recordResidual_positions, CloseState.registerGaps_positions]; exact held)
  rw [CloseState.recordResidual_positions, CloseState.registerGaps_positions] at written
  exact written

/-- The position under every id: the closed one is written or removed. -/
theorem finishClose_find (something : collected.settle.isEmpty = false)
    (held : state.positions.contains position.positionId = true) (id : String) :
    (finishClose state position collected call).2.1.positions.find? id =
      if position.positionId = id then
        (if (collected.settle.written position call).matchedQuantity.lt fillDust then none
          else some (collected.settle.written position call))
      else state.positions.find? id := by
  rw [finishClose_positions state position collected call something held]
  split_ifs with gone same same
  · rw [OrderedDict.find_erase, if_pos same]
  · rw [OrderedDict.find_erase, if_neg same, OrderedDict.find_insert, if_neg same]
  · rw [OrderedDict.find_insert, if_pos same]
  · rw [OrderedDict.find_insert, if_neg same]

/-- From the start of a call its new repairs are the ones that the split finds. -/
theorem finishClose_newRepairs (something : collected.settle.isEmpty = false)
    (fresh : state.newRepairs = []) :
    (finishClose state position collected call).2.1.newRepairs =
      (splitCloseFillResidual position (closedQuantity collected.longLegs)
        (closedQuantity collected.shortLegs) call.nowMs (call.nowMs + call.deadlineMs)).toList := by
  rw [finishClose, if_neg (by rw [something]; decide), CloseState.announceClosed_newRepairs,
    writeback_newRepairs]
  exact CloseState.recordResidual_newRepairs _ position collected.settle call
    (by rw [CloseState.registerGaps_newRepairs]; exact fresh)

end Finish

end LightFee.Engine
