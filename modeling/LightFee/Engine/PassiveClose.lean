import LightFee.Engine.CloseWriteback

/-!
# Passive closes

A passive close works through its chunks one after the other. The maker's order of a chunk
rests on one leg, and what it fills is hedged on the other. Both fills are counted for the
chunk, and every execution is kept as a leg until the close is finalised.

The labels of the lifecycle that the events carry are left out, and so are the numbers of a
synthesised leg's event.
-/

namespace LightFee.Engine

open LightFee.Venues

/-! ## Chunks -/

namespace PendingPassiveClose

/-- An index behind the last chunk names no quantity. -/
def currentChunkQuantity (pending : PendingPassiveClose) : ExactFloat :=
  pending.chunkQuantities.getD pending.activeChunkIndex.toNat (.finite 0)

def remainingChunkQuantity (pending : PendingPassiveClose) : ExactFloat :=
  (pending.currentChunkQuantity.sub pending.makerFill.quantity).max (.finite 0)

def currentChunkSuffix (pending : PendingPassiveClose) : String :=
  if 1 < pending.chunkQuantities.length then
    "_chunk_" ++ toString (pending.activeChunkIndex + 1)
  else ""

def chunkCount (pending : PendingPassiveClose) : Nat := pending.chunkQuantities.length

def completed (pending : PendingPassiveClose) : Bool :=
  decide ((pending.chunkQuantities.length : Int) ≤ pending.activeChunkIndex)

/-- The next chunk becomes the active one. -/
def bumpChunk (pending : PendingPassiveClose) : PendingPassiveClose :=
  { pending with activeChunkIndex := pending.activeChunkIndex + 1 }

end PendingPassiveClose

/-! ## Legs -/

/-- A fee that an exchange can have named. -/
def feeEvidenceComplete (feeQuote : Option ExactFloat) : Bool := hasFeeEvidence feeQuote

/-- `_persisted_leg_fill`: a leg without evidence shows no fee. -/
def persistedLegFill (leg : PersistedCloseExecutionLeg) : Option OrderFill :=
  leg.fill.map (fun fill =>
    if leg.feeEvidenceComplete = some false then { fill with feeQuote := none } else fill)

/-- Equal fees; two missing ones are equal. -/
def sameFee : Option ExactFloat → Option ExactFloat → Bool
  | none, none => true
  | some left, some right => left.eq right
  | _, _ => false

/-- The first leg that qualifies is changed. -/
def changeFirst (qualifies : PersistedCloseExecutionLeg → Bool)
    (change : PersistedCloseExecutionLeg → PersistedCloseExecutionLeg) :
    List PersistedCloseExecutionLeg → Option (List PersistedCloseExecutionLeg)
  | [] => none
  | leg :: legs =>
    if qualifies leg then some (change leg :: legs)
    else (changeFirst qualifies change legs).map (leg :: ·)

/-- An intent without a fill that the execution may belong to. -/
def awaitsFill (fill : OrderFill) (clientOrderId : String) (leg : PersistedCloseExecutionLeg) :
    Bool :=
  decide (leg.clientOrderId = clientOrderId) && leg.fill.isNone &&
    (decide (fill.orderId = "") || decide (leg.orderId = "") ||
      decide (leg.orderId = fill.orderId))

def recordTolerance : ExactFloat := .finite (1 / 10 ^ 12)

/-- A leg that was recorded for the same order, quantity, price and time. -/
def recordsFill (fill : OrderFill) (clientOrderId : String) (leg : PersistedCloseExecutionLeg) :
    Bool :=
  match leg.fill with
  | none => false
  | some existing =>
    decide (existing.venue = fill.venue) &&
      ((decide (fill.orderId ≠ "") && decide (existing.orderId = fill.orderId)) ||
        (decide (fill.orderId = "") && decide (clientOrderId ≠ "") &&
          decide (leg.clientOrderId = clientOrderId))) &&
      (existing.quantity.sub fill.quantity).abs.le recordTolerance &&
      (existing.price.sub fill.price).abs.le recordTolerance &&
      decide (existing.filledAtMs = fill.filledAtMs)

/-- The intent of an execution takes its fill. -/
def attachFill (fill : OrderFill) (submittedAtMs : Int) (leg : PersistedCloseExecutionLeg) :
    PersistedCloseExecutionLeg :=
  { leg with
    fill := some fill
    orderId := if leg.orderId = "" then fill.orderId else leg.orderId
    feeEvidenceComplete := some (feeEvidenceComplete fill.feeQuote)
    submitStartedAtMs :=
      if leg.submitStartedAtMs = 0 then submittedAtMs else leg.submitStartedAtMs }

/-- A later observation of the same execution only brings its fee. -/
def supplyFee (fill : OrderFill) (leg : PersistedCloseExecutionLeg) : PersistedCloseExecutionLeg :=
  if sameFee (leg.fill.bind (fun existing => existing.feeQuote)) fill.feeQuote then leg
  else
    { leg with
      fill := some fill
      feeEvidenceComplete := some (feeEvidenceComplete fill.feeQuote) }

/-- `_record_close_execution_leg` on the legs of one side. -/
def recordCloseExecutionLeg (legs : List PersistedCloseExecutionLeg) (fill : OrderFill)
    (clientOrderId : String) (submittedAtMs : Int) : List PersistedCloseExecutionLeg :=
  match changeFirst (awaitsFill fill clientOrderId) (attachFill fill submittedAtMs) legs with
  | some legs => legs
  | none =>
    match changeFirst (recordsFill fill clientOrderId) (supplyFee fill) legs with
    | some legs => legs
    | none => legs ++
        [{ fill := some fill
           feeEvidenceComplete := some (feeEvidenceComplete fill.feeQuote)
           orderId := fill.orderId
           clientOrderId := clientOrderId
           submitStartedAtMs := submittedAtMs }]

namespace PendingPassiveClose

/-- The persisted legs of a side. -/
def legsOn (pending : PendingPassiveClose) : ActiveMakerLeg → List PersistedCloseExecutionLeg
  | .long => pending.longLegs
  | .short => pending.shortLegs

def setLegs (pending : PendingPassiveClose) (side : ActiveMakerLeg)
    (legs : List PersistedCloseExecutionLeg) : PendingPassiveClose :=
  match side with
  | .long => { pending with longLegs := legs }
  | .short => { pending with shortLegs := legs }

end PendingPassiveClose

/-! ## Progress of the maker -/

/-- What a venue reports of a resting order; quantity, price and fee are cumulative. -/
structure MakerProgress where
  venue : Venue
  symbol : String
  side : Side
  orderId : String
  clientOrderId : String := ""
  cumulativeQuantity : ExactFloat := .finite 0
  averagePrice : ExactFloat := .finite 0
  feeQuote : Option ExactFloat := none
  lastFillTimeMs : Int := 0
  state : PassiveOrderState := .unknown

/-- Progress below this counts as none. -/
def progressTolerance : ExactFloat := .finite (1 / 10 ^ 9)

/-- The price of a report, and the known one when it names none. -/
def cumulativePrice (known : PendingPassiveLegFill) (progress : MakerProgress) :
    ExactFloat :=
  if progress.averagePrice.isFinite && (ExactFloat.finite 0).lt progress.averagePrice then
    progress.averagePrice
  else known.averagePrice

/-- The fee of a delta, as far as both cumulative fees tell it. -/
def deltaFee (known : PendingPassiveLegFill) (progress : MakerProgress) :
    Option ExactFloat :=
  match progress.feeQuote with
  | none => none
  | some fee =>
    if !feeEvidenceComplete (some fee) then none
    else if known.quantity.le (.finite (1 / 10 ^ 12)) then some fee
    else if known.feeEvidenceComplete && known.feeQuote.le (fee.add (.finite (1 / 10 ^ 12))) then
      some ((fee.sub known.feeQuote).max (.finite 0))
    else none

/-- The execution that a report adds to the known fill. -/
def progressDelta (known : PendingPassiveLegFill) (progress : MakerProgress)
    (clientOrderId : String) (nowMs : Int) : OrderFill :=
  let price := cumulativePrice known progress
  let deltaQty := progress.cumulativeQuantity.sub known.quantity
  let deltaNotional := (progress.cumulativeQuantity.mul price).sub
    (known.quantity.mul known.averagePrice)
  { venue := progress.venue
    symbol := progress.symbol
    side := progress.side
    quantity := deltaQty
    price :=
      if (ExactFloat.finite 0).lt deltaNotional && (ExactFloat.finite (1 / 10 ^ 12)).lt deltaQty then
        deltaNotional.div deltaQty
      else price
    orderId := progress.orderId
    clientOrderId := some clientOrderId
    feeQuote := deltaFee known progress
    filledAtMs := if progress.lastFillTimeMs = 0 then nowMs else progress.lastFillTimeMs }

/-- The fill of a chunk after a report. -/
def progressedFill (known : PendingPassiveLegFill) (progress : MakerProgress)
    (clientOrderId : String) : PendingPassiveLegFill :=
  let fee : Option ExactFloat := progress.feeQuote.filter (fun fee => feeEvidenceComplete (some fee))
  { quantity := progress.cumulativeQuantity
    averagePrice := cumulativePrice known progress
    feeQuote := fee.getD known.feeQuote
    feeEvidenceComplete := fee.isSome
    lastFillTimeMs := progress.lastFillTimeMs
    orderId := progress.orderId
    clientOrderId := clientOrderId }

/-- `_apply_maker_progress`: a report above the counter of the chunk replaces it. -/
def applyMakerProgress (pending : PendingPassiveClose) (progress : MakerProgress)
    (nowMs : Int) : PendingPassiveClose :=
  if (pending.makerFill.quantity.add progressTolerance).lt progress.cumulativeQuantity then
    let clientOrderId :=
      if progress.clientOrderId = "" then pending.phaseState.makerClientOrderId
      else progress.clientOrderId
    let side := pending.phaseState.activeMakerLeg
    let filled := { pending with
      makerFill := progressedFill pending.makerFill progress clientOrderId }
    filled.setLegs side (recordCloseExecutionLeg (pending.legsOn side)
      (progressDelta pending.makerFill progress clientOrderId nowMs) clientOrderId nowMs)
  else pending

/-! ## The end of a passive close -/

/-- Executions that the persisted legs show. -/
def executedLegs (legs : List PersistedCloseExecutionLeg) : List CloseExecutionLeg :=
  legs.filterMap (fun leg => (persistedLegFill leg).map (fun fill =>
    { fill := fill, clientOrderId := leg.clientOrderId
      submitStartedAtMs := leg.submitStartedAtMs }))

/-- `append_synthesized_leg`: what a counter has beyond the legs becomes one. -/
def synthesizedLegs (position : OpenPosition) (side : ActiveMakerLeg)
    (pendingFill : PendingPassiveLegFill) (existingQty : ExactFloat) : List CloseExecutionLeg :=
  let gap := (pendingFill.quantity.sub existingQty).max (.finite 0)
  if gap.le progressTolerance then []
  else
    [{ fill :=
        { venue := match side with
            | .long => position.longVenue
            | .short => position.shortVenue
          symbol := position.symbol
          side := match side with
            | .long => .sell
            | .short => .buy
          quantity := gap
          price := pendingFill.averagePrice
          orderId := pendingFill.orderId
          clientOrderId := if pendingFill.clientOrderId = "" then none
            else some pendingFill.clientOrderId
          feeQuote :=
            if pendingFill.feeEvidenceComplete && fillDust.lt pendingFill.quantity then
              some (pendingFill.feeQuote.mul (gap.div pendingFill.quantity))
            else none
          filledAtMs := pendingFill.lastFillTimeMs }
       clientOrderId := pendingFill.clientOrderId
       submitStartedAtMs := pendingFill.lastFillTimeMs }]

namespace PendingPassiveClose

/-- The counter of a side: the maker's on its leg, the hedge's on the other. -/
def fillOn (pending : PendingPassiveClose) (side : ActiveMakerLeg) : PendingPassiveLegFill :=
  if pending.phaseState.activeMakerLeg = side then pending.makerFill else pending.hedgeFill

/-- The legs of a side that the close is billed with. -/
def closedLegs (pending : PendingPassiveClose) (position : OpenPosition) (side : ActiveMakerLeg) :
    List CloseExecutionLeg :=
  let legs := executedLegs (pending.legsOn side)
  legs ++ synthesizedLegs position side (pending.fillOn side) (closedQuantity legs)

/-- Both sides, as the aggressive close collects them. -/
def collected (pending : PendingPassiveClose) (position : OpenPosition) : CollectedClose where
  longLegs := pending.closedLegs position .long
  shortLegs := pending.closedLegs position .short

end PendingPassiveClose

namespace CloseState

def popPassiveClose (state : CloseState) (positionId : String) : CloseState :=
  state.setEngine { state.runtime.engine with
    pendingPassiveCloses := state.runtime.engine.pendingPassiveCloses.erase positionId }

def putPassiveClose (state : CloseState) (pending : PendingPassiveClose) : CloseState :=
  if state.runtime.engine.pendingPassiveCloses.contains pending.positionId then
    state.setEngine { state.runtime.engine with
      pendingPassiveCloses :=
        state.runtime.engine.pendingPassiveCloses.insert pending.positionId pending }
  else state

end CloseState

/-- Quantities and results of the position; they are read before it is reduced. -/
def passiveWritten (position : OpenPosition) (collected : CollectedClose) (reason : String) :
    OpenPosition :=
  let close := collected.execution position reason
  let reduced := reduceQuantities position (closedQuantity collected.longLegs)
    (closedQuantity collected.shortLegs)
  if (closeAccountingEvidenceGaps position collected.longLegs collected.shortLegs []).isEmpty then
    { reduced with
      realizedPricePnlQuote := position.realizedPricePnlQuote.add close.realizedPricePnlQuote
      realizedExitFeeQuote :=
        position.realizedExitFeeQuote.add (close.longFeeQuote.add close.shortFeeQuote)
      currentNetQuote := position.currentNetQuote.add close.netQuote }
  else reduced

def passiveResolvedPayload (pending : PendingPassiveClose) (close : CloseExecution)
    (collected : CollectedClose) (evidenceGaps : List String) : List (String × PayloadValue) :=
  [("position_id", .text pending.positionId), ("reason", .text pending.reason),
    ("long_closed_qty", .number (closedQuantity collected.longLegs)),
    ("short_closed_qty", .number (closedQuantity collected.shortLegs)),
    ("chunk_count", .int pending.chunkCount),
    ("total_legs", .int (collected.longLegs.length + collected.shortLegs.length)),
    ("terminal_accounting_status", .text (if evidenceGaps.isEmpty then "final"
      else "pending_close_accounting_reconciliation")),
    ("accounting_evidence_gaps", .texts evidenceGaps)] ++
  (if evidenceGaps.isEmpty then
    [("price_pnl", .number close.realizedPricePnlQuote), ("net_quote", .number close.netQuote)]
  else [])

/-- The terminal event of a position that is flat on both legs. -/
def passiveTerminalPayload (pending : PendingPassiveClose) (written : OpenPosition)
    (collected : CollectedClose) (nowMs : Int) (final : Bool) : List (String × PayloadValue) :=
  let funding := written.capturedFundingQuote.add written.secondStageFundingQuote
  let longClosed := closedQuantity collected.longLegs
  let shortClosed := closedQuantity collected.shortLegs
  [("position_id", .text written.positionId), ("symbol", .text written.symbol),
    ("long_venue", .text written.longVenue.value), ("short_venue", .text written.shortVenue.value),
    ("reason", .text pending.reason), ("closed_at_ms", .int nowMs),
    ("close_path", .text "passive_close_fills"), ("long_closed_qty", .number longClosed),
    ("short_closed_qty", .number shortClosed),
    ("exit_quantity", .number (longClosed.min shortClosed)),
    ("price_pnl", .number written.realizedPricePnlQuote), ("funding_pnl_quote", .number funding),
    ("entry_fee_quote", .number written.totalEntryFeeQuote),
    ("exit_fee_quote", .number written.realizedExitFeeQuote),
    ("net_quote", .number (((written.realizedPricePnlQuote.add funding).sub
      written.totalEntryFeeQuote).sub written.realizedExitFeeQuote)),
    ("net_quote_status", .text (if final then "final" else "provisional")),
    ("terminal_accounting_status", .text (if final then "final"
      else "provisional_entry_fee_evidence_unavailable")),
    ("chunk_count", .int pending.chunkCount)] ++
  (if final then []
  else [("terminal_reason", .text "entry_fee_evidence_unavailable_after_confirmed_passive_close")])

section Finalize

variable [TextCase]

/-- The repair is appended; tasks of the same position stay. -/
def CloseState.appendResidual (state : CloseState) (positionId : String) :
    Option ResidualExposureTask → CloseState
  | none => state
  | some residual =>
    ({ state with newRepairs := state.newRepairs ++ [residual] }).append
      "exit.passive_close_residual_detected"
      [("position_id", .text positionId),
        ("exposure_quantity", .number residual.exposureQuantity),
        ("exposure_venue", .text residual.exposureVenue.value)]

/-- A close with missing evidence leaves its bill to a reconciliation. -/
def CloseState.registerPassiveGaps (state : CloseState) (position : OpenPosition)
    (collected : CollectedClose) (reason : String) (nowMs : Int) (evidenceGaps : List String) :
    CloseState :=
  if evidenceGaps.isEmpty then state
  else registerCloseAccountingReconciliation state position collected
    { reason := reason, nowMs := nowMs } "passive_close_execution" evidenceGaps

/-- A position without matched quantity is removed, and the pending close with it. -/
def CloseState.removePassive (state : CloseState) (positionId : String) (written : OpenPosition) :
    CloseState :=
  (if written.matchedQuantity.lt fillDust then state.popPosition positionId
    else state).popPassiveClose positionId

/-- A position that is flat on both legs, without a repair, is announced as closed. -/
def CloseState.announcePassiveClosed (state : CloseState) (pending : PendingPassiveClose)
    (written : OpenPosition) (residual : Option ResidualExposureTask) (collected : CollectedClose)
    (nowMs : Int) (evidenceGaps : List String) : CloseState :=
  let fullyClosed := residual.isNone && written.matchedQuantity.lt fillDust &&
    written.longQuantity.lt fillDust && written.shortQuantity.lt fillDust
  let final := written.entryFeeEvidenceComplete && evidenceGaps.isEmpty
  let payload := passiveTerminalPayload pending written collected nowMs final
  if fullyClosed && final then state.append "exit.closed" payload
  else if fullyClosed && evidenceGaps.isEmpty then
    state.append "exit.billing_evidence_unavailable" payload
  else state

/-- What finalising leaves behind: the state, and the position that it changed. -/
structure PassiveFinal where
  state : CloseState
  position : Option OpenPosition

/-- `_finalize_passive_close`. The split reads the position that is reduced already. -/
def finalizePassiveClose (state : CloseState) (pending : PendingPassiveClose) (nowMs : Int) :
    PassiveFinal :=
  match pending.positionSnapshot with
  | none => ⟨state.popPassiveClose pending.positionId, none⟩
  | some position =>
    let collected := pending.collected position
    let close := collected.execution position pending.reason
    let gaps := closeAccountingEvidenceGaps position collected.longLegs collected.shortLegs []
    let written := passiveWritten position collected pending.reason
    let residual := splitCloseFillResidual written (closedQuantity collected.longLegs)
      (closedQuantity collected.shortLegs) nowMs (nowMs + 30000)
    let registered := state.registerPassiveGaps position collected pending.reason nowMs gaps
    let repaired := (registered.putPosition written).appendResidual pending.positionId residual
    let resolved := (repaired.removePassive pending.positionId written).append
      "exit.passive_close_resolved" (passiveResolvedPayload pending close collected gaps)
    ⟨resolved.announcePassiveClosed pending written residual collected nowMs gaps, some written⟩

/-! ## The next chunk -/

/-- What `_advance_chunk` returns, with the state and the pending close that it changed. -/
structure ChunkAdvance where
  advanced : Bool
  state : CloseState
  pending : PendingPassiveClose
  /-- The result of finalising behind the last chunk. -/
  final : Option PassiveFinal := none

def nextChunk (pending : PendingPassiveClose) (nowMs : Int) : PendingPassiveClose :=
  { pending with
    phaseState :=
      { phase := .highSlippageMaker
        preferredMakerLeg := pending.phaseState.preferredMakerLeg
        activeMakerLeg := pending.phaseState.preferredMakerLeg
        phaseStartedAtMs := nowMs
        cycleAttempt := 1
        cycleStartedAtMs := nowMs }
    makerFill := {}
    hedgeFill := {}
    smallFillMinNotionalAttempts := 0
    lastSmallFillMissingQuantity := .finite 0
    smallFillBufferStartedAtMs := none
    nextRetryAtMs := 0
    multiPhaseStartedAtMs := nowMs }

/-- Wait between two looks at the progress of an order. -/
def passiveClosePollIntervalMs : Int := 10

/-- `_advance_chunk`: a chunk that is not filled, or not hedged, is kept. -/
def advanceChunk (state : CloseState) (pending : PendingPassiveClose) (nowMs : Int) :
    ChunkAdvance :=
  let chunkQuantity := pending.currentChunkQuantity
  let kept := { pending with nextRetryAtMs := nowMs + passiveClosePollIntervalMs }
  let payload : List (String × PayloadValue) :=
    [("position_id", .text pending.positionId),
      ("maker_quantity", .number pending.makerFill.quantity),
      ("chunk_index", .int pending.activeChunkIndex)]
  if !chunkQuantity.le (pending.makerFill.quantity.add progressTolerance) then
    ⟨false, (state.append "exit.passive_close_advance_blocked_maker_under_chunk"
      payload).putPassiveClose kept, kept, none⟩
  else if !pending.makerFill.quantity.le (pending.hedgeFill.quantity.add progressTolerance) then
    ⟨false, (state.append "exit.passive_close_advance_blocked_unhedged"
      payload).putPassiveClose kept, kept, none⟩
  else
    let bumped := pending.bumpChunk
    if bumped.completed then
      let final := finalizePassiveClose (state.putPassiveClose bumped) bumped nowMs
      ⟨true, final.state, bumped, some final⟩
    else if bumped.positionSnapshot.isNone then ⟨true, state.putPassiveClose bumped, bumped, none⟩
    else
      let next := nextChunk bumped nowMs
      ⟨true, (state.putPassiveClose next).append "exit.passive_close_advanced_chunk"
        [("position_id", .text pending.positionId),
          ("new_chunk_index", .int next.activeChunkIndex),
          ("chunk_quantity", .number chunkQuantity),
          ("total_chunks", .int next.chunkCount)], next, none⟩

end Finalize

end LightFee.Engine
