import Mathlib.Data.Rat.Floor
import LightFee.Engine.CloseCompensation

/-!
# The close executor

A close submits both legs chunk by chunk, the short one first. A rejected short leg ends
it without a write-back, an uncertain leg or a rejected long one compensates, and what was
collected is written back at the end.
-/

namespace LightFee.Engine

open LightFee.Venues

/-! ## Chunks -/

/-- Parts of a quantity: all but the last are of one size. -/
def chunkParts (base : ExactFloat) : Nat → ExactFloat → List ExactFloat
  | 0, _ => []
  | 1, remaining => [remaining]
  | count + 2, remaining => base :: chunkParts base (count + 1) (remaining.sub base)

/-- The quantity that a leg's minimum notional asks for, and none from an exempt venue. -/
def legMinimumQuantity (venue : Venue) (priceHint minNotional minAllowed : ExactFloat) :
    ExactFloat :=
  if (ExactFloat.finite 0).lt minNotional && !venue.reduceOnlyCloseExemptsMinNotional then
    minAllowed.max
      (if (ExactFloat.finite 0).lt priceHint then minNotional.div priceHint else .finite 0)
  else minAllowed

/-- The minimum is checked only when both venues are known. -/
def minAllowedQuantity (longPriceHint shortPriceHint minLongNotional minShortNotional : ExactFloat) :
    Option Venue → Option Venue → ExactFloat
  | some venueLong, some venueShort =>
    legMinimumQuantity venueShort shortPriceHint minShortNotional
      (legMinimumQuantity venueLong longPriceHint minLongNotional (.finite 0))
  | _, _ => .finite 0

/-- The chunks of at least the minimum, or as many as the cap asks for. -/
def fewerChunks (totalQuantity pricePerUnit maxNotionalQuote minAllowed : ExactFloat) :
    Option Nat :=
  match totalQuantity.div minAllowed with
  | .finite ratio =>
    let count := max 1 ⌊ratio⌋.toNat
    let maxQuantityPerChunk := maxNotionalQuote.div pricePerUnit
    if ((ExactFloat.finite count).mul maxQuantityPerChunk).lt totalQuantity then
      match totalQuantity.div maxQuantityPerChunk with
      | .finite ratio => some ⌈ratio⌉.toNat
      | _ => none
    else some count
  | _ => none

/-- `compute_close_chunks`; rounding a number that is not finite raises. -/
def computeCloseChunks (totalQuantity longPriceHint shortPriceHint maxNotionalQuote : ExactFloat)
    (minLongNotional minShortNotional : ExactFloat := .finite 0)
    (venueLong venueShort : Option Venue := none) : Option (List ExactFloat) :=
  let pricePerUnit := longPriceHint.max shortPriceHint
  let totalNotional := totalQuantity.mul pricePerUnit
  if totalQuantity.le (.finite 0) then some []
  else if maxNotionalQuote.le (.finite 0) || pricePerUnit.le (.finite 0) ||
      totalNotional.le maxNotionalQuote then some [totalQuantity]
  else
    match totalNotional.div maxNotionalQuote with
    | .finite ratio =>
      let count := ⌈ratio⌉.toNat
      let minAllowed := minAllowedQuantity longPriceHint shortPriceHint minLongNotional
        minShortNotional venueLong venueShort
      let planned :=
        if (ExactFloat.finite 0).lt minAllowed &&
            (totalQuantity.div (.finite count)).lt minAllowed then
          fewerChunks totalQuantity pricePerUnit maxNotionalQuote minAllowed
        else some count
      planned.map fun count : Nat =>
        chunkParts (totalQuantity.div (.finite count)) count totalQuantity
    | _ => none

/-! ## A close -/

/-- The arguments of `execute_close`. -/
structure CloseRequest where
  reason : String
  nowMs : Int
  longPriceHint : ExactFloat := .finite 0
  shortPriceHint : ExactFloat := .finite 0
  totalQuantity : Option ExactFloat := none
  shortStage : String := "exit_short"
  longStage : String := "exit_long"

/-- How the chunk loop ends. -/
inductive ChunksEnd where
  /-- A short leg was rejected. -/
  | rejected
  | compensationFailed
  /-- All chunks ran, or a compensation succeeded. -/
  | finished
deriving DecidableEq

/-- The client order ids of a chunk. -/
structure ChunkIds where
  index : Nat
  short : String
  long : String

section Executor

variable [TextCase] {World : Type} (env : CloseEnvironment World) (position : OpenPosition)
  (request : CloseRequest) (totalChunks : Nat)

def chunkClientOrderIds (index : Nat) : ChunkIds :=
  let suffix := if 1 < totalChunks then "_chunk_" ++ toString (index + 1) else ""
  { index := index
    short := env.compactClientOrderId position.positionId (request.shortStage ++ suffix)
    long := env.compactClientOrderId position.positionId (request.longStage ++ suffix) }

def shortRequest (ids : ChunkIds) (quantity : ExactFloat) : OrderRequest where
  venue := position.shortVenue
  symbol := position.symbol
  side := .buy
  quantity := quantity
  price := if request.shortPriceHint.truthy then some request.shortPriceHint else none
  clientOrderId := ids.short

def longRequest (ids : ChunkIds) (quantity : ExactFloat) : OrderRequest where
  venue := position.longVenue
  symbol := position.symbol
  side := .sell
  quantity := quantity
  price := if request.longPriceHint.truthy then some request.longPriceHint else none
  clientOrderId := ids.long

/-- The short side of a chunk after its leg came back; a new identity counts as uncertain. -/
def CollectedClose.addShort (collected : CollectedClose) (ids : ChunkIds) (result : LegResult) :
    CollectedClose :=
  let identities := result.unresolvedSubmissionIdentities.foldl addIdentity
    collected.unresolvedShortSubmissionIdentities
  let noted := { collected with
    unresolvedShortSubmissionIdentities := identities
    anyShortUncertain := collected.anyShortUncertain ||
      decide (identities ≠ collected.unresolvedShortSubmissionIdentities) }
  match result.outcome with
  | .filled fill =>
    { noted with
      shortLegs := noted.shortLegs ++ [{ fill := fill, clientOrderId := ids.short
                                         submitStartedAtMs := request.nowMs }]
      chunkShortOrderIds := noted.chunkShortOrderIds ++ [fill.orderId] }
  | .terminalFlat => { noted with
      chunkShortOrderIds := noted.chunkShortOrderIds ++ [result.orderId] }
  | .uncertain =>
    { noted with
      anyShortUncertain := true
      unresolvedShortClientOrderIds := noted.unresolvedShortClientOrderIds ++ [ids.short]
      chunkShortOrderIds := noted.chunkShortOrderIds ++ [result.orderId] }
  | .rejected => { noted with
      chunkShortOrderIds := noted.chunkShortOrderIds ++ [result.orderId] }

/-- The long side; a rejected long leg leaves no order id. -/
def CollectedClose.addLong (collected : CollectedClose) (ids : ChunkIds) (result : LegResult) :
    CollectedClose :=
  let identities := result.unresolvedSubmissionIdentities.foldl addIdentity
    collected.unresolvedLongSubmissionIdentities
  let noted := { collected with
    unresolvedLongSubmissionIdentities := identities
    anyLongUncertain := collected.anyLongUncertain ||
      decide (identities ≠ collected.unresolvedLongSubmissionIdentities) }
  match result.outcome with
  | .filled fill =>
    { noted with
      longLegs := noted.longLegs ++ [{ fill := fill, clientOrderId := ids.long
                                       submitStartedAtMs := request.nowMs }]
      chunkLongOrderIds := noted.chunkLongOrderIds ++ [fill.orderId] }
  | .terminalFlat => { noted with
      chunkLongOrderIds := noted.chunkLongOrderIds ++ [result.orderId] }
  | .uncertain =>
    { noted with
      anyLongUncertain := true
      unresolvedLongClientOrderIds := noted.unresolvedLongClientOrderIds ++ [ids.long]
      chunkLongOrderIds := noted.chunkLongOrderIds ++ [result.orderId] }
  | .rejected => noted

def CollectedClose.addShortCid (collected : CollectedClose) (clientOrderId : String) :
    CollectedClose :=
  { collected with chunkShortCids := collected.chunkShortCids ++ [clientOrderId] }

def CollectedClose.addLongCid (collected : CollectedClose) (clientOrderId : String) :
    CollectedClose :=
  { collected with chunkLongCids := collected.chunkLongCids ++ [clientOrderId] }

def CloseRun.logChunk (run : CloseRun World) (ids : ChunkIds) (longClientOrderId shortOutcome
    longOutcome : String) : CloseRun World :=
  run.log "exit.close_chunk_submitted"
    [("position_id", .text position.positionId), ("chunk_index", .int ids.index),
      ("total_chunks", .int totalChunks), ("short_client_order_id", .text ids.short),
      ("long_client_order_id", .text longClientOrderId), ("short_outcome", .text shortOutcome),
      ("long_outcome", .text longOutcome)]

/-- Compensation on behalf of a leg, and the end of the loop that it means. -/
def compensateLeg (collected : CollectedClose) (stage : String) (venue : Venue) (error : String)
    (run : CloseRun World) : ChunksEnd × CollectedClose × CloseRun World :=
  match compensateFailedFullClose env position
      { reason := request.reason, failedStage := stage, failedVenue := venue, error := error }
      collected run with
  | (.compensated, collected, run) => (.finished, collected, run)
  | (.failed, collected, run) => (.compensationFailed, collected, run)

/-- What a leg means for the rest of the loop. -/
inductive ChunkStep (World : Type) where
  | next (collected : CollectedClose) (run : CloseRun World)
  | stop (how : ChunksEnd) (collected : CollectedClose) (run : CloseRun World)

def ChunkStep.ofEnd (stopped : ChunksEnd × CollectedClose × CloseRun World) : ChunkStep World :=
  .stop stopped.1 stopped.2.1 stopped.2.2

/-- The short leg of a chunk. -/
def shortStep (ids : ChunkIds) (quantity : ExactFloat) (collected : CollectedClose)
    (run : CloseRun World) : LegResult × ChunkStep World :=
  let (result, run) := submitCloseLegWithRetry env (shortRequest position request ids quantity)
    position.positionId "short" request.nowMs run
  let collected := collected.addShort request ids result
  match result.outcome with
  | .rejected =>
    (result, .stop .rejected (collected.addShortCid ids.short)
      ((run.logChunk position totalChunks ids "" "rejected" "not_submitted").log
        "execution.close_failed"
        [("position_id", .text position.positionId), ("symbol", .text position.symbol),
          ("reason", .text request.reason), ("failed_leg", .text "short"),
          ("error", .text result.reason)]))
  | .uncertain =>
    if request.reason = "" then (result, .next collected run)
    else
      (result, .ofEnd (compensateLeg env position request (collected.addShortCid ids.short)
        ("exit_short_chunk_" ++ toString ids.index) position.shortVenue
        (orText result.reason "close leg uncertain")
        (run.logChunk position totalChunks ids "" "uncertain_compensating" "not_submitted")))
  | _ => (result, .next collected run)

/-- The long leg of a chunk. -/
def longStep (ids : ChunkIds) (quantity : ExactFloat) (shortOutcome : String)
    (collected : CollectedClose) (run : CloseRun World) : ChunkStep World :=
  let (result, run) := submitCloseLegWithRetry env (longRequest position request ids quantity)
    position.positionId "long" request.nowMs run
  let collected := (collected.addLong request ids result).addShortCid ids.short |>.addLongCid
    ids.long
  let compensate (outcome error : String) : ChunkStep World :=
    .ofEnd (compensateLeg env position request collected
      ("exit_long_chunk_" ++ toString ids.index) position.longVenue error
      (run.logChunk position totalChunks ids ids.long shortOutcome outcome))
  let proceed : ChunkStep World :=
    .next collected
      (run.logChunk position totalChunks ids ids.long shortOutcome result.outcome.value)
  if request.reason = "" then proceed
  else
    match result.outcome with
    | .uncertain => compensate "uncertain_compensating" (orText result.reason "close leg uncertain")
    | .rejected => compensate "rejected_compensating" result.reason
    | _ => proceed

/-- One chunk. -/
def chunkStep (ids : ChunkIds) (quantity : ExactFloat) (collected : CollectedClose)
    (run : CloseRun World) : ChunkStep World :=
  match shortStep env position request totalChunks ids quantity collected run with
  | (_, .stop how collected run) => .stop how collected run
  | (result, .next collected run) =>
    longStep env position request totalChunks ids quantity result.outcome.value collected run

/-- The chunk loop, from a given chunk on. -/
def runChunks : Nat → List ExactFloat → CollectedClose → CloseRun World →
    ChunksEnd × CollectedClose × CloseRun World
  | _, [], collected, run => (.finished, collected, run)
  | index, quantity :: rest, collected, run =>
    match chunkStep env position request totalChunks
        (chunkClientOrderIds env position request totalChunks index) quantity collected run with
    | .stop how collected run => (how, collected, run)
    | .next collected run => runChunks (index + 1) rest collected run

/-- What `execute_close` returns, with the position that it changed. -/
structure CloseReturn (World : Type) where
  result : Option CloseExecution
  run : CloseRun World
  position : OpenPosition

def closeCall : CloseCall where
  reason := request.reason
  nowMs := request.nowMs
  totalChunks := totalChunks
  deadlineMs := env.deadlineMs

/-- The end of a close, after its chunk loop. -/
def endClose (how : ChunksEnd) (collected : CollectedClose) (run : CloseRun World) :
    CloseReturn World :=
  let call := closeCall env request totalChunks
  match how with
  | .rejected => ⟨none, run, position⟩
  | .compensationFailed =>
    let state := registerCloseAccountingReconciliation run.state position collected call
      "aggressive_close_compensation_truth_unavailable" (collected.evidenceGaps position)
    ⟨some (buildCloseExecutionFromLegs position collected.shortLegs collected.longLegs),
      { run with state := state }, position⟩
  | .finished =>
    let (result, state, written) := finishClose run.state position collected call
    ⟨result, { run with state := state }, written⟩

/-- `execute_close` on the chunks of its quantity. -/
def executeChunks (chunks : List ExactFloat) (run : CloseRun World) : CloseReturn World :=
  let (how, collected, run) :=
    runChunks env position request chunks.length 0 chunks {} run
  endClose env position request chunks.length how collected run

/-- The result of a close of nothing. -/
def closeOfNothing : CloseExecution where
  positionId := position.positionId
  reason := request.reason
  longClosePrice := .finite 0
  shortClosePrice := .finite 0
  longCloseQty := .finite 0
  shortCloseQty := .finite 0

/-- The parts a close is made of. -/
def closeChunks (maxNotionalQuote : ExactFloat) : Option (List ExactFloat) :=
  computeCloseChunks (request.totalQuantity.getD position.matchedQuantity) request.longPriceHint
    request.shortPriceHint maxNotionalQuote

/-- `execute_close` with a state. -/
def executeClose (maxNotionalQuote : ExactFloat) (run : CloseRun World) :
    Option (CloseReturn World) := do
  let chunks ← closeChunks position request maxNotionalQuote
  if chunks.isEmpty then return ⟨some (closeOfNothing position request), run, position⟩
  else return executeChunks env position request chunks run

end Executor

end LightFee.Engine
