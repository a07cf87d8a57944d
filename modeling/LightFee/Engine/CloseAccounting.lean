import LightFee.Engine.CloseReconciliationQueue
import LightFee.Engine.EngineState

/-!
# Accounts of a close

What a close computes from the fills of its legs: the result and its profit, the
exposure that is left on one leg only, the evidence that is missing for a bill, and
the reconciliation that keeps the identities of its orders.

The numbers of a reconciliation record and of diagnostic events are left out: no
function here reads them back.
-/

namespace LightFee.Engine

open LightFee.Venues DynValue

/-- One filled close order. -/
structure CloseExecutionLeg where
  fill : OrderFill
  clientOrderId : String := ""
  submitStartedAtMs : Int := 0

structure CloseExecution where
  positionId : String
  reason : String
  longClosePrice : ExactFloat
  shortClosePrice : ExactFloat
  longCloseQty : ExactFloat
  shortCloseQty : ExactFloat
  longFeeQuote : ExactFloat := .finite 0
  shortFeeQuote : ExactFloat := .finite 0
  realizedPricePnlQuote : ExactFloat := .finite 0
  fundingPnlQuote : ExactFloat := .finite 0
  netQuote : ExactFloat := .finite 0

/-- Remaining quantities after a close. -/
structure CloseBalance where
  matchedClosedQuantity : ExactFloat
  matchedRemainingQuantity : ExactFloat
  longRemainingQuantity : ExactFloat
  shortRemainingQuantity : ExactFloat

def closeBalanceFromClosedQuantities (positionQuantity longClosed shortClosed : ExactFloat) :
    CloseBalance :=
  let longRemaining := (positionQuantity.sub longClosed).max (.finite 0)
  let shortRemaining := (positionQuantity.sub shortClosed).max (.finite 0)
  let matchedRemaining := longRemaining.min shortRemaining
  { matchedClosedQuantity := (positionQuantity.sub matchedRemaining).max (.finite 0)
    matchedRemainingQuantity := matchedRemaining
    longRemainingQuantity := longRemaining
    shortRemainingQuantity := shortRemaining }

/-! ## The result -/

/-- Quantity that the legs closed. -/
def closedQuantity (legs : List CloseExecutionLeg) : ExactFloat :=
  ExactFloat.sum (legs.map (fun leg => leg.fill.quantity))

/-- Fees of the legs; an unknown fee counts as none. -/
def exitFee (legs : List CloseExecutionLeg) : ExactFloat :=
  ExactFloat.sum (legs.map (fun leg => leg.fill.feeQuote.getD (.finite 0)))

/-- Price profit of the long legs over the position's entry. -/
def longPricePnl (position : OpenPosition) (legs : List CloseExecutionLeg) : ExactFloat :=
  ExactFloat.sum (legs.map (fun leg =>
    (leg.fill.price.sub position.longEntryPrice).mul leg.fill.quantity))

def shortPricePnl (position : OpenPosition) (legs : List CloseExecutionLeg) : ExactFloat :=
  ExactFloat.sum (legs.map (fun leg =>
    (position.shortEntryPrice.sub leg.fill.price).mul leg.fill.quantity))

/-- Average price of the legs, and zero without a quantity. -/
def averageClosePrice (legs : List CloseExecutionLeg) : ExactFloat :=
  let quantity := closedQuantity legs
  if quantity.truthy then
    let average := (ExactFloat.sum (legs.map (fun leg =>
      leg.fill.price.mul leg.fill.quantity))).div quantity
    if average.truthy then average else .finite 0
  else .finite 0

def buildCloseExecutionFromLegs (position : OpenPosition)
    (shortLegs longLegs : List CloseExecutionLeg) : CloseExecution :=
  let realizedPricePnl := (longPricePnl position longLegs).add (shortPricePnl position shortLegs)
  let longFee := exitFee longLegs
  let shortFee := exitFee shortLegs
  { positionId := position.positionId
    reason := ""
    longClosePrice := averageClosePrice longLegs
    shortClosePrice := averageClosePrice shortLegs
    longCloseQty := closedQuantity longLegs
    shortCloseQty := closedQuantity shortLegs
    longFeeQuote := longFee
    shortFeeQuote := shortFee
    realizedPricePnlQuote := realizedPricePnl
    fundingPnlQuote := position.capturedFundingQuote.add position.secondStageFundingQuote
    netQuote := ((realizedPricePnl.add position.capturedFundingQuote).add
      position.secondStageFundingQuote).sub (longFee.add shortFee) }

structure ExitPnlAttribution where
  fundingQuote : ExactFloat
  pricePnlQuote : ExactFloat
  entryFeeQuote : ExactFloat
  exitFeeQuote : ExactFloat
  netQuote : ExactFloat

def buildExitPnlAttribution (position : OpenPosition) (close : CloseExecution) :
    ExitPnlAttribution :=
  let fundingQuote := position.capturedFundingQuote.add position.secondStageFundingQuote
  let entryFee := position.longEntryFeeQuote.add position.shortEntryFeeQuote
  let exitFee := close.longFeeQuote.add close.shortFeeQuote
  { fundingQuote := fundingQuote
    pricePnlQuote := close.realizedPricePnlQuote
    entryFeeQuote := entryFee
    exitFeeQuote := exitFee
    netQuote := ((close.realizedPricePnlQuote.add fundingQuote).sub entryFee).sub exitFee }

/-! ## One-sided exposure -/

inductive ResidualOrigin where
  | entryOpen
  | closeResidual
deriving DecidableEq

def ResidualOrigin.value : ResidualOrigin → String
  | .entryOpen => "entry_open"
  | .closeResidual => "close_residual"

/-- Exposure on one leg only, and the side that closes it. -/
structure ResidualExposureTask where
  positionId : String
  pairId : String
  symbol : String
  longVenue : Venue
  shortVenue : Venue
  origin : ResidualOrigin
  exposureVenue : Venue
  exposureSide : Side
  exposureQuantity : ExactFloat
  createdAtMs : Int
  deadlineMs : Int
  retryCount : Int := 0
  lastAttemptAtMs : Int := 0

def approxEq (left right : ExactFloat) : Bool := (left.sub right).abs.le (.finite (1 / 10 ^ 9))

def splitCloseFillResidual [TextCase] (position : OpenPosition)
    (longClosed shortClosed : ExactFloat) (nowMs deadlineMs : Int) :
    Option ResidualExposureTask :=
  let balance := closeBalanceFromClosedQuantities position.matchedQuantity longClosed shortClosed
  let delta := balance.longRemainingQuantity.sub balance.shortRemainingQuantity
  if approxEq delta (.finite 0) then none
  else
    let (exposureVenue, exposureSide, exposureQuantity) :=
      if (ExactFloat.finite 0).lt delta then (position.longVenue, Side.sell, delta)
      else (position.shortVenue, Side.buy, delta.neg)
    some
      { positionId := position.positionId
        pairId := TextCase.lower position.symbol ++ ":" ++ position.longVenue.value ++ "->" ++
          position.shortVenue.value
        symbol := position.symbol
        longVenue := position.longVenue
        shortVenue := position.shortVenue
        origin := .closeResidual
        exposureVenue := exposureVenue
        exposureSide := exposureSide
        exposureQuantity := exposureQuantity
        createdAtMs := nowMs
        deadlineMs := deadlineMs }

/-! ## Evidence for a bill -/

/-- Quantities from here on count as fills. -/
def fillDust : ExactFloat := .finite (1 / 10 ^ 12)

def isPositivePrice (price : ExactFloat) : Bool := price.isFinite && (ExactFloat.finite 0).lt price

def hasFeeEvidence (fee : Option ExactFloat) : Bool :=
  match fee with
  | some fee => fee.isFinite && (ExactFloat.finite 0).le fee
  | none => false

/-- The gaps of one leg's fills: a price or a fee that is not known. -/
def legEvidenceGaps (label : String) (legs : List CloseExecutionLeg) : List String :=
  let fills := (legs.map CloseExecutionLeg.fill).filter (fun fill => !fill.quantity.le fillDust)
  (if fills.all (fun fill => isPositivePrice fill.price) then []
    else [label ++ "_close_price_unavailable"]) ++
  (if fills.all (fun fill => hasFeeEvidence fill.feeQuote) then []
    else [label ++ "_exit_fee_evidence_unavailable"])

def closeAccountingEvidenceGaps (position : OpenPosition)
    (longLegs shortLegs : List CloseExecutionLeg) (unresolvedSubmissionLegs : List String) :
    List String :=
  ((unresolvedSubmissionLegs.filter (fun label => label = "long" ∨ label = "short")).map
      (fun label => label ++ "_close_execution_unconfirmed")) ++
    (if isPositivePrice position.longEntryPrice then [] else ["long_entry_price_unavailable"]) ++
    (if isPositivePrice position.shortEntryPrice then [] else ["short_entry_price_unavailable"]) ++
    (if position.entryFeeEvidenceComplete then [] else ["entry_fee_evidence_unavailable"]) ++
    legEvidenceGaps "long" longLegs ++ legEvidenceGaps "short" shortLegs

/-! ## The reconciliation record -/

/-- A leg of a reconciliation record. -/
def legRecord (venue : Venue) (orderId clientOrderId : String) : DynValue :=
  .dict [("venue", .str venue.value), ("order_id", .str orderId),
    ("client_order_id", .str clientOrderId)]

/-- The client order id that the venue reports, or the one that was sent. -/
def CloseExecutionLeg.reportedClientOrderId (leg : CloseExecutionLeg) : String :=
  if leg.fill.clientOrderId.getD "" = "" then leg.clientOrderId
  else leg.fill.clientOrderId.getD ""

/-- `_close_reconciliation_leg_records`. -/
def closeReconciliationLegRecords (legs : List CloseExecutionLeg) : List DynValue :=
  (legs.filter (fun leg => fillDust.lt leg.fill.quantity)).map (fun leg =>
    legRecord leg.fill.venue leg.fill.orderId leg.reportedClientOrderId)

/-- Records of a leg while unconfirmed submissions are appended. -/
structure SubmissionRecords where
  records : List DynValue
  knownClientOrderIds : List String
  knownOrderIds : List String
  appended : Bool := false

/-- A submission that some record may stand for already is skipped: one with a known
order id, or with no order id and a known client order id. -/
def SubmissionRecords.appendIdentity (venue : Venue) (current : SubmissionRecords)
    (identity : String × String) : SubmissionRecords :=
  let (orderId, clientOrderId) := identity
  if orderId = "" ∧ (clientOrderId = "" ∨ clientOrderId ∈ current.knownClientOrderIds) then current
  else if orderId ≠ "" ∧ orderId ∈ current.knownOrderIds then current
  else
    { records := current.records ++ [legRecord venue orderId clientOrderId]
      knownClientOrderIds := current.knownClientOrderIds ++ [clientOrderId]
      knownOrderIds := current.knownOrderIds ++ [orderId]
      appended := true }

def SubmissionRecords.appendClientOrderId (venue : Venue) (current : SubmissionRecords)
    (clientOrderId : String) : SubmissionRecords :=
  if clientOrderId = "" ∨ clientOrderId ∈ current.knownClientOrderIds then current
  else
    { current with
      records := current.records ++ [legRecord venue "" clientOrderId]
      knownClientOrderIds := current.knownClientOrderIds ++ [clientOrderId]
      appended := true }

/-- `_append_unresolved_close_submission_identities`. -/
def appendUnresolvedIdentities (venue : Venue) (records : List DynValue)
    (clientOrderIds : List String) (identities : List (String × String)) : SubmissionRecords :=
  let start : SubmissionRecords :=
    { records := records
      knownClientOrderIds := records.map (fun record => textOf (record.get "client_order_id"))
      knownOrderIds := records.map (fun record => textOf (record.get "order_id")) }
  clientOrderIds.foldl (SubmissionRecords.appendClientOrderId venue)
    (identities.foldl (SubmissionRecords.appendIdentity venue) start)

/-- `pending_close_reconciliation_missing_legs`, on the owned quantities and the records of
a new task. -/
def missingIdentityLegs (ownedLong ownedShort : ExactFloat) (longRecords shortRecords : List DynValue) :
    List String :=
  let valid (owned : ExactFloat) := owned.isFinite && (ExactFloat.finite 0).le owned
  let identified (record : DynValue) :=
    ((record.get "order_id").orElse (record.get "client_order_id")).truthy
  let missing (label : String) (owned : ExactFloat) (records : List DynValue) : List String :=
    if records.all identified && (!records.isEmpty || owned.le fillDust) then [] else [label]
  if valid ownedLong && valid ownedShort then
    missing "long" ownedLong longRecords ++ missing "short" ownedShort shortRecords
  else ["long", "short"]

/-- `_close_reconciliation_position_snapshot`. -/
def closeReconciliationPositionSnapshot (position : OpenPosition) : DynValue :=
  .dict [("position_id", .str position.positionId), ("symbol", .str position.symbol),
    ("long_venue", .str position.longVenue.value), ("short_venue", .str position.shortVenue.value),
    ("entry_fee_evidence_complete", .bool position.entryFeeEvidenceComplete),
    ("opened_at_ms", .int position.openedAtMs)]

end LightFee.Engine
