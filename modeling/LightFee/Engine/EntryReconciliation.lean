import LightFee.Engine.HedgeRemainder
import Mathlib.Algebra.Order.Ring.Abs

/-!
# Reconciling a pending entry

A reconciliation asks the venue of each leg for one order, by the identifiers that the entry
keeps, and for the account's position. What it finds is compared with the entry's counters and
raises them: a fill as the quantity of the order that was asked, a position as the quantity of
the account. An exact zero fill together with a flat maker position clears the maker counter.
-/

namespace LightFee.Engine

/-! ## Answers -/

/-- A leg of the position, as the reconciler asks for it. -/
inductive PhysicalLeg where
  | long
  | short
deriving DecidableEq

namespace PhysicalLeg

def name : PhysicalLeg → String
  | long => "long"
  | short => "short"

/-- The side of the leg's fills and position. -/
def expectedSide : PhysicalLeg → Side
  | long => .buy
  | short => .sell

end PhysicalLeg

/-- What an answer says of the asked order. -/
structure LegFill where
  side : Side
  quantity : ℚ
  averagePrice : ℚ := 0
  orderId : String := ""

/-- The account's position on the venue of a leg. -/
structure LegPosition where
  side : Side
  quantity : ℚ
  entryPrice : ℚ := 0

/-- One leg of a `PositionReconciliationResult`. -/
structure LegReconciliation where
  status : String := "uncertain"
  fill : Option LegFill := none
  position : Option LegPosition := none
  terminalZeroFill : Bool := false
  terminalFillQuantityUnavailable : Bool := false

/-- What one side of the evidence shows against the planned leg. -/
def LegReconciliation.conflicts (leg : LegReconciliation) (expected : Side) : Bool :=
  leg.fill.any (fun fill => Decidable.decide (quantityDust < fill.quantity ∧ fill.side ≠ expected)) ||
    leg.position.any (fun position =>
      Decidable.decide (quantityDust < position.quantity ∧ position.side ≠ expected))

structure EntryReconciliation where
  long : LegReconciliation := {}
  short : LegReconciliation := {}

namespace EntryReconciliation

def leg (result : EntryReconciliation) : PhysicalLeg → LegReconciliation
  | .long => result.long
  | .short => result.short

def directionConflict (result : EntryReconciliation) : Bool :=
  result.long.conflicts .buy || result.short.conflicts .sell

end EntryReconciliation

/-! ## Identifiers -/

namespace PendingEntry

/-- `first or second` of a text. -/
def textOr (first second : String) : String := if first = "" then second else first

def makerOrderIdentifiers (pending : PendingEntry ℚ) : String × String :=
  match pending.passiveOrder with
  | none => (pending.makerOrderId, pending.makerClientOrderId)
  | some order =>
    (textOr pending.makerOrderId order.orderId,
      textOr pending.makerClientOrderId order.clientOrderId)

def hedgeOrderIdentifiers (pending : PendingEntry ℚ) : String × String :=
  (pending.hedgeOrderId,
    match pending.hedgeInflight with
    | some inflight => inflight.clientOrderId
    | none =>
      if pending.hedgeOrderId ≠ "" ∨ 0 < pending.hedgeLegFilled then pending.hedgeClientOrderId
      else "")

/-- The order id and client order id that are asked for on a leg. -/
def reconciliationIdentifiers (pending : PendingEntry ℚ) : PhysicalLeg → String × String
  | .long =>
    if pending.makerLeg = "short" then pending.hedgeOrderIdentifiers
    else pending.makerOrderIdentifiers
  | .short =>
    if pending.makerLeg = "short" then pending.makerOrderIdentifiers
    else pending.hedgeOrderIdentifiers

/-! ## The write-back -/

/-- The maker leg's part of a result; any other name than the long leg's reads the short one. -/
def makerReconciliation (pending : PendingEntry ℚ) (result : EntryReconciliation) :
    LegReconciliation :=
  if pending.makerLeg = "long" then result.long else result.short

/-- The asked maker order is known to have ended without a fill, and the account is flat. -/
def verifiedTerminalZeroFill (pending : PendingEntry ℚ) (result : EntryReconciliation) : Bool :=
  let maker := pending.makerReconciliation result
  maker.terminalZeroFill && maker.position.any (fun position =>
    Decidable.decide (|position.quantity| ≤ quantityDust))

def clearMakerFill (pending : PendingEntry ℚ) : PendingEntry ℚ :=
  { pending with
    makerLegFilled := 0
    makerFillPrice := 0
    makerFeeQuote := none
    makerRemainderSlices := []
    passiveOrder := pending.passiveOrder.map (fun order =>
      { order with lastProgressState := .canceled }) }

/-- The zero fill clears a maker counter or remainder that is there. -/
def correctZeroFill (pending : PendingEntry ℚ) (result : EntryReconciliation) :
    PendingEntry ℚ :=
  if pending.verifiedTerminalZeroFill result = true ∧
      (quantityDust < pending.makerLegFilled ∨ pending.makerRemainderSlices.isEmpty = false) then
    pending.clearMakerFill
  else pending

def writeBackFill (pending : PendingEntry ℚ) (leg : PhysicalLeg) (result : LegReconciliation) :
    PendingEntry ℚ :=
  match result.fill with
  | none => pending
  | some fill =>
    if fill.quantity ≤ 0 then pending
    else if pending.makerLeg = leg.name then
      if pending.makerLegFilled < fill.quantity then
        { pending with makerLegFilled := fill.quantity, makerFillPrice := fill.averagePrice }
      else pending
    else if pending.hedgeLegFilled < fill.quantity then
      (applyPendingEntryHedgeProgress pending
        { newTotalQuantity := fill.quantity
          price := fill.averagePrice
          orderId := fill.orderId }).1
    else pending

/-- The id that a leg gets when a position shows an order that the entry has no id of. -/
def recoveryOrderId (entryId : String) (leg : PhysicalLeg) : String :=
  entryId ++ "-recovery-" ++ leg.name

/-- A position raises the maker counter once the maker order is filled. -/
def writeBackMakerPosition (pending : PendingEntry ℚ) (recoveryId status : String)
    (position : LegPosition) : PendingEntry ℚ :=
  if status = "filled" then
    { pending with
      makerLegFilled :=
        if pending.makerLegFilled < |position.quantity| then |position.quantity|
        else pending.makerLegFilled
      makerFillPrice :=
        if 0 < position.entryPrice ∧ pending.makerFillPrice ≤ 0 then position.entryPrice
        else pending.makerFillPrice
      makerOrderId := textOr pending.makerOrderId recoveryId }
  else pending

def writeBackHedgePosition (pending : PendingEntry ℚ) (recoveryId : String)
    (position : LegPosition) : PendingEntry ℚ :=
  let hedged :=
    if pending.hedgeLegFilled < |position.quantity| then
      (applyPendingEntryHedgeProgress pending
        { newTotalQuantity := |position.quantity|
          price := position.entryPrice
          orderId := if pending.hedgeOrderId = "" then recoveryId else "" }).1
    else pending
  { hedged with
    hedgeFillPrice :=
      if 0 < position.entryPrice ∧ hedged.hedgeFillPrice ≤ 0 then position.entryPrice
      else hedged.hedgeFillPrice
    hedgeOrderId := textOr hedged.hedgeOrderId recoveryId }

def writeBackPosition (pending : PendingEntry ℚ) (entryId : String) (leg : PhysicalLeg)
    (result : LegReconciliation) : PendingEntry ℚ :=
  match result.position with
  | none => pending
  | some position =>
    if |position.quantity| ≤ 0 then pending
    else if pending.makerLeg = leg.name then
      pending.writeBackMakerPosition (recoveryOrderId entryId leg) result.status position
    else pending.writeBackHedgePosition (recoveryOrderId entryId leg) position

/-- Fills and positions of both legs. -/
def writeBackLegs (pending : PendingEntry ℚ) (entryId : String) (result : EntryReconciliation) :
    PendingEntry ℚ :=
  let filled := (pending.writeBackFill .long result.long).writeBackFill .short result.short
  (filled.writeBackPosition entryId .long result.long).writeBackPosition entryId .short
    result.short

/-- The answers reach the counters. -/
def reachesWriteBack (pending : PendingEntry ℚ) (result : EntryReconciliation) : Bool :=
  !(pending.makerReconciliation result).terminalFillQuantityUnavailable &&
    !result.directionConflict

/-- The part of `_reconcile_pending_state` between the answer and the finalizer. -/
def writeBack (pending : PendingEntry ℚ) (entryId : String) (result : EntryReconciliation) :
    PendingEntry ℚ :=
  if (pending.makerReconciliation result).terminalFillQuantityUnavailable = true then
    { pending with uncertainOutcome := true }
  else
    let corrected := pending.correctZeroFill result
    if result.directionConflict = true then { corrected with uncertainOutcome := true }
    else corrected.writeBackLegs entryId result

end PendingEntry

end LightFee.Engine
