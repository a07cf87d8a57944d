import LightFee.Engine.RecoveryDecisionCore
import LightFee.Engine.RecoveryPairTruth
import LightFee.Library.KeyedMerge

/-!
# The recovery ledger

Local records and exchange truth are classified into work items. Items of one kind,
symbol and owner are merged into the first of them: it keeps its decision and
collects the venues and artifacts of the later ones.
-/

namespace LightFee.Engine

open DynValue

variable [TextCase]

structure RecoveryWorkDecision where
  outcome : String
  reason : String := ""
  blocking : Bool := true
deriving DecidableEq, Repr

structure RecoveryWorkItem where
  kind : String
  symbol : String := ""
  venues : Finset String := ∅
  artifacts : List ExchangeArtifact := []
  owner : Option RecoveryOwner := none
  decision : RecoveryWorkDecision :=
    { outcome := "fail_closed_operator_block", reason := "unclassified_recovery_work" }
  blocking : Bool := true
deriving DecidableEq

structure RecoveryLedger where
  workItems : List RecoveryWorkItem := []
  truthAvailable : Bool := true
  liveSymbols : List String := []
  positiveFillSymbols : List String := []

/-! ## Reading records -/

/-- A row's symbol, else its snapshot's, canonical at the row's venue. -/
def ledgerSymbolOf (venue symbol snapshotSymbol : String) : String :=
  Venues.canonicalSymbolFromVenue venue
    (if TextCase.upper symbol ≠ "" then TextCase.upper symbol else TextCase.upper snapshotSymbol)

def ledgerSymbol (row : DynValue) : String :=
  ledgerSymbolOf (venueOf row) (textOf (row.get "symbol" (.str "")))
    (textOf ((row.get "position_snapshot" (.dict [])).get "symbol" (.str "")))

def ledgerVenueFromKey (row : DynValue) (key : String) : String :=
  lowerText (row.get key (.str "")).unwrap

def ledgerVenues (row : DynValue) (keys : List String) : List String :=
  keys.map (ledgerVenueFromKey row)

/-- The texts of a list that are not empty, as a set. -/
def namedVenues (venues : List String) : Finset String :=
  (venues.filter (fun venue => venue ≠ "")).toFinset

def venuesFromLocalEntry (entry : DynValue) : Finset String :=
  namedVenues (ledgerVenues entry ["long_venue", "short_venue", "maker_venue", "hedge_venue"])

def venuesFromClose (close : DynValue) : List String :=
  ledgerVenues close ["venue", "long_venue", "short_venue"] ++
    ledgerVenues (close.get "position_snapshot") ["long_venue", "short_venue"]

def venuesFromCandidate (candidate : DynValue) : Finset String :=
  namedVenues (ledgerVenues candidate ["venue", "long_venue", "short_venue"])

/-- `float(value or 0.0)`, with failures and not-a-number read as zero. -/
def ledgerFloat (value : DynValue) : ExactFloat :=
  match (value.orElse (.int 0)).toFloat? with
  | some .notANumber | none => .finite 0
  | some number => number

def isPositiveAmount (amount : ExactFloat) : Bool := (ExactFloat.finite epsilon).lt amount

/-! ## Merging -/

/-- Kind, symbol and owner of an item. -/
def RecoveryWorkItem.key (item : RecoveryWorkItem) : String × String × String :=
  (item.kind, item.symbol, (item.owner.map RecoveryOwner.ownerId).getD "")

/-- The later item of a key gives its artifacts and venues to the first. -/
def RecoveryWorkItem.merge (previous item : RecoveryWorkItem) : RecoveryWorkItem :=
  { previous with
    artifacts := previous.artifacts ++ item.artifacts
    venues := previous.venues ∪ item.venues }

def addAllWork (items new : List RecoveryWorkItem) : List RecoveryWorkItem :=
  KeyedMerge.addAll RecoveryWorkItem.key RecoveryWorkItem.merge items new

/-! ## Obligations of local records -/

def evidenceGapItem : RecoveryWorkItem where
  kind := "ambiguous_exchange_truth"
  decision := {
    outcome := "evidence_gap_observed"
    reason := "exchange_truth_unavailable_without_recovery_work"
    blocking := false }
  blocking := false

def pendingEntryItem (pending : DynValue) : Option RecoveryWorkItem :=
  let symbol := ledgerSymbol pending
  if symbol = "" then none
  else some {
    kind := "owned_pending_entry"
    symbol := symbol
    venues := venuesFromLocalEntry pending
    owner := some {
      ownerType := "pending_entry"
      ownerId := (pending.get "pending_id" (pending.get "position_id" (.str symbol))).text
      confidence := "proven" }
    decision := { outcome := "managed_open_position", reason := "pending_entry_requires_terminalizer" } }

def pendingEntryIsFilled (pending : DynValue) : Bool :=
  isPositiveAmount (ledgerFloat (pending.get "maker_leg_filled" (.int 0))) ||
    isPositiveAmount (ledgerFloat (pending.get "hedge_leg_filled" (.int 0)))

def fillItem (fill : DynValue) : Option RecoveryWorkItem :=
  let symbol := ledgerSymbol fill
  let quantity := ledgerFloat (fill.get "filled_quantity" (fill.get "quantity" (.int 0)))
  let classification := lowerText (fill.get "classification" (.str ""))
  if quantity.le (.finite epsilon) && !TextSearch.occursIn "positive" classification then none
  else some {
    kind := "owned_pending_entry"
    symbol := symbol
    venues := namedVenues [venueOf fill]
    artifacts := [{
      kind := "fill_evidence"
      symbol := symbol
      venue := venueOf fill
      side := lowerText (fill.get "side" (.str ""))
      quantity := quantity
      price := ledgerFloat (fill.get "average_price" (.int 0))
      orderId := textOf (fill.get "order_id" (.str ""))
      clientOrderId := textOf (fill.get "client_order_id" (.str "")) }]
    owner := some {
      ownerType := "fill_evidence"
      ownerId := ((fill.get "client_order_id" (fill.get "order_id" (.str symbol))).orElse
        (.str symbol)).text
      confidence := "proven" }
    decision := { outcome := "managed_open_position", reason := "positive_fill_requires_recovery" } }

def residualItem (liveSymbols : List String) (truthAvailable : Bool) (task : DynValue) :
    Option RecoveryWorkItem :=
  let symbol := ledgerSymbol task
  if symbol = "" then none
  else some {
    kind := "pending_residual_repair"
    symbol := symbol
    venues := namedVenues [venueOf task]
    owner := some {
      ownerType := "residual_repair"
      ownerId := (task.get "repair_id" (task.get "task_id" (.str symbol))).text
      confidence := "proven" }
    decision := {
      outcome := if symbol ∉ liveSymbols ∧ truthAvailable then "proven_flat"
        else "residual_repair_queued"
      reason := "residual_repair_requires_terminal_resolution" } }

def passiveCloseItem (close : DynValue) : RecoveryWorkItem :=
  let symbol := ledgerSymbol close
  { kind := "pending_passive_close"
    symbol := symbol
    venues := namedVenues (venuesFromClose close)
    owner := some {
      ownerType := "passive_close"
      ownerId := (close.get "position_id" (.str symbol)).text
      confidence := "proven" }
    decision := { outcome := "pending_passive_close", reason := "passive_close_requires_recovery" } }

/-- Terminal accounting debt of a pair that the truth proves flat. -/
def isBackgroundAccountingDebt (exchangeTruth reconciliation : DynValue) : Bool :=
  isEvidenceDebt reconciliation &&
    completeFlatTruthForPair exchangeTruth (ledgerSymbol reconciliation)
      (venuesFromClose reconciliation)

def closeReconciliationItem (exchangeTruth : DynValue) (index : Nat) (reconciliation : DynValue) :
    RecoveryWorkItem :=
  let positionId := textOf (reconciliation.get "position_id" (reconciliation.get "close_id" (.str "")))
  let background := isBackgroundAccountingDebt exchangeTruth reconciliation
  { kind := "pending_close_reconciliation"
    symbol := ledgerSymbol reconciliation
    venues := namedVenues (venuesFromClose reconciliation)
    owner := some {
      ownerType := "close_reconciliation"
      ownerId := if positionId ≠ "" then positionId else "compact-" ++ toString index
      confidence := if positionId ≠ "" then "proven" else "inferred" }
    decision := {
      outcome := if background then "background_accounting_reconciliation"
        else "pending_close_reconciliation"
      reason := if background then "close_reconciliation_requires_accounting_evidence"
        else "close_reconciliation_requires_terminal_resolution"
      blocking := !background }
    blocking := !background }

/-! ## Obligations of live rows -/

/-- A leg that should be live beside another leg of its owner. -/
def missingItem (missing : ExchangeArtifact) : RecoveryWorkItem where
  kind := "unpaired_live_position"
  symbol := missing.symbol
  venues := {missing.venue}
  artifacts := [missing]
  owner := some { ownerType := "exchange_position", ownerId := missing.symbol }
  decision := { outcome := "fail_closed_operator_block", reason := "owned_live_pair_missing_leg" }

def positionArtifact (position : DynValue) : ExchangeArtifact where
  kind := "position"
  symbol := ledgerSymbol position
  venue := venueOf position
  side := lowerText (position.get "side" (.str ""))
  quantity := RecoveryOwnerIndex.observedQuantity position
  price := ledgerFloat (position.get "entry_price" (.int 0))

/-- A row of zero size is no obligation; an unreadable one is. -/
def isZeroRow (position : DynValue) : Bool :=
  let quantity := RecoveryOwnerIndex.observedQuantity position
  quantity.isFinite && quantity.abs.le (.finite epsilon)

def positionItem (position : DynValue) (owner : RecoveryOwner) : RecoveryWorkItem :=
  let artifact := positionArtifact position
  let venues := namedVenues [artifact.venue]
  if owner.confidence ≠ "orphan" then
    if ["pending_entry", "journal_pending_entry", "journal_entry_submission"].contains
        owner.ownerType then
      { kind := "owned_pending_entry_live_conflict"
        symbol := artifact.symbol
        venues := venues
        artifacts := [artifact]
        owner := some owner
        decision := {
          outcome := "pending_entry_live_conflict_requires_cleanup"
          reason := "exchange_position_owned_by_positive_fill_pending_entry" } }
    else
      { kind := "owned_open_position"
        symbol := artifact.symbol
        venues := venues
        artifacts := [artifact]
        owner := some owner
        decision := {
          outcome := "managed_open_position"
          reason := "exchange_position_has_runtime_owner"
          blocking := false }
        blocking := false }
  else
    { kind := "unpaired_live_position"
      symbol := artifact.symbol
      venues := venues
      artifacts := [artifact]
      owner := some owner
      decision := { outcome := "fail_closed_operator_block", reason := "live_position_without_runtime_owner" } }

def orderArtifact (order : DynValue) : ExchangeArtifact where
  kind := "open_order"
  symbol := ledgerSymbol order
  venue := venueOf order
  side := lowerText (order.get "side" (.str ""))
  quantity := RecoveryOwnerIndex.floatOf (order.get "quantity" (order.get "qty"))
  price := ledgerFloat (order.get "price" (.int 0))
  reduceOnly := (order.get "reduce_only" (.bool false)).truthy
  orderId := textOf (order.get "order_id" (.str ""))
  clientOrderId := textOf (order.get "client_order_id" (.str ""))

def orderItem (ownerIndex : RecoveryOwnerIndex) (order : DynValue) : RecoveryWorkItem :=
  let artifact := orderArtifact order
  let venues := namedVenues [artifact.venue]
  let owner := ownerIndex.ownerForOrder artifact
  if owner.confidence ≠ "orphan" then
    { kind := "owned_pending_entry"
      symbol := artifact.symbol
      venues := venues
      artifacts := [artifact]
      owner := some owner
      decision := { outcome := "owned_order_cancel_requested", reason := "live_order_has_runtime_owner" } }
  else
    { kind := if artifact.reduceOnly then "orphan_reduce_only_order" else "orphan_maker_order"
      symbol := artifact.symbol
      venues := venues
      artifacts := [artifact]
      owner := some {
        ownerType := "exchange_order"
        ownerId := if artifact.orderId ≠ "" then artifact.orderId else artifact.clientOrderId }
      decision := {
        outcome := if artifact.reduceOnly then "reduce_only_cleanup_submitted"
          else "fail_closed_operator_block"
        reason := "live_order_without_runtime_owner" } }

/-! ## The ledger -/

namespace RecoveryLedger

def truthIsAvailable (exchangeTruth : DynValue) : Bool :=
  exchangeTruthAvailable exchangeTruth && !hasPartialExchangeEvidence exchangeTruth

/-- The rows of a size that is not zero, with their owners. -/
def liveRows (ownerIndex : RecoveryOwnerIndex) (exchangeTruth : DynValue) :
    List (DynValue × RecoveryOwner) :=
  let positions := exchangePositions exchangeTruth
  (positions.zip (ownerIndex.ownersForPositions positions)).filter (fun row => !isZeroRow row.1)

/-- What is handed to the merge before the residual repairs. -/
def liveObligations (ownerIndex : RecoveryOwnerIndex) (localState exchangeTruth : DynValue) :
    List RecoveryWorkItem :=
  (if truthIsAvailable exchangeTruth then [] else [evidenceGapItem]) ++
    (localState.get "pending_entries" (.list [])).items.filterMap pendingEntryItem ++
    (localState.get "fill_evidence" (.list [])).items.filterMap fillItem ++
    (if isCompleteAccountTruth exchangeTruth then
      (ownerIndex.missingPositionClaims (exchangePositions exchangeTruth)).map missingItem else []) ++
    (liveRows ownerIndex exchangeTruth).map (fun row => positionItem row.1 row.2) ++
    (exchangeOpenOrders exchangeTruth).map (orderItem ownerIndex)

/-- Symbols of orphan orders and of live positions. -/
def liveScopes (items : List RecoveryWorkItem) : List String :=
  (items.filter (fun item => ["orphan_maker_order", "orphan_reduce_only_order",
    "unpaired_live_position", "owned_open_position", "owned_pending_entry_live_conflict"].contains
      item.kind)).map RecoveryWorkItem.symbol

/-- What is handed to the merge from the residual repairs on. -/
def closingObligations (liveItems : List RecoveryWorkItem) (localState exchangeTruth : DynValue) :
    List RecoveryWorkItem :=
  (localState.get "pending_residual_repairs" (.list [])).items.filterMap
      (residualItem (liveScopes liveItems) (truthIsAvailable exchangeTruth)) ++
    (localState.get "pending_passive_closes" (.list [])).items.map passiveCloseItem ++
    (pendingCloseReconciliationEvidence localState).mapIdx (closeReconciliationItem exchangeTruth)

/-- Without an index of its own the ledger takes the local claims. -/
def indexFor (localState : DynValue) (ownerIndex : Option RecoveryOwnerIndex) : RecoveryOwnerIndex :=
  ownerIndex.getD (.fromState localState)

def fromLocalAndExchangeTruth (localState exchangeTruth : DynValue)
    (ownerIndex : Option RecoveryOwnerIndex := none) : RecoveryLedger :=
  let index := indexFor localState ownerIndex
  let liveItems := addAllWork [] (liveObligations index localState exchangeTruth)
  { workItems := addAllWork liveItems (closingObligations liveItems localState exchangeTruth)
    truthAvailable := truthIsAvailable exchangeTruth
    liveSymbols := (liveRows index exchangeTruth).map (fun row => ledgerSymbol row.1) ++
      (exchangeOpenOrders exchangeTruth).map ledgerSymbol
    positiveFillSymbols :=
      (((localState.get "pending_entries" (.list [])).items.filter (fun pending =>
        ledgerSymbol pending ≠ "" && pendingEntryIsFilled pending)).map ledgerSymbol) ++
      (((localState.get "fill_evidence" (.list [])).items.filterMap fillItem).map
        RecoveryWorkItem.symbol) }

end RecoveryLedger

/-! ## Candidates -/

def itemSymbol (item : RecoveryWorkItem) : String :=
  ledgerSymbolOf (lowerText (.str "")) item.symbol ""

def itemVenues (item : RecoveryWorkItem) : Finset String :=
  (item.venues.filter (fun venue => venue ≠ "")).image TextCase.lower

/-- The scope of a work item: the account, its pair or its venues. -/
def recoveryWorkItemBlocksCandidate (item : RecoveryWorkItem) (candidate : DynValue) : Bool :=
  let venues := itemVenues item
  let candidateVenues := venuesFromCandidate candidate
  if !item.blocking then false
  else if liveArtifactBlockReasons.contains item.kind then true
  else if ledgerSymbol candidate ≠ "" ∧ itemSymbol item ≠ "" then
    if ledgerSymbol candidate ≠ itemSymbol item then false
    else if item.kind = "pending_close_reconciliation" then
      candidateVenues = ∅ || venues = ∅ || candidateVenues = venues
    else candidateVenues = ∅ || venues = ∅ || candidateVenues ∩ venues ≠ ∅
  else candidateVenues ∩ venues ≠ ∅

end LightFee.Engine
