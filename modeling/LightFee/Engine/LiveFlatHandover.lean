import Mathlib.Data.List.Sort
import LightFee.Engine.HedgeDelta
import LightFee.Library.KeepFirst

/-!
# Handing a live-flat close over

When both legs are observed flat, the orders and fills of a passive close become one final
record of the reconciliation queue. Rows come from the confirmed legs, the two counters, the
submitted intents and the flattening orders, then from the closes of the same position that an
executor left open, and a complete partial record may be absorbed.

The quantities of a record are computed and have no literal, so a new record keeps its rows
typed; the queue reads their names.
-/

namespace LightFee.Engine

open LightFee.Venues DynValue

/-! ## Rows -/

/-- `_close_reconciliation_record`, before its fee is checked. -/
structure CloseLegRow where
  venue : String
  orderId : String := ""
  clientOrderId : String := ""
  quantity : ExactFloat := .finite 0
  averagePrice : ExactFloat := .finite 0
  feeQuote : Option ExactFloat := none

namespace CloseLegRow

/-- Without evidence there is no fee. -/
def checked (row : CloseLegRow) : CloseLegRow :=
  { row with feeQuote := row.feeQuote.filter (fun fee => feeEvidenceComplete (some fee)) }

/-- The order id, or the client order id without one. -/
def identity (row : CloseLegRow) : String × String :=
  (row.orderId, if row.orderId ≠ "" then "" else row.clientOrderId)

def key (row : CloseLegRow) : String × String × String := (row.venue, row.identity)

def named (row : CloseLegRow) : Bool := decide (row.identity ≠ ("", ""))

/-- What the queue reads of a row. -/
def toDyn (row : CloseLegRow) : DynValue :=
  .dict [("venue", .str row.venue), ("order_id", .str row.orderId),
    ("client_order_id", .str row.clientOrderId)]

end CloseLegRow

/-- The rows of both legs, and the keys that were met. -/
structure HandoverRows where
  rows : ActiveMakerLeg → List CloseLegRow := fun _ => []
  seen : List (String × String × String) := []

/-- `add_record`: the first row of a key is kept. -/
def HandoverRows.add (known : HandoverRows) (entry : ActiveMakerLeg × CloseLegRow) :
    HandoverRows :=
  let (side, row) := entry
  if !row.named && !fillDust.lt row.quantity then known
  else if row.key ∈ known.seen then known
  else
    { rows := fun leg => if leg = side then known.rows leg ++ [row] else known.rows leg
      seen := known.seen ++ [row.key] }

/-- Orders that flattened a leg. -/
structure FlattenEvidence where
  flattenedVenue : String := ""
  flattenedQuantity : ExactFloat := .finite 0
  forceCloseClientOrderIds : List String := []
  acceptedClientOrderIds : List String := []
  forceCloseOrderIds : List String := []
  acceptedOrderIds : List String := []

namespace PendingPassiveClose

/-- Rows of the confirmed legs. -/
def fillRows (pending : PendingPassiveClose) (side : ActiveMakerLeg) : List CloseLegRow :=
  (pending.legsOn side).filterMap (fun leg => (persistedLegFill leg).map (fun fill =>
    CloseLegRow.checked
      { venue := fill.venue.value, orderId := fill.orderId
        clientOrderId := orText leg.clientOrderId (fill.clientOrderId.getD "")
        quantity := fill.quantity, averagePrice := fill.price, feeQuote := fill.feeQuote }))

/-- `add_fill_state`. -/
def fillStateRow (state : PendingPassiveLegFill) (venue : Venue) : CloseLegRow :=
  CloseLegRow.checked
    { venue := venue.value, orderId := state.orderId, clientOrderId := state.clientOrderId
      quantity := state.quantity, averagePrice := state.averagePrice
      feeQuote := if state.feeEvidenceComplete then some state.feeQuote else none }

/-- `add_intent_records`: every unresolved submission is looked up later. -/
def intentRows (pending : PendingPassiveClose) (side : ActiveMakerLeg) (venue : Venue) :
    List CloseLegRow :=
  ((pending.legsOn side).filter (fun leg =>
      leg.fill.isNone && (decide (leg.orderId ≠ "") || decide (leg.clientOrderId ≠ "")))).map
    (fun leg =>
      { venue := venue.value, orderId := leg.orderId, clientOrderId := leg.clientOrderId })

end PendingPassiveClose

/-- Rows of flattening orders, when their venue is one of the position's. -/
def FlattenEvidence.rows [TextCase] (extra : FlattenEvidence) (position : OpenPosition) :
    List (ActiveMakerLeg × CloseLegRow) :=
  match Venue.fromStr extra.flattenedVenue with
  | none => []
  | some venue =>
    let clientIds := (extra.forceCloseClientOrderIds ++ extra.acceptedClientOrderIds).filter
      (fun id => decide (id ≠ ""))
    let orderIds := (extra.forceCloseOrderIds ++ extra.acceptedOrderIds).filter
      (fun id => decide (id ≠ ""))
    let row (index : Nat) : CloseLegRow :=
      { venue := venue.value, orderId := orderIds.getD index ""
        clientOrderId := clientIds.getD index ""
        quantity := if index = 0 then extra.flattenedQuantity else .finite 0 }
    let rows := (List.range (max clientIds.length orderIds.length)).map row
    if venue = position.longVenue then rows.map (fun row => (.long, row))
    else if venue = position.shortVenue then rows.map (fun row => (.short, row))
    else []

/-- The rows in the order in which they are added. -/
def handoverEntries [TextCase] (pending : PendingPassiveClose) (position : OpenPosition)
    (extra : Option FlattenEvidence) : List (ActiveMakerLeg × CloseLegRow) :=
  let maker := pending.phaseState.activeMakerLeg
  let hedge := pending.hedgeLeg
  (pending.fillRows .long).map (fun row => (.long, row)) ++
    (pending.fillRows .short).map (fun row => (.short, row)) ++
    [(maker, PendingPassiveClose.fillStateRow pending.makerFill (position.venueOn maker)),
      (hedge, PendingPassiveClose.fillStateRow pending.hedgeFill (position.venueOn hedge))] ++
    (pending.intentRows .long position.longVenue).map (fun row => (.long, row)) ++
    (pending.intentRows .short position.shortVenue).map (fun row => (.short, row)) ++
    match extra with
    | none => []
    | some extra => extra.rows position

/-- `_pending_close_reconciliation_records`. -/
def pendingCloseReconciliationRecords [TextCase] (pending : PendingPassiveClose)
    (position : OpenPosition) (extra : Option FlattenEvidence) :
    ActiveMakerLeg → List CloseLegRow :=
  ((handoverEntries pending position extra).foldl HandoverRows.add {}).rows

/-! ## Closes of the executor -/

namespace PendingClose

def legsOn (pending : PendingClose) : ActiveMakerLeg → List CloseLegRecord
  | .long => pending.longLegs
  | .short => pending.shortLegs

def closedOn (pending : PendingClose) : ActiveMakerLeg → ExactFloat
  | .long => pending.longClosed
  | .short => pending.shortClosed

end PendingClose

def CloseLegRow.duplicates (row existing : CloseLegRow) : Bool :=
  decide (existing.venue = row.venue) && decide (existing.orderId = row.orderId) &&
    (decide (row.orderId ≠ "") || decide (existing.clientOrderId = row.clientOrderId))

def CloseLegRecord.row (leg : CloseLegRecord) : CloseLegRow :=
  { venue := leg.venue, orderId := leg.orderId, clientOrderId := leg.clientOrderId
    quantity := leg.quantity, averagePrice := leg.averagePrice
    feeQuote := some (leg.feeQuote.getD (.finite 0)) }

/-- A leg of the executor joins the rows unless one of them is its order. -/
def absorbExecutorLeg (rows : List CloseLegRow) (leg : CloseLegRecord) : List CloseLegRow :=
  if leg.orderId = "" ∧ leg.clientOrderId = "" then rows
  else if rows.any leg.row.duplicates then rows
  else rows ++ [leg.row]

/-- Rows and owned quantities of a record in the making. -/
structure HandoverEvidence where
  rows : ActiveMakerLeg → List CloseLegRow
  owned : ActiveMakerLeg → ExactFloat

/-- Evidence of a close of the same position; an owned quantity never falls. -/
def HandoverEvidence.absorbExecutor (positionId : String) (evidence : HandoverEvidence)
    (close : PendingClose) : HandoverEvidence :=
  if close.positionId ≠ positionId then evidence
  else
    { rows := fun side => (close.legsOn side).foldl absorbExecutorLeg (evidence.rows side)
      owned := fun side =>
        if (evidence.owned side).lt (close.closedOn side) then close.closedOn side
        else evidence.owned side }

/-! ## Queued records -/

/-- A quantity that a record can own. -/
def ownedQuantity (value : DynValue) : Option ExactFloat :=
  value.toFloat?.filter (fun quantity => quantity.isFinite && (ExactFloat.finite 0).le quantity)

/-- The first key that is present decides. -/
def legacyOwnedQuantity (source : DynValue) (keys : List String) : Option ExactFloat :=
  (keys.find? source.hasKey).bind (fun key => ownedQuantity (source.get key))

def mappingOr (value : DynValue) : DynValue := if value.isMapping then value else .dict []

/-- `pending_close_reconciliation_owned_quantities`. -/
def ownedCloseQuantities (reconciliation : DynValue) : Option (ActiveMakerLeg → ExactFloat) :=
  let explicit := reconciliation.get "owned_close_quantities"
  let isPartial := decide (((reconciliation.get "kind").orElse (.str "final")).text = "partial")
  let source := mappingOr (reconciliation.get
    (if isPartial then "original_payload" else "position_snapshot"))
  let read (label : String) : Option ExactFloat :=
    if !explicit.isNull then
      if explicit.hasKey label then ownedQuantity (explicit.get label) else none
    else if isPartial then legacyOwnedQuantity source [label ++ "_closed_qty"]
    else legacyOwnedQuantity source [label ++ "_quantity", "matched_quantity"]
  match read "long", read "short" with
  | some long, some short => some (fun | .long => long | .short => short)
  | _, _ => none

/-- `pending_close_reconciliation_missing_legs`. -/
def pendingCloseReconciliationMissingLegs (reconciliation : DynValue) : List String :=
  let identified (leg : DynValue) :=
    leg.isMapping && ((leg.get "order_id").orElse (leg.get "client_order_id")).truthy
  let missing (side : ActiveMakerLeg) (owned : ExactFloat) : List String :=
    match reconciliation.get (side.label ++ "_legs") with
    | .list legs =>
      if legs.all identified && (!legs.isEmpty || owned.le fillDust) then [] else [side.label]
    | _ => [side.label]
  match ownedCloseQuantities reconciliation with
  | some owned => missing .long (owned .long) ++ missing .short (owned .short)
  | none => ["long", "short"]

/-- `durable_records`: named rows of the venue, each identity once. -/
def durableRecords [TextCase] (records : List DynValue) (venue : Venue) : List DynValue :=
  let durable (record : DynValue) : Bool :=
    record.isMapping && decide (textOf (record.get "venue") = venue.value) &&
      !TextSearch.occursIn "-recovery-" (TextCase.lower (textOf (record.get "order_id")))
  (records.filter durable).foldl (fun retained record =>
    match legIdentity record with
    | none => retained
    | some identity =>
      if some identity ∈ retained.map legIdentity then retained else retained ++ [record]) []

/-- A complete partial record that the final one takes over. -/
structure AbsorbedPartial where
  task : DynValue
  closedAtMs : Int
  prior : ActiveMakerLeg → List DynValue
  owned : ActiveMakerLeg → ExactFloat

/-- Whether a queued record can be absorbed: a complete partial of the same pair that is not
younger and names every leg that the final record misses. -/
def absorbablePartial [TextCase] (positionId : String) (position : OpenPosition)
    (closedAtMs : Int) (evidence : HandoverEvidence) (missing : List String)
    (existing : DynValue) : Option AbsorbedPartial := do
  let snapshot := existing.get "position_snapshot"
  let sameOwner := decide (textOf (existing.get "position_id") = positionId) &&
    decide (((existing.get "kind").orElse (.str "final")).text = "partial") &&
    !isText (existing.get "reconciliation_status") "evidence_debt" &&
    (pendingCloseReconciliationMissingLegs existing).isEmpty
  let samePair := snapshot.isMapping &&
    decide (textOf ((existing.get "symbol").orElse (snapshot.get "symbol")) = position.symbol) &&
    decide (textOf (snapshot.get "long_venue") = position.longVenue.value) &&
    decide (textOf (snapshot.get "short_venue") = position.shortVenue.value)
  guard (existing.isMapping && sameOwner && samePair)
  let closed ← ((existing.get "closed_at_ms").orElse (.int 0)).toInt?
  guard (closed ≤ closedAtMs)
  guard ([ActiveMakerLeg.long, .short].all (fun side =>
    (evidence.owned side).isFinite && (ExactFloat.finite 0).le (evidence.owned side)))
  let owned ← ownedCloseQuantities existing
  let prior (side : ActiveMakerLeg) : List DynValue :=
    match existing.get (side.label ++ "_legs") with
    | .list records => durableRecords records (position.venueOn side)
    | _ => []
  guard ([ActiveMakerLeg.long, .short].all (fun side => !missing.contains side.label ||
    ((evidence.rows side).isEmpty && !(prior side).isEmpty)))
  return { task := existing, closedAtMs := closed, prior := prior, owned := owned }

section Merging

/-- Two identities are equal exactly where both texts are. -/
local instance identity_lawful : LawfulBEq (String × String) := inferInstance

/-- `merge_records`: prior rows whose identity is new. -/
def mergePrior (current : List CloseLegRow) (prior : List DynValue) : List DynValue :=
  (prior.foldl (fun (merged : List DynValue × List (String × String)) record =>
    let identity := (legIdentity record).getD ("", "")
    if identity ∈ merged.2 then merged else (merged.1 ++ [record], merged.2 ++ [identity]))
    ([], (current.filter CloseLegRow.named).map CloseLegRow.identity)).1

end Merging

/-! ## The final record -/

/-- A final record: its rows, the rows it takes over, and what it owns. -/
structure LiveFlatRecord where
  positionId : String
  symbol : String
  reason : String
  source : String
  closedAtMs : Int
  createdCycle : Int
  positionSnapshot : DynValue
  originalPayload : DynValue
  rows : ActiveMakerLeg → List CloseLegRow
  prior : ActiveMakerLeg → List DynValue := fun _ => []
  owned : ActiveMakerLeg → ExactFloat
  absorbed : Option Int := none
  missingIdentityLegs : List String

namespace LiveFlatRecord

def legs (record : LiveFlatRecord) (side : ActiveMakerLeg) : List DynValue :=
  (record.rows side).map CloseLegRow.toDyn ++ record.prior side

/-- What the queue stores. -/
def toDyn (record : LiveFlatRecord) : DynValue :=
  .dict ([("position_id", .str record.positionId), ("symbol", .str record.symbol),
      ("kind", .str "final"), ("reason", .str record.reason), ("source", .str record.source),
      ("closed_at_ms", .int record.closedAtMs), ("created_cycle", .int record.createdCycle),
      ("position_snapshot", record.positionSnapshot),
      ("original_payload", record.originalPayload),
      ("long_legs", .list (record.legs .long)), ("short_legs", .list (record.legs .short)),
      ("attempt_count", .int 0), ("next_attempt_ms", .int record.closedAtMs),
      ("reconciliation_mode", .str
        (if record.missingIdentityLegs.isEmpty then "order_identity"
        else "venue_execution_history_required")),
      ("missing_close_order_identity", .bool (!record.missingIdentityLegs.isEmpty)),
      ("billing_reconciliation_required", .bool true)] ++
    (if record.missingIdentityLegs.isEmpty then []
      else [("unattributed_exchange_close_legs",
        .list (record.missingIdentityLegs.map DynValue.str))]) ++
    match record.absorbed with
    | none => []
    | some closedAtMs => [("absorbed_partial_reconciliations",
        .list [.dict [("kind", .str "partial"), ("closed_at_ms", .int closedAtMs)]])])

end LiveFlatRecord

/-! ## Registration -/

/-- `order_id or client_order_id`, as a text. -/
def identityText (leg : DynValue) : Option String :=
  let value := (leg.get "order_id").orElse (leg.get "client_order_id")
  if leg.isMapping && value.truthy then some value.text else none

def sortedIdentities (legs : List DynValue) : List String :=
  (legs.filterMap identityText).insertionSort (· ≤ ·)

/-- Items of a leg of a queued record; a value that cannot be iterated raises. -/
def iteratedLegs (existing : DynValue) (field : String) : Option (List DynValue) :=
  match existing.get field (.list []) with
  | .list legs => some legs
  | .str _ | .dict _ => some []
  | _ => none

def existingKey (existing : DynValue) : Option (List String) := do
  let long ← iteratedLegs existing "long_legs"
  let short ← iteratedLegs existing "short_legs"
  return sortedIdentities (long ++ short)

/-- Whether a queued record of the position has the same orders; `none` when a record before it
raises. -/
def alreadyRegistered (record : LiveFlatRecord) (orderKey : List String) :
    List DynValue → Option Bool
  | [] => some false
  | existing :: rest =>
    if !existing.isMapping then alreadyRegistered record orderKey rest
    else
      match existingKey existing with
      | none => none
      | some key =>
        if isText (existing.get "position_id") record.positionId && decide (key = orderKey) &&
            record.absorbed.isNone && (record.missingIdentityLegs.isEmpty ||
              isText (existing.get "reconciliation_mode") "venue_execution_history_required") then
          some true
        else alreadyRegistered record orderKey rest

/-- The arguments and the moment of a hand-over. -/
structure HandoverCall where
  live : Bool := true
  source : String
  payload : DynValue := .dict []
  extra : Option FlattenEvidence := none
  nowMs : Int

section Registration

variable [TextCase] (runtime : RuntimeState) (pending : PendingPassiveClose)
  (position : OpenPosition) (call : HandoverCall)

/-- Rows and owned quantities before a partial record is absorbed. -/
def handoverEvidence : HandoverEvidence :=
  runtime.engine.pendingCloses.values.foldl (HandoverEvidence.absorbExecutor pending.positionId)
    { rows := pendingCloseReconciliationRecords pending position call.extra
      owned := fun
        | .long => position.longQuantity.max (.finite 0)
        | .short => position.shortQuantity.max (.finite 0) }

def HandoverEvidence.missing (evidence : HandoverEvidence)
    (prior : ActiveMakerLeg → List DynValue) : List String :=
  missingIdentityLegs (evidence.owned .long) (evidence.owned .short)
    ((evidence.rows .long).map CloseLegRow.toDyn ++ prior .long)
    ((evidence.rows .short).map CloseLegRow.toDyn ++ prior .short)

/-- The first partial record that is absorbed; a record that misses nothing absorbs none. -/
def absorbedPartial : Option AbsorbedPartial :=
  let evidence := handoverEvidence runtime pending position call
  let missing := evidence.missing (fun _ => [])
  if missing.isEmpty then none
  else runtime.pendingCloseReconciliations.findSome?
    (absorbablePartial pending.positionId position call.nowMs evidence missing)

/-- The record that the close hands over. -/
def liveFlatRecord : LiveFlatRecord :=
  let evidence := handoverEvidence runtime pending position call
  let absorbed := absorbedPartial runtime pending position call
  let prior (side : ActiveMakerLeg) : List DynValue :=
    match absorbed with
    | none => []
    | some partial' => mergePrior (evidence.rows side) (partial'.prior side)
  let owned (side : ActiveMakerLeg) : ExactFloat :=
    match absorbed with
    | none => evidence.owned side
    | some partial' => (evidence.owned side).add (partial'.owned side)
  let missing := { evidence with owned := owned }.missing prior
  let unnamed := (evidence.rows .long ++ evidence.rows .short).all (fun row => !row.named) &&
    (prior .long ++ prior .short).isEmpty
  { positionId := pending.positionId
    symbol := position.symbol
    reason := pending.reason
    source := call.source
    closedAtMs := call.nowMs
    createdCycle := runtime.tickCount
    positionSnapshot := closeReconciliationPositionSnapshot position
    originalPayload := call.payload
    rows := evidence.rows
    prior := prior
    owned := owned
    absorbed := absorbed.map AbsorbedPartial.closedAtMs
    missingIdentityLegs := if unnamed && missing.isEmpty then ["long", "short"] else missing }

/-- What a hand-over does. -/
inductive HandoverPlan where
  | notLive
  /-- A queued record covers the close already. -/
  | registered
  | register (record : LiveFlatRecord) (absorbed : Option DynValue)

/-- `_register_close_reconciliation_after_live_flat` up to its journal record. -/
def planHandover : Option HandoverPlan :=
  if !call.live then some .notLive
  else
    let record := liveFlatRecord runtime pending position call
    let orderKey := sortedIdentities (record.legs .long ++ record.legs .short)
    (alreadyRegistered record orderKey runtime.pendingCloseReconciliations).map (fun found =>
      if found then .registered
      else .register record ((absorbedPartial runtime pending position call).map
        AbsorbedPartial.task))

/-- The queue after a registration. -/
def handOver (queue : List DynValue) (record : LiveFlatRecord) (absorbed : Option DynValue) :
    List DynValue :=
  let queued := enqueuePendingCloseReconciliation (.list queue) record.toDyn
  match absorbed with
  | none => queued
  | some task => removePendingCloseReconciliation queued task

end Registration

end LightFee.Engine
