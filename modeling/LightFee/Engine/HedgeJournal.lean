import LightFee.Engine.CloseEvidence
import LightFee.Engine.HedgeRemainder
import LightFee.Engine.SnapshotValue
import LightFee.Library.LastMatch

/-!
# Hedge submissions read back from the journal

An attempt is journalled before the order is sent and its result afterwards. Read back, a result
with a usable cumulative quantity counts as a fill, a confirmed rejection frees the order, and every
other record leaves the order in flight. The uncertainty from before an attempt is kept beside the
entry until the attempt is resolved.
-/

namespace LightFee.Engine

open LightFee.Venues

/-! ## Conversions -/

/-- Why a conversion fails. The replay catches a refused value; an overflow ends it. -/
inductive ReadFault where
  | refused
  | overflow

/-- `float(value)`. -/
def readFloat : DynValue → Except ReadFault ExactFloat
  | .int value => if value.natAbs < floatOverflow then .ok (.finite value) else .error .overflow
  | value => value.toFloat?.elim (.error .refused) .ok

/-- `int(value)`. -/
def readInt (value : DynValue) : Except ReadFault Int :=
  match value with
  | .float number =>
    match number.value with
    | .infinite _ => .error .overflow
    | _ => value.toInt?.elim (.error .refused) .ok
  | _ => value.toInt?.elim (.error .refused) .ok

/-- A refused value has a default. -/
def orRefused {α : Type} (read : Except ReadFault α) (default : α) : Except ReadFault α :=
  match read with
  | .error .refused => .ok default
  | read => read

/-! ## Reading a record -/

section Reading

variable [TextCase]

inductive HedgeSubmitKind where
  | attempt
  | result
deriving DecidableEq

/-- A `pending_entry.hedge_submit_*` record of the entry. -/
structure HedgeSubmitRecord where
  kind : HedgeSubmitKind
  payload : DynValue

/-- `HedgeInflight.from_dict`. A quantity that is not finite has no rational and is read as 0. -/
def HedgeInflight.ofDict (data : DynValue) : Except ReadFault (HedgeInflight ℚ) := do
  let venue ← (venueOfValue (data.get "venue" (.str "")).text).elim (.error .refused) .ok
  let side ← (Side.ofValue (data.get "side" (.str "")).text).elim (.error .refused) .ok
  let quantity ← readFloat (data.get "quantity" (.int 0))
  let attempt ← readInt (data.get "attempt" (.int 0))
  let submittedAtMs ← readInt (data.get "submitted_at_ms" (.int 0))
  return {
    clientOrderId := (data.get "client_order_id" (.str "")).text
    venue := venue
    side := side
    quantity := quantity.toRat
    attempt := attempt
    submittedAtMs := submittedAtMs
    softDeadlineLogged := (data.get "soft_deadline_logged" (.bool false)).truthy }

/-- `_restore_hedge_inflight`; an old snapshot holds the client order id only. -/
def restoreHedgeOwner (raw : DynValue) : Except ReadFault (Option (HedgeInflight ℚ)) :=
  match raw with
  | .dict _ => (HedgeInflight.ofDict raw).map some
  | .str clientOrderId =>
    if clientOrderId = "" then .ok none
    else .ok (some
      { clientOrderId := clientOrderId, venue := .bybit, side := .buy, quantity := 0 })
  | _ => .ok none

/-- The order in flight that a record shows: written in full, or put together from its client order
id with the entry's own values where it names none. -/
inductive RecordedOwner where
  | restored (inflight : HedgeInflight ℚ)
  | named (clientOrderId : String) (venue : Option Venue) (side : Option Side)
      (quantity : Option ℚ) (attempt : Int)

/-- What is read of a record that leaves an order in flight. -/
structure HedgeOwnerRecord where
  clientOrderId : String
  attempt : Int
  orderId : String
  owner : Option RecordedOwner
  uncertainBeforeSubmit : Option Bool
  acceptedFillUnconfirmed : Bool

/-- What is read of a confirmed fill; the quantity is cumulative. -/
structure HedgeFillRecord where
  totalQuantity : ℚ
  clientOrderId : String
  attempt : Int
  price : ℚ
  orderId : String

/-- A record as it is applied. -/
inductive HedgeSubmit where
  | filled (fill : HedgeFillRecord)
  | rejected (owner : HedgeOwnerRecord)
  | unresolved (owner : HedgeOwnerRecord)

def recordedAttempt (payload : DynValue) : Except ReadFault Int :=
  orRefused (readInt ((payload.get "hedge_attempt" (.int 0)).orElse (.int 0))) 0

def recordedOrderId (payload : DynValue) : String :=
  textOf ((payload.get "hedge_order_id").orElse (payload.get "order_id"))

/-- The recorded quantity; none for the quantity that the entry misses. -/
def recordedQuantity? (payload : DynValue) : Except ReadFault (Option ℚ) :=
  match payload.member? "hedge_quantity" with
  | none => .ok none
  | some value =>
    if value.truthy then orRefused ((readFloat value).map (fun read => some read.toRat)) none
    else .ok (some 0)

/-- The order in flight of `_apply_pending_entry_hedge_owner_from_journal`. -/
def recordedOwner (payload : DynValue) (attempt : Int) :
    Except ReadFault (Option RecordedOwner) := do
  let clientOrderId := textOf (payload.get "hedge_client_order_id")
  match ← orRefused (restoreHedgeOwner (payload.get "hedge_inflight")) none with
  | some inflight => return some (.restored inflight)
  | none =>
    if clientOrderId = "" then return none
    else
      let quantity ← recordedQuantity? payload
      return some (.named clientOrderId (Venue.fromStr (textOf (payload.get "hedge_venue")))
        (Side.ofValue (TextCase.lower (textOf (payload.get "hedge_side")))) quantity attempt)

def readHedgeOwner (payload : DynValue) : Except ReadFault HedgeOwnerRecord := do
  let attempt ← recordedAttempt payload
  let owner ← recordedOwner payload attempt
  return {
    clientOrderId := textOf (payload.get "hedge_client_order_id")
    attempt := attempt
    orderId := recordedOrderId payload
    owner := owner
    uncertainBeforeSubmit :=
      match payload.get "uncertain_outcome_before_submit" with
      | .bool value => some value
      | _ => none
    acceptedFillUnconfirmed := isText (payload.get "outcome") "accepted_fill_unconfirmed" }

/-- The price of a fill; 0 for one that is no price. -/
def recordedFillPrice (payload : DynValue) : Except ReadFault ℚ := do
  let price ← orRefused (readFloat ((payload.get "hedge_fill_price" (.int 0)).orElse (.int 0)))
    (.finite 0)
  return max 0 price.toRat

/-- The fill of `_apply_pending_entry_hedge_fill_from_journal`, when its quantity is usable. -/
def readHedgeFill (payload : DynValue) : Except ReadFault (Option HedgeFillRecord) := do
  match ← orRefused (readFloat (payload.get "hedge_leg_filled")) .notANumber with
  | .finite totalQuantity =>
    if totalQuantity < 0 then return none
    else
      let attempt ← recordedAttempt payload
      let price ← recordedFillPrice payload
      return some {
        totalQuantity := totalQuantity
        clientOrderId := textOf (payload.get "hedge_client_order_id")
        attempt := attempt
        price := price
        orderId := recordedOrderId payload }
  | _ => return none

/-- What a record says, by its kind and outcome. -/
def HedgeSubmitRecord.read (record : HedgeSubmitRecord) : Except ReadFault HedgeSubmit := do
  let payload := record.payload
  let hasOutcome (outcome : String) : Bool :=
    decide (record.kind = .result) && isText (payload.get "outcome") outcome
  let fill ← if hasOutcome "filled" then readHedgeFill payload else .ok none
  match fill with
  | some fill => return .filled fill
  | none =>
    let owner ← readHedgeOwner payload
    return if hasOutcome "error" && (payload.get "is_rejected" (.bool false)).truthy
      then .rejected owner else .unresolved owner

end Reading

/-! ## Applying it -/

namespace PendingEntry

def hedgeVenue (pending : PendingEntry ℚ) : Venue :=
  if pending.makerLeg = "short" then pending.longVenue else pending.shortVenue

def hedgeSide (pending : PendingEntry ℚ) : Side :=
  if pending.makerLeg = "short" then pending.longSide else pending.shortSide

end PendingEntry

/-- The order in flight, with the values of the entry where the record has none. -/
def RecordedOwner.inflight (pending : PendingEntry ℚ) : RecordedOwner → HedgeInflight ℚ
  | .restored inflight => inflight
  | .named clientOrderId venue side quantity attempt =>
    { clientOrderId := clientOrderId
      venue := venue.getD pending.hedgeVenue
      side := side.getD pending.hedgeSide
      quantity := quantity.getD pending.missingHedgeQuantity
      attempt := attempt }

/-- An entry under replay, with `_replay_uncertain_outcome_before_hedge_submit`. -/
structure ReplayedEntry where
  pending : PendingEntry ℚ
  uncertainBefore : Option Bool := none

/-- `_apply_pending_entry_hedge_owner_from_journal`, apart from the uncertainty. -/
def HedgeOwnerRecord.apply (owner : HedgeOwnerRecord) (pending : PendingEntry ℚ) :
    PendingEntry ℚ :=
  { pending with
    hedgeClientOrderId :=
      if owner.clientOrderId = "" then pending.hedgeClientOrderId else owner.clientOrderId
    hedgeAttemptCount := max pending.hedgeAttemptCount owner.attempt
    hedgeOrderId := if owner.orderId = "" then pending.hedgeOrderId else owner.orderId
    hedgeInflight := (owner.owner.map (RecordedOwner.inflight pending)).or pending.hedgeInflight }

/-- `note_pending_entry_hedge_filled`. -/
def notePendingEntryHedgeFilled (pending : PendingEntry ℚ) : PendingEntry ℚ :=
  { pending with
    phaseState := some { ensurePendingEntryPhaseState pending 0 with
      hedgeDeadlineAtMs := none
      smallFillMinNotionalAttempts := 0 } }

/-- The entry with the counted fill and no order in flight. -/
def HedgeFillRecord.apply (fill : HedgeFillRecord) (pending : PendingEntry ℚ) : PendingEntry ℚ :=
  let named := { pending with
    hedgeClientOrderId :=
      if fill.clientOrderId = "" then pending.hedgeClientOrderId else fill.clientOrderId
    hedgeAttemptCount := max pending.hedgeAttemptCount fill.attempt }
  let progressed := (applyPendingEntryHedgeProgress named
    { newTotalQuantity := fill.totalQuantity, price := fill.price, orderId := fill.orderId }).1
  notePendingEntryHedgeFilled { progressed with hedgeInflight := none }

namespace ReplayedEntry

/-- The uncertainty from before the attempt, when it is known. -/
def priorUncertain (state : ReplayedEntry) (pending : PendingEntry ℚ) : Bool :=
  state.uncertainBefore.getD pending.uncertainOutcome

/-- One record of the replay. -/
def step (state : ReplayedEntry) : HedgeSubmit → ReplayedEntry
  | .filled fill =>
    let counted := fill.apply state.pending
    let hedged := decide (counted.missingHedgeQuantity ≤ quantityDust)
    { pending := { counted with
        uncertainOutcome := !hedged && state.priorUncertain counted
        outcome := if hedged then "filled" else counted.outcome } }
  | .rejected owner =>
    let owned := owner.apply state.pending
    { pending := { owned with
        hedgeInflight := none
        uncertainOutcome := state.priorUncertain owned } }
  | .unresolved owner =>
    let owned := owner.apply state.pending
    { pending := { owned with
        uncertainOutcome := true
        outcome :=
          if owner.acceptedFillUnconfirmed then "hedge_accepted_fill_unconfirmed"
          else owned.outcome }
      uncertainBefore := owner.uncertainBeforeSubmit.or state.uncertainBefore }

def run (state : ReplayedEntry) (submits : List HedgeSubmit) : ReplayedEntry :=
  submits.foldl step state

/-- The records of the entry, replayed in order. -/
def replay [TextCase] (state : ReplayedEntry) : List HedgeSubmitRecord → Except ReadFault ReplayedEntry
  | [] => .ok state
  | record :: records => do
    let submit ← record.read
    (state.step submit).replay records

end ReplayedEntry

/-! ## The counters of an entry -/

namespace PendingEntry

/-- The entry after a cumulative quantity: an increase of more than 1e-12 is counted, and the
slices are consumed by it. -/
def raiseHedge (pending : PendingEntry ℚ) (totalQuantity : ℚ) : PendingEntry ℚ :=
  if 1 / 10 ^ 12 < totalQuantity - pending.hedgeLegFilled then
    ({ pending with hedgeLegFilled := totalQuantity }.consumeHedgeQuantityFifo
      (totalQuantity - pending.hedgeLegFilled)).1
  else pending

/-- Two entries with the same legs, counters and slices. -/
structure SameBook (left right : PendingEntry ℚ) : Prop where
  longVenue : left.longVenue = right.longVenue
  shortVenue : left.shortVenue = right.shortVenue
  longSide : left.longSide = right.longSide
  shortSide : left.shortSide = right.shortSide
  makerLeg : left.makerLeg = right.makerLeg
  targetQuantity : left.targetQuantity = right.targetQuantity
  makerPrice : left.makerPrice = right.makerPrice
  makerFillPrice : left.makerFillPrice = right.makerFillPrice
  makerLegFilled : left.makerLegFilled = right.makerLegFilled
  hedgeLegFilled : left.hedgeLegFilled = right.hedgeLegFilled
  slices : left.makerRemainderSlices = right.makerRemainderSlices

theorem SameBook.refl (pending : PendingEntry ℚ) : SameBook pending pending :=
  ⟨rfl, rfl, rfl, rfl, rfl, rfl, rfl, rfl, rfl, rfl, rfl⟩

variable {left right : PendingEntry ℚ}

theorem SameBook.trans {third : PendingEntry ℚ} (first : SameBook left right)
    (second : SameBook right third) : SameBook left third where
  longVenue := first.longVenue.trans second.longVenue
  shortVenue := first.shortVenue.trans second.shortVenue
  longSide := first.longSide.trans second.longSide
  shortSide := first.shortSide.trans second.shortSide
  makerLeg := first.makerLeg.trans second.makerLeg
  targetQuantity := first.targetQuantity.trans second.targetQuantity
  makerPrice := first.makerPrice.trans second.makerPrice
  makerFillPrice := first.makerFillPrice.trans second.makerFillPrice
  makerLegFilled := first.makerLegFilled.trans second.makerLegFilled
  hedgeLegFilled := first.hedgeLegFilled.trans second.hedgeLegFilled
  slices := first.slices.trans second.slices

theorem SameBook.symm (same : SameBook left right) : SameBook right left where
  longVenue := same.longVenue.symm
  shortVenue := same.shortVenue.symm
  longSide := same.longSide.symm
  shortSide := same.shortSide.symm
  makerLeg := same.makerLeg.symm
  targetQuantity := same.targetQuantity.symm
  makerPrice := same.makerPrice.symm
  makerFillPrice := same.makerFillPrice.symm
  makerLegFilled := same.makerLegFilled.symm
  hedgeLegFilled := same.hedgeLegFilled.symm
  slices := same.slices.symm

theorem SameBook.legacy (same : SameBook left right) :
    left.legacyMissingHedgeQuantity = right.legacyMissingHedgeQuantity := by
  rw [legacyMissingHedgeQuantity, legacyMissingHedgeQuantity, same.makerLegFilled,
    same.targetQuantity, same.hedgeLegFilled]

theorem SameBook.missing (same : SameBook left right) :
    left.missingHedgeQuantity = right.missingHedgeQuantity := by
  rw [missingHedgeQuantity, missingHedgeQuantity, unmatchedMakerQuantity, unmatchedMakerQuantity,
    same.slices, same.legacy]

theorem SameBook.owner (same : SameBook left right) (owner : RecordedOwner) :
    owner.inflight left = owner.inflight right := by
  cases owner with
  | restored inflight => rfl
  | named clientOrderId venue side quantity attempt =>
    simp only [RecordedOwner.inflight, hedgeVenue, hedgeSide, same.missing, same.makerLeg,
      same.longVenue, same.shortVenue, same.longSide, same.shortSide]

/-- What the consumption starts from: a legacy entry gets a slice of what it misses. -/
def openSlices (pending : PendingEntry ℚ) : List (PendingEntryRemainderSlice ℚ) :=
  if pending.makerRemainderSlices.isEmpty ∧ quantityDust < pending.legacyMissingHedgeQuantity then
    (pending.pushMakerRemainderSlice pending.legacyMissingHedgeQuantity
      (some pending.fallbackMakerPrice) none).makerRemainderSlices
  else pending.makerRemainderSlices

theorem consumed_slices (pending : PendingEntry ℚ) (quantity : ℚ) :
    (pending.consumeHedgeQuantityFifo quantity).1.makerRemainderSlices =
      if max 0 quantity ≤ quantityDust then pending.makerRemainderSlices
      else (consumeSlices (max 0 quantity) pending.openSlices).1 := by
  unfold consumeHedgeQuantityFifo openSlices
  dsimp only
  split_ifs <;> rfl

/-- The consumption writes the slices only. -/
theorem consumed_book (pending : PendingEntry ℚ) (quantity : ℚ) :
    SameBook (pending.consumeHedgeQuantityFifo quantity).1
      { pending with makerRemainderSlices :=
        (pending.consumeHedgeQuantityFifo quantity).1.makerRemainderSlices } := by
  unfold consumeHedgeQuantityFifo pushMakerRemainderSlice
  dsimp only
  split_ifs <;> exact ⟨rfl, rfl, rfl, rfl, rfl, rfl, rfl, rfl, rfl, rfl, rfl⟩

theorem SameBook.openSlices (same : SameBook left right) :
    left.openSlices = right.openSlices := by
  simp only [PendingEntry.openSlices, pushMakerRemainderSlice, fallbackMakerPrice, same.legacy,
    same.slices, same.makerFillPrice, same.makerPrice]
  split_ifs <;> simp only [same.slices]

theorem SameBook.consumed (same : SameBook left right) (quantity : ℚ) :
    SameBook (left.consumeHedgeQuantityFifo quantity).1
      (right.consumeHedgeQuantityFifo quantity).1 := by
  refine ((left.consumed_book quantity).trans ?_).trans (right.consumed_book quantity).symm
  have slices : (left.consumeHedgeQuantityFifo quantity).1.makerRemainderSlices =
      (right.consumeHedgeQuantityFifo quantity).1.makerRemainderSlices := by
    rw [consumed_slices, consumed_slices, same.openSlices, same.slices]
  exact ⟨same.longVenue, same.shortVenue, same.longSide, same.shortSide, same.makerLeg,
    same.targetQuantity, same.makerPrice, same.makerFillPrice, same.makerLegFilled,
    same.hedgeLegFilled, slices⟩

theorem SameBook.filledTo (same : SameBook left right) (quantity : ℚ) :
    SameBook { left with hedgeLegFilled := quantity } { right with hedgeLegFilled := quantity } :=
  ⟨same.longVenue, same.shortVenue, same.longSide, same.shortSide, same.makerLeg,
    same.targetQuantity, same.makerPrice, same.makerFillPrice, same.makerLegFilled, rfl,
    same.slices⟩

theorem SameBook.raised (same : SameBook left right) (totalQuantity : ℚ) :
    SameBook (left.raiseHedge totalQuantity) (right.raiseHedge totalQuantity) := by
  rw [raiseHedge, raiseHedge, same.hedgeLegFilled]
  split_ifs
  · exact (same.filledTo totalQuantity).consumed _
  · exact same

end PendingEntry

end LightFee.Engine
