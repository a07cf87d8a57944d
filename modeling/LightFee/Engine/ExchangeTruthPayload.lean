import LightFee.Library.DynValue
import LightFee.Library.NestedDict
import Mathlib.Algebra.Order.AbsoluteValue.Basic
import Mathlib.Data.Rat.Cast.Order

/-!
# Exchange truth as a payload

A snapshot lists positions and open orders; its payload files them by venue and
symbol, with one position but a list of orders under each pair of names. The names
are folded to one letter case first. Probe evidence, errors and versions pass by and
are left out.
-/

namespace LightFee.Engine

section

variable [TextCase]

/-! ## The snapshot -/

structure ExchangeTruthPosition where
  venue : String
  symbol : String
  side : String
  quantity : ℚ
  entryPrice : ℚ := 0
  observedAtMs : Int := 0
deriving DecidableEq

/-- `to_dict`: the row of a position, in folded letter case. -/
def ExchangeTruthPosition.toDict (position : ExchangeTruthPosition) : ExchangeTruthPosition :=
  { position with
    venue := TextCase.lower position.venue
    symbol := TextCase.upper position.symbol
    side := TextCase.lower position.side }

structure ExchangeTruthOpenOrder where
  venue : String
  symbol : String
  side : String
  quantity : ℚ
  price : ℚ := 0
  reduceOnly : Bool := false
  orderId : String := ""
  clientOrderId : String := ""
  observedAtMs : Int := 0
deriving DecidableEq

def ExchangeTruthOpenOrder.toDict (order : ExchangeTruthOpenOrder) : ExchangeTruthOpenOrder :=
  { order with
    venue := TextCase.lower order.venue
    symbol := TextCase.upper order.symbol
    side := TextCase.lower order.side }

structure ExchangeTruthSnapshot where
  available : Bool
  confidence : String := "low"
  venues : List String := []
  positions : List ExchangeTruthPosition := []
  openOrders : List ExchangeTruthOpenOrder := []
  missingEvidence : List String := []

/-! ## The payload -/

/-- A payload whose flags may be missing. -/
structure ExchangeTruthPayload where
  available : Bool := false
  truthAvailable : Option Bool := none
  availableVenues : List String := []
  confidence : String := "low"
  positions : NestedDict String String ExchangeTruthPosition := .empty
  openOrders : NestedDict String String (List ExchangeTruthOpenOrder) := .empty
  hasNonzeroPosition : Option Bool := none
  hasOpenOrder : Option Bool := none
  missingEvidence : List String := []

/-- Sizes up to this count as zero. -/
def truthEpsilon : ℚ := 1 / 10 ^ 9

def exceedsEpsilon (quantity : ℚ) : Bool := truthEpsilon < |quantity|

/-- `_has_nonzero_position`. -/
def hasNonzeroPosition (positions : NestedDict String String ExchangeTruthPosition) : Bool :=
  positions.values.any (fun venuePositions =>
    venuePositions.values.any (fun item => exceedsEpsilon item.quantity))

/-- `_has_open_order`: any row, whatever its size. -/
def hasOpenOrder (openOrders : NestedDict String String (List ExchangeTruthOpenOrder)) : Bool :=
  openOrders.values.any (fun venueOrders => venueOrders.values.any (fun rows => !rows.isEmpty))

/-- `normalize_exchange_truth_payload`: missing flags are filled in. -/
def normalizeExchangeTruthPayload (payload : ExchangeTruthPayload) : ExchangeTruthPayload :=
  { payload with
    truthAvailable := some (payload.truthAvailable.getD payload.available)
    hasNonzeroPosition :=
      some (payload.hasNonzeroPosition.getD (hasNonzeroPosition payload.positions))
    hasOpenOrder := some (payload.hasOpenOrder.getD (hasOpenOrder payload.openOrders)) }

/-- A later position of a venue and symbol takes the place of an earlier one. -/
def filePositions (positions : List ExchangeTruthPosition) :
    NestedDict String String ExchangeTruthPosition :=
  NestedDict.fileAll (fun position => position.toDict.venue) (fun position => position.toDict.symbol)
    (fun _ position => position.toDict) positions

/-- Orders of a venue and symbol are collected. -/
def fileOpenOrders (openOrders : List ExchangeTruthOpenOrder) :
    NestedDict String String (List ExchangeTruthOpenOrder) :=
  NestedDict.fileAll (fun order => order.toDict.venue) (fun order => order.toDict.symbol)
    (fun known order => known.getD [] ++ [order.toDict]) openOrders

/-- `to_legacy_payload`. -/
def ExchangeTruthSnapshot.toLegacyPayload (snapshot : ExchangeTruthSnapshot) :
    ExchangeTruthPayload :=
  normalizeExchangeTruthPayload {
    available := snapshot.available
    truthAvailable := some snapshot.available
    availableVenues := snapshot.venues
    confidence := snapshot.confidence
    positions := filePositions snapshot.positions
    openOrders := fileOpenOrders snapshot.openOrders
    hasNonzeroPosition :=
      some (snapshot.positions.any (fun item => exceedsEpsilon item.quantity))
    hasOpenOrder := some (snapshot.openOrders.any (fun item => exceedsEpsilon item.quantity))
    missingEvidence := snapshot.missingEvidence }

/-- A text, or the key it is filed under. -/
def orKey (text key : String) : String := if text = "" then key else text

def readPosition (venue symbol : String) (item : ExchangeTruthPosition) : ExchangeTruthPosition :=
  { item with venue := orKey item.venue venue, symbol := orKey item.symbol symbol }

def readOpenOrder (venue symbol : String) (row : ExchangeTruthOpenOrder) : ExchangeTruthOpenOrder :=
  { row with venue := orKey row.venue venue, symbol := orKey row.symbol symbol }

/-- `snapshot_from_legacy_payload`. -/
def snapshotFromLegacyPayload (payload : ExchangeTruthPayload) : ExchangeTruthSnapshot :=
  let normalized := normalizeExchangeTruthPayload payload
  { available := normalized.available
    confidence := if normalized.confidence = "" then "low" else normalized.confidence
    venues := normalized.availableVenues
    positions := NestedDict.rows (fun venue symbol item => [readPosition venue symbol item])
      normalized.positions
    openOrders := NestedDict.rows (fun venue symbol rows => rows.map (readOpenOrder venue symbol))
      normalized.openOrders
    missingEvidence := normalized.missingEvidence }

/-! ## What the payload keeps -/

/-- The payload gives the rows back, and its flags tell which rows there are. -/
structure KeepsLiveRows (snapshot : ExchangeTruthSnapshot) : Prop where
  positions : (↑(snapshotFromLegacyPayload snapshot.toLegacyPayload).positions :
    Multiset ExchangeTruthPosition) = ↑(snapshot.positions.map ExchangeTruthPosition.toDict)
  openOrders : (↑(snapshotFromLegacyPayload snapshot.toLegacyPayload).openOrders :
    Multiset ExchangeTruthOpenOrder) = ↑(snapshot.openOrders.map ExchangeTruthOpenOrder.toDict)
  nonzeroFlag : snapshot.toLegacyPayload.hasNonzeroPosition = some true ↔
    ∃ position ∈ snapshot.positions, truthEpsilon < |position.quantity|
  openOrderFlag : snapshot.toLegacyPayload.hasOpenOrder = some true ↔ snapshot.openOrders ≠ []

/-- No two positions share a venue and a symbol. -/
def OnePositionEach (snapshot : ExchangeTruthSnapshot) : Prop :=
  (snapshot.positions.map (fun position => (position.toDict.venue, position.toDict.symbol))).Nodup

/-- Where there is an order there is one of some size. -/
def SomeSizedOrder (snapshot : ExchangeTruthSnapshot) : Prop :=
  snapshot.openOrders ≠ [] → ∃ order ∈ snapshot.openOrders, truthEpsilon < |order.quantity|

omit [TextCase] in
theorem orKey_same (text : String) : orKey text text = text := by
  unfold orKey
  split_ifs <;> rfl

theorem read_toDict (position : ExchangeTruthPosition) :
    readPosition position.toDict.venue position.toDict.symbol position.toDict =
      position.toDict := by
  simp [readPosition, orKey_same]

theorem read_order_toDict (order : ExchangeTruthOpenOrder) :
    readOpenOrder order.toDict.venue order.toDict.symbol order.toDict = order.toDict := by
  simp [readOpenOrder, orKey_same]

omit [TextCase] in
/-- The sum of single rows is the multiset of them. -/
theorem sum_singletons {α β : Type*} (f : α → β) (items : List α) :
    (items.map (fun item => ({f item} : Multiset β))).sum = ↑(items.map f) := by
  induction items with
  | nil => rfl
  | cons item rest ih =>
    rw [List.map_cons, List.sum_cons, ih, List.map_cons]
    rfl

theorem positions_back {snapshot : ExchangeTruthSnapshot} (each : OnePositionEach snapshot) :
    (↑(snapshotFromLegacyPayload snapshot.toLegacyPayload).positions :
      Multiset ExchangeTruthPosition) = ↑(snapshot.positions.map ExchangeTruthPosition.toDict) := by
  have kept := NestedDict.total_distinct
    (fun position : ExchangeTruthPosition => position.toDict.venue)
    (fun position => position.toDict.symbol) (fun _ position => position.toDict)
    (fun venue symbol item => (↑[readPosition venue symbol item] : Multiset ExchangeTruthPosition))
    (fun position => {position.toDict}) (fun position => by rw [read_toDict]; rfl)
    snapshot.positions each
  rw [sum_singletons] at kept
  exact (NestedDict.coe_rows _ _).trans kept

theorem open_orders_back (snapshot : ExchangeTruthSnapshot) :
    (↑(snapshotFromLegacyPayload snapshot.toLegacyPayload).openOrders :
      Multiset ExchangeTruthOpenOrder) =
        ↑(snapshot.openOrders.map ExchangeTruthOpenOrder.toDict) := by
  have kept := NestedDict.total_collected
    (fun order : ExchangeTruthOpenOrder => order.toDict.venue) (fun order => order.toDict.symbol)
    (fun known order => known.getD [] ++ [order.toDict])
    (fun venue symbol rows =>
      (↑(rows.map (readOpenOrder venue symbol)) : Multiset ExchangeTruthOpenOrder))
    (fun order => {order.toDict}) (fun order known => by
      rw [List.map_append, ← Multiset.coe_add, List.map_singleton, read_order_toDict]
      cases known <;> rfl)
    snapshot.openOrders
  rw [sum_singletons] at kept
  exact (NestedDict.coe_rows _ _).trans kept

/-- As many positions come back as there are venues and symbols of them. -/
theorem each_of_length {snapshot : ExchangeTruthSnapshot}
    (back : (snapshotFromLegacyPayload snapshot.toLegacyPayload).positions.length =
      snapshot.positions.length) : OnePositionEach snapshot := by
  have rows : (snapshotFromLegacyPayload snapshot.toLegacyPayload).positions.length =
      NestedDict.count (filePositions snapshot.positions) :=
    NestedDict.length_rows readPosition _
  exact NestedDict.distinct_of_count _ _ _ (rows.symm.trans back)

theorem nonzero_flag_iff (snapshot : ExchangeTruthSnapshot) :
    snapshot.toLegacyPayload.hasNonzeroPosition = some true ↔
      ∃ position ∈ snapshot.positions, truthEpsilon < |position.quantity| := by
  simp [ExchangeTruthSnapshot.toLegacyPayload, normalizeExchangeTruthPayload, exceedsEpsilon]

theorem open_order_flag_iff (snapshot : ExchangeTruthSnapshot) :
    snapshot.toLegacyPayload.hasOpenOrder = some true ↔
      ∃ order ∈ snapshot.openOrders, truthEpsilon < |order.quantity| := by
  simp [ExchangeTruthSnapshot.toLegacyPayload, normalizeExchangeTruthPayload, exceedsEpsilon]

/-- The payload keeps every live row exactly when no venue and symbol have two
positions and an account with orders has one of some size. -/
theorem keeps_live_rows_iff (snapshot : ExchangeTruthSnapshot) :
    KeepsLiveRows snapshot ↔ OnePositionEach snapshot ∧ SomeSizedOrder snapshot := by
  constructor
  · intro keeps
    constructor
    · apply each_of_length
      have sizes := congrArg Multiset.card keeps.positions
      simpa using sizes
    · intro present
      exact (open_order_flag_iff snapshot).mp (keeps.openOrderFlag.mpr present)
  · rintro ⟨each, sized⟩
    refine ⟨positions_back each, open_orders_back snapshot, nonzero_flag_iff snapshot, ?_⟩
    rw [open_order_flag_iff]
    constructor
    · rintro ⟨order, member, _⟩
      exact List.ne_nil_of_mem member
    · exact sized

end

/-! ## A hedged account -/

/-- Long and short at one venue, in one symbol. -/
def hedgedAccount : ExchangeTruthSnapshot where
  available := true
  venues := ["bybit"]
  positions := [
    { venue := "bybit", symbol := "BTCUSDT", side := "long", quantity := 1 },
    { venue := "bybit", symbol := "BTCUSDT", side := "short", quantity := 2 }]

local instance asciiPayloadCase : TextCase := TextCase.ascii

/-- One of the two positions does not come back. -/
theorem hedged_leg_lost : ¬ KeepsLiveRows hedgedAccount := by
  intro keeps
  have sizes := congrArg Multiset.card keeps.positions
  rw [Multiset.coe_card, Multiset.coe_card] at sizes
  have one : (snapshotFromLegacyPayload hedgedAccount.toLegacyPayload).positions.length = 1 := by
    decide +kernel
  rw [one] at sizes
  cases sizes

end LightFee.Engine
