import LightFee.Venues.Specs

/-!
# Evidence for a recovery decision

Exchange truth and local records arrive in several shapes. A collection of rows
may be nested by venue and symbol; it is flattened to rows that carry both. An
endpoint error left in place of rows is a gap in the evidence, not a row.
-/

namespace LightFee.Engine

open DynValue

variable [TextCase]

/-- Sizes up to this are zero. -/
def epsilon : ℚ := 1 / 10 ^ 9

/-- Paired quantities may differ by this. -/
def v1PairQuantityEpsilon : ℚ := 1 / 10 ^ 6

/-! ## Reading values -/

/-- `str(value or "")`. -/
def textOf (value : DynValue) : String := (value.orElse (.str "")).text

omit [TextCase] in
@[simp]
theorem textOf_str (text : String) : textOf (.str text) = text := by
  rw [textOf, orElse]
  by_cases empty : text = "" <;> simp [truthy, empty, DynValue.text]

def lowerText (value : DynValue) : String := TextCase.lower (textOf value)

def upperText (value : DynValue) : String := TextCase.upper (textOf value)

/-- The flags of a record may be texts. -/
def boolOf : DynValue → Bool
  | .str value => ["1", "true", "yes", "y"].contains (TextCase.lower (TextSearch.strip value))
  | value => value.truthy

/-! ## Rows -/

/-- An error payload without any field of a live row. -/
def isExchangeErrorPlaceholder (value : DynValue) : Bool :=
  value.isMapping && (value.get "error" (.str "")).truthy &&
    !(["quantity", "qty", "size", "positionAmt", "order_id", "orderId", "ordId", "id",
      "client_order_id", "clientOrderId", "orderLinkId", "clientOid", "clOrdId"].any value.hasKey)

/-- `row.setdefault(key, value)`. -/
def setDefault (row : DynValue) (key : String) (value : DynValue) : DynValue :=
  if row.hasKey key then row else .dict (row.entries ++ [(key, value)])

/-- Rows under one symbol of one venue; a bare number is a quantity. -/
def symbolRows (symbolValue : DynValue) : List DynValue :=
  match symbolValue with
  | .dict _ => [symbolValue]
  | .bool value => [.dict [("quantity", .int (if value then 1 else 0))]]
  | .int _ | .float _ => [.dict [("quantity", symbolValue)]]
  | _ => symbolValue.items

/-- Rows under one venue. -/
def venueRows (venue : String) (venueValue : DynValue) : List DynValue :=
  if isExchangeErrorPlaceholder venueValue then []
  else
    match venueValue with
    | .dict bySymbol => bySymbol.flatMap (fun (symbol, symbolValue) =>
      if isExchangeErrorPlaceholder symbolValue then []
      else ((symbolRows symbolValue).filter (!isExchangeErrorPlaceholder ·)).map (fun row =>
        if row.isMapping then setDefault (setDefault row "venue" (.str venue)) "symbol" (.str symbol)
        else row))
    | _ => (venueValue.items.filter (!isExchangeErrorPlaceholder ·)).map (fun row =>
      if row.isMapping then
        .dict (("venue", row.get "venue" (.str venue)) ::
          row.entries.filter (fun entry => entry.1 ≠ "venue"))
      else row)

def flattenExchangeCollection (value : DynValue) : List DynValue :=
  if isExchangeErrorPlaceholder value then []
  else
    match value with
    | .dict byVenue => byVenue.flatMap (fun (venue, venueValue) => venueRows venue venueValue)
    | _ => value.items.filter (!isExchangeErrorPlaceholder ·)

def exchangePositions (exchangeTruth : DynValue) : List DynValue :=
  flattenExchangeCollection (exchangeTruth.get "positions" (.list []))

def exchangeOpenOrders (exchangeTruth : DynValue) : List DynValue :=
  flattenExchangeCollection (exchangeTruth.get "open_orders" (.list []))

mutual

def containsExchangeErrorPlaceholder : DynValue → Bool
  | .dict entries => isExchangeErrorPlaceholder (.dict entries) || entriesContainPlaceholder entries
  | .list items => itemsContainPlaceholder items
  | _ => false

def itemsContainPlaceholder : List DynValue → Bool
  | [] => false
  | item :: rest => containsExchangeErrorPlaceholder item || itemsContainPlaceholder rest

def entriesContainPlaceholder : List (String × DynValue) → Bool
  | [] => false
  | (_, value) :: rest => containsExchangeErrorPlaceholder value || entriesContainPlaceholder rest

end

def exchangeTruthHasErrorPlaceholder (exchangeTruth : DynValue) : Bool :=
  ["positions", "open_orders"].any (fun key =>
    containsExchangeErrorPlaceholder (exchangeTruth.get key (.list [])))

/-! ## Fields of a row -/

/-- The first quantity field that is set, when it is a finite number. -/
def finitePositionQuantity (position : DynValue) : Option ℚ :=
  match ["quantity", "qty", "size"].find? (fun key => !(position.get key).isNull) with
  | none => none
  | some key =>
    match (position.get key).toFloat? with
    | some (.finite quantity) => some quantity
    | _ => none

def symbolOf (row : DynValue) : String := upperText (row.get "symbol" (.str ""))

def venueOf (row : DynValue) : String := lowerText (row.get "venue" (.str "")).unwrap

def normalizedPositionSide (value : DynValue) : String :=
  let side := TextCase.lower (TextSearch.strip (textOf value.unwrap))
  if ["buy", "long", "side.buy"].contains side || TextSearch.endsWith ".buy" side then "long"
  else if ["sell", "short", "side.sell"].contains side || TextSearch.endsWith ".sell" side then "short"
  else side

/-- The identities of an order or artifact. -/
def orderIds (row : DynValue) : List String :=
  (["order_id", "client_order_id", "maker_order_id", "maker_client_order_id", "hedge_order_id",
    "hedge_client_order_id"].map (fun key => row.get key (.str ""))).filter truthy |>.map text

/-! ## Quality of the truth -/

def exchangeTruthAvailable (exchangeTruth : DynValue) : Bool :=
  if exchangeTruth.isNull then false
  else
    (exchangeTruth.get "truth_available" (exchangeTruth.get "available" (.bool true))).truthy

/-- A probe that failed or is partial, by the words of its report. -/
def probeIsGap (probe : DynValue) : Bool :=
  let report := TextCase.lower ((probe.get "classification" (.str "")).text ++ " " ++
    (probe.get "error" (.str "")).text)
  ["timeout", "timed out", "unsupported", "partial", "unavailable", "missing", "error"].any
    (fun token => TextSearch.occursIn token report)

def hasItems (value : DynValue) : Bool := !value.items.isEmpty

/-- Unsupported truth, a reported gap, an error placeholder or a failed probe. -/
def hasPartialExchangeEvidence (exchangeTruth : DynValue) : Bool :=
  if exchangeTruth.isNull then true
  else
    (match exchangeTruth.member? "truth_supported" with
      | some supported => !supported.isTrue
      | none => false) ||
    hasItems (exchangeTruth.get "missing_evidence" (.list [])) ||
    hasItems (exchangeTruth.get "errors" (.list [])) ||
    exchangeTruthHasErrorPlaceholder exchangeTruth ||
    (exchangeTruth.get "probe_evidence" (.list [])).items.any probeIsGap

def truthScope (exchangeTruth : DynValue) : String :=
  TextCase.lower (TextSearch.strip (textOf (exchangeTruth.get "truth_scope" (.str ""))))

/-- Omitted account rows are confirmed absent, rather than unknown. -/
def isCompleteAccountTruth (exchangeTruth : DynValue) : Bool :=
  truthScope exchangeTruth = "account" &&
    (exchangeTruth.get "truth_supported").isTrue &&
    exchangeTruthAvailable exchangeTruth &&
    !hasPartialExchangeEvidence exchangeTruth &&
    !(exchangeTruth.get "positions").isNull &&
    !(exchangeTruth.get "open_orders").isNull

/-- The row's size is a number and zero. -/
def positionIsFlat (position : DynValue) : Bool :=
  match finitePositionQuantity position with
  | none => false
  | some quantity => |quantity| ≤ epsilon

/-- A row of an unreadable size is never flat, and any order row is live. -/
def isCompleteAccountFlatTruth (exchangeTruth : DynValue) : Bool :=
  isCompleteAccountTruth exchangeTruth &&
    (exchangePositions exchangeTruth).all positionIsFlat &&
    (exchangeOpenOrders exchangeTruth).isEmpty

end LightFee.Engine
