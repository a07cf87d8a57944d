import LightFee.Engine.CloseVenue

/-!
# Truth about an accepted order

An acknowledgement is no proof of a fill. The ledger of order truth takes an answered execution
for a fill only if its metadata names a source of fills, and reads nothing from metadata that
fails closed. Markers are looked for in lower-cased texts.
-/

namespace LightFee.Engine

open LightFee.Venues

/-- An answered execution with what the adapter tells about its source. -/
structure AcceptedReconciliation extends OrderFillReconciliation where
  metadata : List (String × DynValue) := []

namespace OrderTruth

variable [TextCase]

def classificationIsFailClosed (text : String) : Bool :=
  containsAny text ["positive_quantity_missing_side", "missing_side", "invalid_side",
    "family_unresolved", "account_identity_mismatch", "account_mismatch",
    "account_address_missing", "unsupported_fail_closed", "unsupported"]

def classificationIsWeakFillSource (text : String) : Bool :=
  containsAny text ["okx_order_detail", "bybit_order_realtime", "bybit_order_history",
    "binance_order_status", "aster_order_status", "bitget_order_detail", "gate_order_detail",
    "detail_found;fills_empty", "fills_empty", "execution_not_found",
    "accepted_ack_without_execution", "stale_accepted_order", "new", "pending_new"]

/-- `metadata.get(key)`. -/
def metadataValue (metadata : List (String × DynValue)) (key : String) : DynValue :=
  (OrderedDict.lookupEntries key metadata).getD .null

/-- The first of the keys with a truthy value, or the last key's value. -/
def firstTruthy (metadata : List (String × DynValue)) : List String → DynValue
  | [] => .null
  | [key] => metadataValue metadata key
  | key :: rest => (metadataValue metadata key).orElse (firstTruthy metadata rest)

/-- `str(value or "")` of the first truthy key. -/
def metadataText (metadata : List (String × DynValue)) (keys : List String) : String :=
  let value := firstTruthy metadata keys
  if value.truthy then value.text else ""

def anyTruthy (metadata : List (String × DynValue)) (keys : List String) : Bool :=
  keys.any (fun key => (metadataValue metadata key).truthy)

/-- `_tuple_texts`. -/
def tupleTexts : DynValue → List String
  | .null => []
  | .str text => if text = "" then [] else [text]
  | .dict entries => (entries.map Prod.fst).filter (fun text => text ≠ "")
  | .list items => (items.map DynValue.text).filter (fun text => text ≠ "")
  | value => if value.text = "" then [] else [value.text]

/-- The texts that a classification is looked for in. -/
def classificationText (metadata : List (String × DynValue)) : String :=
  let parts := [metadataText metadata ["response_classification", "classification",
      "raw_exchange_status"], metadataText metadata ["evidence_source"],
    metadataText metadata ["raw_exchange_status"]]
  " ".intercalate ((parts.filter (fun part => part ≠ "")).map TextCase.lower)

def endpointIsFillTruth (venue : Venue) (endpoints : List String) : Bool :=
  let endpointText := " ".intercalate (endpoints.map TextCase.lower)
  match venue with
  | .okx => TextSearch.occursIn "/api/v5/trade/fills" endpointText
  | .bybit => TextSearch.occursIn "/v5/execution/list" endpointText
  | _ => false

/-- `_classification_is_terminal_fill_truth`. -/
def classificationIsTerminalFillTruth (venue : Venue) (metadata : List (String × DynValue))
    (classificationText : String) : Bool :=
  let text := TextCase.lower classificationText
  let source := TextCase.lower (metadataText metadata ["evidence_source"])
  let response :=
    TextCase.lower (metadataText metadata ["response_classification", "classification"])
  let rawStatus := TextCase.lower (metadataText metadata ["raw_exchange_status"])
  let saysFilled := rawStatus == "filled" || TextSearch.startsWith "filled" response
  if metadata.isEmpty then false
  else if anyTruthy metadata ["normalized_fill_truth", "normalized_execution_truth", "fill_truth",
      "execution_truth", "order_fill_truth", "live_fill_truth"] then true
  else
    match venue with
    | .okx => ["okx_fills", "okx_fills_history", "okx_trade_fills"].contains source
    | .bybit => ["bybit_execution_list", "bybit_private_execution"].contains source
    | .binance | .aster => rawStatus == "filled" || TextSearch.startsWith "filled_after_" response
    | .bitget =>
      let side := TextCase.lower (metadataText metadata ["side", "resolved_side"])
      anyTruthy metadata ["resolved_account_family", "account_family", "contract_family",
          "product_type"] &&
        ["buy", "sell", "long", "short"].contains side &&
        (containsAny source ["fill", "fills", "trade"] || saysFilled)
    | .gate => containsAny source ["fill", "fills", "trade", "execution"] || saysFilled
    | .hyperliquid =>
      anyTruthy metadata ["account", "account_address", "configured_account",
          "configured_account_address"] &&
        anyTruthy metadata ["oid", "order_id", "cloid", "client_order_id"] &&
        (saysFilled || TextSearch.occursIn "filled" text)

/-- `_fill_truth_source_is_confirmed`. -/
def fillTruthSourceIsConfirmed (venue : Venue) (metadata : List (String × DynValue))
    (endpoints : List String) (classificationText : String) : Bool :=
  if metadata.isEmpty then false
  else if classificationIsFailClosed (TextCase.lower classificationText) then false
  else if (venue = .binance ∨ venue = .aster) ∧
      classificationIsTerminalFillTruth venue metadata (TextCase.lower classificationText) then
    true
  else if classificationIsWeakFillSource (TextCase.lower classificationText) then false
  else endpointIsFillTruth venue endpoints ||
    classificationIsTerminalFillTruth venue metadata (TextCase.lower classificationText)

/-- The fill that `resolve_order_success` confirms; of its other answers only that there is no
confirmed fill is read. -/
def confirmedFill (venue : Venue) (reconciliation : AcceptedReconciliation) : Bool :=
  let text := classificationText reconciliation.metadata
  !classificationIsFailClosed text && flatDust.lt (positiveFloat reconciliation.quantity) &&
    fillTruthSourceIsConfirmed venue reconciliation.metadata
      (tupleTexts (metadataValue reconciliation.metadata "queried_endpoints")) text

end OrderTruth

end LightFee.Engine
