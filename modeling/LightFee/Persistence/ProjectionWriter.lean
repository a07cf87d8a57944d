import LightFee.Library.DynValue
import LightFee.Library.UpsertTable

/-!
# The projection writer

Records of the journal are projected into a relational store: each becomes a row of a fact
table, and the records of positions and orders also write the lifecycle ledgers. What a record
writes depends on the record alone; the tables decide what happens to a row whose key is there
already. An exception ends a record where it is raised and keeps what was written before.

Values are kept as they are bound; the affinity of a column is left out.
-/

namespace LightFee.Persistence

open UpsertTable

/-! ## Values of the store -/

inductive SqlValue where
  | null
  | integer (value : Int)
  | real (value : ExactFloat)
  | text (value : String)
deriving DecidableEq

namespace SqlValue

/-- An integer is bound in 64 bits; any other raises. -/
def ofInt (value : Int) : Option SqlValue :=
  if -2 ^ 63 ≤ value ∧ value < 2 ^ 63 then some (integer value) else none

/-- Not-a-number is stored as null. -/
def ofFloat : ExactFloat → SqlValue
  | .notANumber => null
  | value => real value

def ofOptionalFloat : Option ExactFloat → SqlValue
  | none => null
  | some value => ofFloat value

def ofOptionalText : Option String → SqlValue
  | none => null
  | some value => text value

def ofBool (value : Bool) : SqlValue := integer (if value then 1 else 0)

/-- A value of a payload as it is; collections cannot be bound. -/
def ofValue : DynValue → Option SqlValue
  | .null => some null
  | .bool value => some (ofBool value)
  | .int value => ofInt value
  | .float value => some (ofFloat value.value)
  | .str value => some (text value)
  | _ => none

/-- `MIN` of two values; the columns it is used on hold integers. -/
def least : SqlValue → SqlValue → SqlValue
  | integer left, integer right => integer (min left right)
  | left, right => if left = right then left else null

/-- `MAX` of two values; the columns it is used on hold integers. -/
def greatest : SqlValue → SqlValue → SqlValue
  | integer left, integer right => integer (max left right)
  | left, right => if left = right then left else null

end SqlValue

/-! ## Tables -/

inductive ProjectionTable where
  | orderFacts
  | entryExitFacts
  | riskCounterFacts
  | localL2HealthFacts
  | diagnosticFacts
  | tradeLedgerEvents
  | positionLedger
  | positionPnlFacts
  | orderLedger
  | fillLedger
deriving DecidableEq

namespace ProjectionTable

def isFactTable : ProjectionTable → Bool
  | orderFacts | entryExitFacts | riskCounterFacts | localL2HealthFacts | diagnosticFacts => true
  | _ => false

/-- The columns that a table declares unique. -/
def keyColumns : ProjectionTable → List String
  | orderFacts | entryExitFacts | riskCounterFacts | localL2HealthFacts | diagnosticFacts =>
    ["seq", "kind"]
  | tradeLedgerEvents => ["event_id"]
  | positionLedger => ["position_id"]
  | positionPnlFacts => ["pnl_key"]
  | orderLedger => ["order_key"]
  | fillLedger => ["fill_key"]

end ProjectionTable

/-- `COALESCE(excluded.column, column)`. -/
def coalesced : Rule SqlValue := .take (fun value => value ≠ .null)

/-- `COALESCE(NULLIF(excluded.column, ''), column)`. -/
def coalescedText : Rule SqlValue := .take (fun value => value ≠ .null ∧ value ≠ .text "")

/-- `column=excluded.column`. -/
def replaced : Rule SqlValue := .take (fun _ => true)

/-- The `DO UPDATE` clause of `position_ledger`. -/
def positionLedgerRule (column : String) : Rule SqlValue :=
  if column ∈ ["candidate_id", "review_id", "strategy_id", "run_id", "instance_id",
      "closed_at_ms", "entry_qty", "exit_qty", "entry_notional_quote", "exit_notional_quote",
      "owner_instance_id", "terminal_reason", "problem_reason"] then coalesced
  else if column ∈ ["symbol", "long_venue", "short_venue"] then coalescedText
  else if column ∈ ["state", "reconciliation_status", "truth_level", "payload_json",
      "updated_at_ms"] then replaced
  else if column = "opened_at_ms" then .combine SqlValue.least
  else if column = "problem" then .combine SqlValue.greatest
  else .keep

/-- The `DO UPDATE` clause of `order_ledger`. -/
def orderLedgerRule (column : String) : Rule SqlValue :=
  if column ∈ ["position_id", "candidate_id", "client_order_id", "exchange_order_id",
      "requested_qty", "filled_qty", "avg_fill_price", "fee_quote", "submitted_at_ms"] then
    coalesced
  else if column ∈ ["venue", "symbol", "side", "stage"] then coalescedText
  else if column ∈ ["reduce_only", "status", "updated_at_ms", "truth_level", "payload_json"] then
    replaced
  else .keep

/-- `INSERT OR REPLACE`: everything but the key. -/
def replaceRule (keyColumn column : String) : Rule SqlValue :=
  if column = keyColumn then .keep else replaced

/-- What an insert does to a row whose key is there: `INSERT OR IGNORE` keeps it. -/
def columnRule : ProjectionTable → String → Rule SqlValue
  | .positionLedger => positionLedgerRule
  | .positionPnlFacts => replaceRule "pnl_key"
  | .orderLedger => orderLedgerRule
  | .fillLedger => replaceRule "fill_key"
  | _ => fun _ => .keep

abbrev SqlRow := String → SqlValue

def rowKey (table : ProjectionTable) (row : SqlRow) : List SqlValue := table.keyColumns.map row

/-- The tables of the projection. -/
def projectionSchema : Schema ProjectionTable (List SqlValue) String SqlValue where
  key := rowKey
  rules := columnRule
  keeps table old new := by
    cases table <;> rfl

abbrev ProjectionStore := Store ProjectionTable String SqlValue

abbrev SqlWrite := ProjectionTable × SqlRow

/-- The row of a statement's columns. -/
def sqlRow (columns : List (String × SqlValue)) : SqlRow :=
  fun column => (columns.lookup column).getD .null

/-! ## Payloads -/

/-- A record of the journal. -/
structure ProjectionRecord where
  seq : Int
  runId : String
  tsMs : Int
  kind : String
  payload : List (String × DynValue)

/-- `json.dumps` of a text, with other letters than ASCII as they are. -/
def jsonQuoted (text : String) : String :=
  let escape (c : Char) : List Char :=
    if c = '"' ∨ c = '\\' then ['\\', c]
    else if c = '\n' then ['\\', 'n']
    else if c = '\r' then ['\\', 'r']
    else if c = '\t' then ['\\', 't']
    else if c.toNat = 8 then ['\\', 'b']
    else if c.toNat = 12 then ['\\', 'f']
    else if c.toNat < 32 then
      ['\\', 'u', '0', '0', Nat.digitChar (c.toNat / 16), Nat.digitChar (c.toNat % 16)]
    else [c]
  String.ofList ('"' :: text.toList.flatMap escape ++ ['"'])

def jsonFloat (value : PrintedFloat) : String :=
  match value.value with
  | .finite _ => value.text
  | .infinite negative => if negative then "-Infinity" else "Infinity"
  | .notANumber => "NaN"

mutual

/-- `json.dumps(value, ensure_ascii=False)`. -/
def jsonText : DynValue → String
  | .null => "null"
  | .bool value => if value then "true" else "false"
  | .int value => toString value
  | .float value => jsonFloat value
  | .str value => jsonQuoted value
  | .list items => "[" ++ ", ".intercalate (jsonItems items) ++ "]"
  | .dict entries | .obj entries => "\x7b" ++ ", ".intercalate (jsonEntries entries) ++ "\x7d"

def jsonItems : List DynValue → List String
  | [] => []
  | item :: rest => jsonText item :: jsonItems rest

def jsonEntries : List (String × DynValue) → List String
  | [] => []
  | (key, value) :: rest => (jsonQuoted key ++ ": " ++ jsonText value) :: jsonEntries rest

end

/-- What `float(value)` does: it refuses with an error that is caught, or with one that is not. -/
inductive FloatRead where
  | value (value : ExactFloat)
  | refused
  | overflow

/-- Integers from here on are too large for a float. -/
def floatLimit : Int := 2 ^ 1024 - 2 ^ 970

def readFloat : DynValue → FloatRead
  | .int value => if |value| < floatLimit then .value (.finite value) else .overflow
  | value =>
    match value.toFloat? with
    | some float => .value float
    | none => .refused

namespace ProjectionRecord

variable (record : ProjectionRecord)

/-- `payload.get(key)`. -/
def field? (key : String) : Option DynValue := OrderedDict.lookupEntries key record.payload

/-- `payload.get(key, default)`. -/
def field (key : String) (default : DynValue) : DynValue := (record.field? key).getD default

def payloadJson : String := jsonText (.dict record.payload)

def strField (key : String) : String :=
  match record.field? key with
  | none | some .null => ""
  | some value => value.text

def optionalStr (key : String) : Option String :=
  if record.strField key = "" then none else some (record.strField key)

/-- The first of the fields that reads as a float; it may raise. -/
def floatField : List String → Option (Option ExactFloat)
  | [] => some none
  | key :: rest =>
    match record.field? key with
    | none | some .null => floatField rest
    | some value =>
      match readFloat value with
      | .value float => some (some float)
      | .refused => floatField rest
      | .overflow => none

/-- `int(float(value))` of a field; an infinity raises. -/
def intField (key : String) : Option (Option Int) :=
  match record.field? key with
  | none | some .null => some none
  | some value =>
    match readFloat value with
    | .value (.finite exact) => some (some (exact.num.tdiv exact.den))
    | .value (.infinite _) => none
    | .value .notANumber => some none
    | .refused => some none
    | .overflow => none

/-- `int_field(first) or int_field(second) or ... or fallback`. -/
def intOr (fallback : Int) : List String → Option Int
  | [] => some fallback
  | key :: rest =>
    match record.intField key with
    | none => none
    | some (some value) => if value = 0 then intOr fallback rest else some value
    | some none => intOr fallback rest

/-- `float(payload.get(key, 0))`. -/
def requiredFloat (key : String) : Option SqlValue :=
  match readFloat (record.field key (.int 0)) with
  | .value float => some (SqlValue.ofFloat float)
  | _ => none

/-! ## Kinds -/

def orderKinds : List String :=
  ["order.submitted", "order.filled", "order.rejected", "order.uncertain"]

def entryExitKinds : List String :=
  ["entry.opened", "exit.closed", "exit.billing_evidence_unavailable",
    "exit.billing_evidence_debt_registered"]

def ledgerPositionOpenKinds : List String := ["entry.opened", "recovery.live_detected"]

def ledgerPositionCloseKinds : List String :=
  ["exit.closed", "exit.billing_evidence_unavailable", "recovery.flat",
    "runtime.position_lifecycle_terminal"]

def ledgerCompensationKinds : List String :=
  ["entry.compensated", "exit.compensated", "execution.compensation_failed"]

def riskKinds : List String :=
  ["risk.warning_triggered", "risk.warning_cleared", "risk.death_triggered",
    "risk.single_side_protection_triggered", "risk.single_side_protection_failed",
    "risk.single_side_protection_unavailable"]

def localL2HealthKinds : List String :=
  ["runtime.local_l2_sequence_gap", "runtime.local_l2_sync_failed"]

def diagnosticKinds : List String :=
  ["scan.no_entry_diagnostics", "scan.runtime_gate_blocked",
    "execution.entry_liquidity_blocked"]

def isFailClosed : Bool := "runtime.fail_closed".toList.isPrefixOf record.kind.toList

/-- The fact table of a record's kind. -/
def factTable : Option ProjectionTable :=
  if record.kind ∈ orderKinds then some .orderFacts
  else if record.kind ∈ entryExitKinds then some .entryExitFacts
  else if record.kind ∈ riskKinds then some .riskCounterFacts
  else if record.kind ∈ localL2HealthKinds then some .localL2HealthFacts
  else if record.kind ∈ diagnosticKinds ∨ record.isFailClosed = true then some .diagnosticFacts
  else none

/-! ## Keys -/

def orderKey : String :=
  let venue := if record.strField "venue" = "" then "unknown" else record.strField "venue"
  match ["client_order_id", "order_id", "exchange_order_id"].find?
      (fun key => record.strField key ≠ "") with
  | some key => venue ++ ":" ++ record.strField key
  | none => venue ++ ":order:" ++ toString record.tsMs

def fillKey (filledAtMs : Int) : String :=
  let venue := if record.strField "venue" = "" then "unknown" else record.strField "venue"
  match ["trade_id", "exchange_trade_id", "order_id", "client_order_id"].find?
      (fun key => record.strField key ≠ "") with
  | some key => venue ++ ":fill:" ++ record.strField key
  | none => venue ++ ":fill:" ++ toString filledAtMs

/-- `_ledger_bridge_entity`. -/
def ledgerBridgeEntity : Option (String × String) :=
  let positionId := record.strField "position_id"
  if record.kind ∈ ledgerPositionOpenKinds ∨ record.kind ∈ ledgerPositionCloseKinds then
    if positionId = "" then none else some ("position", positionId)
  else if record.kind ∈ ledgerCompensationKinds then
    if positionId ≠ "" then some ("position", positionId)
    else
      (["review_id", "pair_id"].find? (fun key => record.strField key ≠ "")).map
        (fun key => ("entry_attempt", record.strField key))
  else if record.kind ∈ orderKinds then some ("order", record.orderKey)
  else none

def exitClosedHasFillEvidence : Bool :=
  ["long_exit_order_id", "short_exit_order_id"].any (fun key => record.strField key ≠ "") ||
    ["long_exit_order_ids", "short_exit_order_ids", "long_legs", "short_legs"].any (fun key =>
      match record.field? key with
      | some (.list (_ :: _)) => true
      | _ => false)

def truthLevel : String :=
  if record.kind = "order.filled" ∨
      (record.kind = "exit.closed" ∧ record.exitClosedHasFillEvidence = true) then
    "venue_fill_confirmed"
  else "runtime_estimated"

/-! ## Statements -/

/-- `first or second` of optional texts. -/
def textOr (first second : Option String) : Option String := first.orElse (fun _ => second)

/-- `INSERT OR IGNORE` into a fact table: a null in a column that must not be null drops the
row. -/
def factRow (table : ProjectionTable) (columns : List (String × SqlValue)) :
    Option (List SqlWrite) := do
  let seq ← SqlValue.ofInt record.seq
  let tsMs ← SqlValue.ofInt record.tsMs
  let columns := [("seq", seq), ("ts_ms", tsMs), ("kind", .text record.kind)] ++ columns ++
    [("payload_json", .text record.payloadJson)]
  return if columns.any (fun column => column.2 = .null) then [] else [(table, sqlRow columns)]

def insertTradeLedgerEvent (entity : String × String) : Option (List SqlWrite) := do
  let seq ← SqlValue.ofInt record.seq
  let tsMs ← SqlValue.ofInt record.tsMs
  return [(.tradeLedgerEvents, sqlRow [
    ("event_id", .text (toString record.seq ++ ":" ++ toString record.tsMs ++ ":" ++
      record.kind ++ ":" ++ entity.1 ++ ":" ++ entity.2)),
    ("seq", seq),
    ("ts_ms", tsMs),
    ("run_id", .ofOptionalText (record.optionalStr "run_id")),
    ("instance_id", .ofOptionalText (record.optionalStr "instance_id")),
    ("entity_type", .text entity.1),
    ("entity_id", .text entity.2),
    ("event_kind", .text record.kind),
    ("truth_level", .text record.truthLevel),
    ("source_kind", .text "journal_payload"),
    ("source_ref", .null),
    ("schema_version", .integer 1),
    ("payload_json", .text record.payloadJson),
    ("created_at_ms", tsMs)])]

/-- What the opening and the closing of a position write alike. -/
def positionColumns (state reconciliationStatus truthLevel : String) (tsMs : SqlValue) :
    List (String × SqlValue) :=
  [("position_id", .text (record.strField "position_id")),
    ("candidate_id", .ofOptionalText (record.optionalStr "review_id")),
    ("review_id", .ofOptionalText (record.optionalStr "review_id")),
    ("strategy_id", .ofOptionalText (record.optionalStr "strategy_id")),
    ("run_id", .ofOptionalText (record.optionalStr "run_id")),
    ("instance_id", .ofOptionalText (record.optionalStr "instance_id")),
    ("symbol", .text (record.strField "symbol")),
    ("long_venue", .text (record.strField "long_venue")),
    ("short_venue", .text (record.strField "short_venue")),
    ("state", .text state),
    ("owner_instance_id", .ofOptionalText (textOr (record.optionalStr "owner_instance_id")
      (record.optionalStr "instance_id"))),
    ("reconciliation_status", .text reconciliationStatus),
    ("truth_level", .text truthLevel),
    ("payload_json", .text record.payloadJson),
    ("created_at_ms", tsMs),
    ("updated_at_ms", tsMs)]

/-- `_record_position_open`. -/
def recordPositionOpen : Option (List SqlWrite) := do
  if record.strField "position_id" = "" then return []
  let openedAtMs ← record.intOr record.tsMs ["entered_at_ms", "opened_at_ms"]
  let entryQty ← record.floatField ["quantity", "matched_quantity"]
  let entryNotionalQuote ← record.floatField ["entry_notional_quote"]
  let opened ← SqlValue.ofInt openedAtMs
  let tsMs ← SqlValue.ofInt record.tsMs
  let status := if record.kind = "recovery.live_detected" then "live_recovered"
    else "runtime_open"
  return [(.positionLedger, sqlRow (record.positionColumns "open" status "runtime_estimated" tsMs ++
    [("opened_at_ms", opened),
      ("closed_at_ms", .null),
      ("entry_qty", .ofOptionalFloat entryQty),
      ("exit_qty", .null),
      ("entry_notional_quote", .ofOptionalFloat entryNotionalQuote),
      ("exit_notional_quote", .null),
      ("terminal_reason", .null),
      ("problem", .ofBool false),
      ("problem_reason", .null)]))]

def terminalReason : Option String :=
  if record.kind = "recovery.flat" then none
  else textOr (textOr (textOr (record.optionalStr "terminal_reason") (record.optionalStr "reason"))
    (record.optionalStr "source")) (some record.kind)

def closedAtMs : Option Int := record.intOr record.tsMs ["closed_at_ms"]

/-- The upsert of `_record_position_close`. -/
def closePositionLedger : Option (List SqlWrite) := do
  let closedAtMs ← record.closedAtMs
  let openedAtMs ← record.intOr closedAtMs ["opened_at_ms"]
  let problem := (record.field "problem" (.bool false)).truthy
  let exitQty ← record.floatField ["exit_quantity", "quantity", "new_quantity"]
  let entryNotionalQuote ← record.floatField ["entry_notional_quote"]
  let exitNotionalQuote ← record.floatField ["exit_notional_quote"]
  let opened ← SqlValue.ofInt openedAtMs
  let closed ← SqlValue.ofInt closedAtMs
  let tsMs ← SqlValue.ofInt record.tsMs
  let status := if problem then "terminal_problem"
    else if record.kind = "recovery.flat" then "recovery_flat" else "runtime_closed"
  return [(.positionLedger, sqlRow (record.positionColumns "closed" status record.truthLevel tsMs ++
    [("opened_at_ms", opened),
      ("closed_at_ms", closed),
      ("entry_qty", .null),
      ("exit_qty", .ofOptionalFloat exitQty),
      ("entry_notional_quote", .ofOptionalFloat entryNotionalQuote),
      ("exit_notional_quote", .ofOptionalFloat exitNotionalQuote),
      ("terminal_reason", .ofOptionalText record.terminalReason),
      ("problem", .ofBool problem),
      ("problem_reason", .ofOptionalText (textOr (record.optionalStr "problem_reason")
        (record.optionalStr "force_close_reason")))]))]

/-- The profit row of `_record_position_close`, for an exit or a payload with a net. -/
def closePnlFact : Option (List SqlWrite) := do
  let closedAtMs ← record.closedAtMs
  let netQuote ← record.floatField ["net_quote"]
  if netQuote.isNone ∧ record.kind ≠ "exit.closed" then return []
  let realizedPricePnlQuote ← record.floatField ["realized_price_pnl_quote"]
  let fundingPnlQuote ← record.floatField ["funding_pnl_quote", "captured_funding_quote"]
  let entryFeeQuote ← record.floatField ["total_entry_fee_quote", "entry_fee_quote"]
  let exitFeeQuote ← record.floatField ["total_exit_fee_quote", "exit_fee_quote"]
  let slippageQuote ← record.floatField ["slippage_quote"]
  let reconciled ← if record.kind = "exit.reconciled" then SqlValue.ofInt closedAtMs
    else some .null
  let tsMs ← SqlValue.ofInt record.tsMs
  return [(.positionPnlFacts, sqlRow [
    ("pnl_key", .text (record.strField "position_id" ++ ":" ++ record.truthLevel ++ ":" ++
      toString closedAtMs)),
    ("position_id", .text (record.strField "position_id")),
    ("realized_price_pnl_quote", .ofOptionalFloat realizedPricePnlQuote),
    ("funding_pnl_quote", .ofOptionalFloat fundingPnlQuote),
    ("entry_fee_quote", .ofOptionalFloat entryFeeQuote),
    ("exit_fee_quote", .ofOptionalFloat exitFeeQuote),
    ("slippage_quote", .ofOptionalFloat slippageQuote),
    ("net_pnl_quote", .ofOptionalFloat netQuote),
    ("net_bps", .null),
    ("exit_reason", .ofOptionalText (textOr (record.optionalStr "reason") record.terminalReason)),
    ("truth_level", .text record.truthLevel),
    ("reconciled_at_ms", reconciled),
    ("payload_json", .text record.payloadJson),
    ("created_at_ms", tsMs)])]

/-- `_record_position_close`. -/
def recordPositionClose : List (Option (List SqlWrite)) :=
  if record.strField "position_id" = "" then []
  else [record.closePositionLedger, record.closePnlFact]

def orderStatus : String :=
  if record.kind = "order.submitted" then "submitted"
  else if record.kind = "order.filled" then "filled"
  else if record.kind = "order.rejected" then "failed"
  else "uncertain"

/-- `_record_order_ledger`. -/
def recordOrderLedger : Option (List SqlWrite) := do
  let filledAtMs ← record.intOr record.tsMs ["filled_at_ms"]
  let requestedQty ← record.floatField ["requested_quantity", "quantity"]
  let filledQty ← record.floatField ["executed_quantity", "filled_quantity"]
  let avgFillPrice ← record.floatField ["average_price", "price"]
  let feeQuote ← record.floatField ["fee_quote"]
  let tsMs ← SqlValue.ofInt record.tsMs
  let updated ← SqlValue.ofInt (if record.kind = "order.filled" then filledAtMs else record.tsMs)
  return [(.orderLedger, sqlRow [
    ("order_key", .text record.orderKey),
    ("position_id", .ofOptionalText (record.optionalStr "position_id")),
    ("candidate_id", .ofOptionalText (textOr (record.optionalStr "review_id")
      (record.optionalStr "pair_id"))),
    ("venue", .text (record.strField "venue")),
    ("symbol", .text (record.strField "symbol")),
    ("side", .text (record.strField "side")),
    ("stage", .text (record.strField "stage")),
    ("reduce_only", .ofBool (record.field "reduce_only" (.bool false)).truthy),
    ("client_order_id", .ofOptionalText (record.optionalStr "client_order_id")),
    ("exchange_order_id", .ofOptionalText (textOr (record.optionalStr "order_id")
      (record.optionalStr "exchange_order_id"))),
    ("status", .text record.orderStatus),
    ("requested_qty", .ofOptionalFloat requestedQty),
    ("filled_qty", .ofOptionalFloat filledQty),
    ("avg_fill_price", .ofOptionalFloat avgFillPrice),
    ("fee_quote", .ofOptionalFloat feeQuote),
    ("submitted_at_ms", if record.kind = "order.submitted" then tsMs else .null),
    ("updated_at_ms", updated),
    ("truth_level", .text record.truthLevel),
    ("payload_json", .text record.payloadJson),
    ("created_at_ms", tsMs)])]

/-- `_record_fill_ledger`. -/
def recordFillLedger : Option (List SqlWrite) := do
  let filledAtMs ← record.intOr record.tsMs ["filled_at_ms"]
  let price ← record.floatField ["average_price", "price"]
  let qty ← record.floatField ["executed_quantity", "filled_quantity", "quantity"]
  let feeQuote ← record.floatField ["fee_quote"]
  let filled ← SqlValue.ofInt filledAtMs
  let tsMs ← SqlValue.ofInt record.tsMs
  return [(.fillLedger, sqlRow [
    ("fill_key", .text (record.fillKey filledAtMs)),
    ("order_key", .text record.orderKey),
    ("position_id", .ofOptionalText (record.optionalStr "position_id")),
    ("venue", .text (record.strField "venue")),
    ("symbol", .text (record.strField "symbol")),
    ("side", .text (record.strField "side")),
    ("price", .ofOptionalFloat price),
    ("qty", .ofOptionalFloat qty),
    ("fee_quote", .ofOptionalFloat feeQuote),
    ("liquidity", .ofOptionalText (record.optionalStr "liquidity")),
    ("exchange_trade_id", .ofOptionalText (textOr (textOr (record.optionalStr "trade_id")
      (record.optionalStr "exchange_trade_id")) (record.optionalStr "order_id"))),
    ("filled_at_ms", filled),
    ("truth_level", .text "venue_fill_confirmed"),
    ("payload_json", .text record.payloadJson),
    ("created_at_ms", tsMs)])]

/-- `_project_lifecycle_ledger`: one statement after the other. -/
def projectLifecycleLedger : List (Option (List SqlWrite)) :=
  match record.ledgerBridgeEntity with
  | none => []
  | some entity =>
    record.insertTradeLedgerEvent entity ::
      (if record.kind ∈ ledgerPositionOpenKinds then [record.recordPositionOpen]
      else if record.kind ∈ ledgerPositionCloseKinds then record.recordPositionClose
      else if record.kind ∈ orderKinds then
        record.recordOrderLedger ::
          (if record.kind = "order.filled" then [record.recordFillLedger] else [])
      else [])

def projectOrder : Option (List SqlWrite) := do
  let filled := record.kind = "order.filled"
  let failed := record.kind = "order.rejected" ∨ record.kind = "order.uncertain"
  let venue ← SqlValue.ofValue (record.field "venue" (.str "unknown"))
  let symbol ← SqlValue.ofValue (record.field "symbol" (.str ""))
  let latencyMs ← SqlValue.ofValue
    (if filled then record.field "latency_ms" (.int 0) else .int 0)
  let feeQuote ← if filled then record.requiredFloat "fee_quote" else some (.real (.finite 0))
  record.factRow .orderFacts [
    ("venue", venue),
    ("symbol", symbol),
    ("filled", .ofBool (Decidable.decide filled)),
    ("failed", .ofBool (Decidable.decide failed)),
    ("latency_ms", latencyMs),
    ("fee_quote", feeQuote)]

def projectEntryExit : Option (List SqlWrite) := do
  let entryFeeQuote ← record.requiredFloat "entry_fee_quote"
  let exitFeeQuote ← record.requiredFloat "exit_fee_quote"
  let netQuote ← record.requiredFloat "net_quote"
  let symbol ← SqlValue.ofValue (record.field "symbol" (.str ""))
  record.factRow .entryExitFacts [
    ("symbol", symbol),
    ("entry_fee_quote", entryFeeQuote),
    ("exit_fee_quote", exitFeeQuote),
    ("net_quote", netQuote)]

def projectRisk : Option (List SqlWrite) :=
  record.factRow .riskCounterFacts [("counter_value", .integer 1)]

def projectLocalL2Health : Option (List SqlWrite) := do
  let gap := record.kind = "runtime.local_l2_sequence_gap"
  let reason ← SqlValue.ofValue (record.field
    (if gap then "continuity_reason" else "failure_category") (.str "unspecified"))
  let venue ← SqlValue.ofValue (record.field "venue" (.str ""))
  record.factRow .localL2HealthFacts [
    ("reason", reason),
    ("category", .text (if gap then "sequence_gap" else "sync_failed")),
    ("venue", venue)]

def projectDiagnostic : Option (List SqlWrite) := do
  let reason ← SqlValue.ofValue (record.field "reason" (.str "unspecified"))
  let classification ← SqlValue.ofValue
    (if record.kind = "execution.entry_liquidity_blocked" then
      record.field "eligibility_class" (.str "")
    else if record.isFailClosed = true then record.field "reason" (.str "unspecified")
    else .str "")
  record.factRow .diagnosticFacts [("reason", reason), ("classification", classification)]

/-- The statement of a record's fact table. -/
def projectFact : ProjectionTable → Option (List SqlWrite)
  | .orderFacts => record.projectOrder
  | .entryExitFacts => record.projectEntryExit
  | .riskCounterFacts => record.projectRisk
  | .localL2HealthFacts => record.projectLocalL2Health
  | .diagnosticFacts => record.projectDiagnostic
  | _ => some []

/-- The statements of a record, up to the first that raises. -/
def statements : List (Option (List SqlWrite)) :=
  record.projectLifecycleLedger ++ (record.factTable.map record.projectFact).toList

end ProjectionRecord

/-! ## Projecting -/

/-- What statements write until one raises. -/
def writesUntilRaise : List (Option (List SqlWrite)) → List SqlWrite
  | [] => []
  | none :: _ => []
  | some writes :: rest => writes ++ writesUntilRaise rest

def ProjectionRecord.writes (record : ProjectionRecord) : List SqlWrite :=
  writesUntilRaise record.statements

def projectRecord (store : ProjectionStore) (record : ProjectionRecord) : ProjectionStore :=
  projectionSchema.writeAll store record.writes

/-- The tables after `project_records`; its counts and its cursor are left out. -/
def projectRecords (store : ProjectionStore) (records : List ProjectionRecord) :
    ProjectionStore :=
  records.foldl projectRecord store

/-- The state of a position's row. -/
def positionState (store : ProjectionStore) (positionId : String) : Option SqlValue :=
  (projectionSchema.rowAt store .positionLedger [.text positionId]).map (fun row => row "state")

theorem projectRecords_writes (store : ProjectionStore) (records : List ProjectionRecord) :
    projectRecords store records =
      projectionSchema.writeAll store (records.flatMap ProjectionRecord.writes) := by
  induction records generalizing store with
  | nil => rfl
  | cons record rest ih =>
    rw [List.flatMap_cons, Schema.writeAll_append]
    exact ih (projectRecord store record)

theorem projectRecords_append (store : ProjectionStore) (first second : List ProjectionRecord) :
    projectRecords store (first ++ second) = projectRecords (projectRecords store first) second :=
  List.foldl_append

end LightFee.Persistence
