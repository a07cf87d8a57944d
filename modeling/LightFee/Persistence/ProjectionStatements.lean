import LightFee.Persistence.ProjectionWriter

/-!
# What a well-formed record writes

A record is well formed if the fields its statements bind can be read and bound. None of its
statements raises then, so it writes one row to the fact table of its kind, under its own number
and kind, and one row to the ledger of positions if it opens or closes a position that it names.
-/

namespace LightFee.Persistence

open UpsertTable

/-! ## Well-formed records -/

def IsInt64 (value : Int) : Prop := -2 ^ 63 ≤ value ∧ value < 2 ^ 63

instance (value : Int) : Decidable (IsInt64 value) := inferInstanceAs (Decidable (_ ∧ _))

/-- The fields that a fact table's statement binds as they are. -/
def ProjectionTable.boundFields : ProjectionTable → List String
  | orderFacts => ["venue", "symbol", "latency_ms"]
  | entryExitFacts => ["symbol"]
  | localL2HealthFacts => ["continuity_reason", "failure_category", "venue"]
  | diagnosticFacts => ["reason", "eligibility_class"]
  | _ => []

/-- The fields that a fact table's statement reads as amounts. -/
def ProjectionTable.amountFields : ProjectionTable → List String
  | orderFacts => ["fee_quote"]
  | entryExitFacts => ["entry_fee_quote", "exit_fee_quote", "net_quote"]
  | _ => []

/-- The fields that the ledgers read as numbers if they can. -/
def numberFields : List String :=
  ["quantity", "matched_quantity", "entry_notional_quote", "exit_quantity", "new_quantity",
    "exit_notional_quote", "net_quote", "realized_price_pnl_quote", "funding_pnl_quote",
    "captured_funding_quote", "total_entry_fee_quote", "entry_fee_quote", "total_exit_fee_quote",
    "exit_fee_quote", "slippage_quote", "requested_quantity", "executed_quantity",
    "filled_quantity", "average_price", "price", "fee_quote"]

/-- The fields that the ledgers read as times if they can. -/
def timeFields : List String := ["entered_at_ms", "opened_at_ms", "closed_at_ms", "filled_at_ms"]

theorem amountFields_numbers (table : ProjectionTable) :
    ∀ key ∈ table.amountFields, key ∈ numberFields := by
  cases table <;> decide

namespace ProjectionRecord

structure WellFormed (record : ProjectionRecord) : Prop where
  seq : IsInt64 record.seq
  tsMs : IsInt64 record.tsMs
  /-- Scalars that are not null. -/
  bound : ∀ table, record.factTable = some table → ∀ key ∈ table.boundFields, ∀ value,
    record.field? key = some value → ∃ stored, SqlValue.ofValue value = some stored ∧
      stored ≠ .null
  amounts : ∀ table, record.factTable = some table → ∀ key ∈ table.amountFields, ∀ value,
    record.field? key = some value → ∃ float, readFloat value = .value float ∧
      float ≠ .notANumber
  /-- Whatever is not a number is passed over, an integer too large for a float is not. -/
  numbers : ∀ key ∈ numberFields, ∀ value, record.field? key = some value →
    readFloat value ≠ .overflow
  times : ∀ key ∈ timeFields, ∃ time, record.intField key = some time ∧
    ∀ value ∈ time, IsInt64 value

variable {record : ProjectionRecord}

theorem ofInt_bound {value : Int} (small : IsInt64 value) :
    SqlValue.ofInt value = some (.integer value) := if_pos small

namespace WellFormed

variable (wellFormed : record.WellFormed)

include wellFormed

theorem floatField_read {keys : List String} (numeric : ∀ key ∈ keys, key ∈ numberFields) :
    ∃ read, record.floatField keys = some read := by
  induction keys with
  | nil => exact ⟨none, rfl⟩
  | cons key rest ih =>
    have later := ih fun other listed => numeric other (List.mem_cons_of_mem _ listed)
    unfold floatField
    split
    · exact later
    · exact later
    · rename_i value _ held
      cases reads : readFloat value with
      | value float => exact ⟨some float, rfl⟩
      | refused => exact later
      | overflow =>
        exact absurd reads (wellFormed.numbers key (numeric key List.mem_cons_self) value held)

theorem intOr_read {keys : List String} (timed : ∀ key ∈ keys, key ∈ timeFields) {fallback : Int}
    (small : IsInt64 fallback) : ∃ value, record.intOr fallback keys = some value ∧
      IsInt64 value := by
  induction keys with
  | nil => exact ⟨fallback, rfl, small⟩
  | cons key rest ih =>
    have later := ih fun other listed => timed other (List.mem_cons_of_mem _ listed)
    obtain ⟨time, reads, bounded⟩ := wellFormed.times key (timed key List.mem_cons_self)
    cases time with
    | none => simpa only [intOr, reads] using later
    | some value =>
      by_cases zero : value = 0
      · simpa only [intOr, reads, if_pos zero] using later
      · exact ⟨value, by simp only [intOr, reads, if_neg zero], bounded value rfl⟩

theorem field_bound {table : ProjectionTable} (kind : record.factTable = some table) {key : String}
    (listed : key ∈ table.boundFields) {default : DynValue} {stored : SqlValue}
    (defaultBound : SqlValue.ofValue default = some stored) (there : stored ≠ .null) :
    ∃ stored, SqlValue.ofValue (record.field key default) = some stored ∧ stored ≠ .null := by
  cases held : record.field? key with
  | none =>
    rw [field, held]
    exact ⟨stored, defaultBound, there⟩
  | some value =>
    rw [field, held]
    exact wellFormed.bound table kind key listed value held

theorem amount_bound {table : ProjectionTable} (kind : record.factTable = some table)
    {key : String} (listed : key ∈ table.amountFields) :
    ∃ stored, record.requiredFloat key = some stored ∧ stored ≠ .null := by
  have bound : ∀ {float : ExactFloat}, float ≠ .notANumber → SqlValue.ofFloat float ≠ .null := by
    intro float number
    cases float with
    | finite value => simp [SqlValue.ofFloat]
    | infinite negative => simp [SqlValue.ofFloat]
    | notANumber => exact absurd rfl number
  cases held : record.field? key with
  | none =>
    refine ⟨.real (.finite 0), ?_, by simp⟩
    have zero : readFloat (.int 0) = .value (.finite 0) := by
      rw [readFloat, if_pos (by decide +kernel), Int.cast_zero]
    simp only [requiredFloat, field, held, Option.getD_none, zero]
    rfl
  | some value =>
    obtain ⟨float, reads, number⟩ := wellFormed.amounts table kind key listed value held
    refine ⟨SqlValue.ofFloat float, ?_, bound number⟩
    simp only [requiredFloat, field, held, Option.getD_some, reads]

/-! ## Fact rows -/

/-- A fact row under the record's number and kind. -/
theorem factRow_bound (table : ProjectionTable) (columns : List (String × SqlValue))
    (there : ∀ column ∈ columns, column.2 ≠ .null)
    (other : ∀ column ∈ columns, column.1 ≠ "payload_json") :
    ∃ row, record.factRow table columns = some [(table, row)] ∧
      row "seq" = .integer record.seq ∧ row "kind" = .text record.kind ∧
      row "ts_ms" = .integer record.tsMs ∧ row "payload_json" = .text record.payloadJson := by
  have whole : ([("seq", SqlValue.integer record.seq), ("ts_ms", .integer record.tsMs),
      ("kind", .text record.kind)] ++ columns ++
        [("payload_json", SqlValue.text record.payloadJson)]).any
        (fun column => column.2 = SqlValue.null) = false := by
    rw [List.any_eq_false]
    intro column listed
    simp only [List.cons_append, List.nil_append, List.mem_cons, List.mem_append,
      List.not_mem_nil, or_false] at listed
    rcases listed with rfl | rfl | rfl | listed | rfl
    · simp
    · simp
    · simp
    · simpa using there column listed
    · simp
  have payload : (columns ++ [("payload_json", SqlValue.text record.payloadJson)]).lookup
      "payload_json" = some (.text record.payloadJson) := by
    clear whole there
    induction columns with
    | nil => simp
    | cons column others ih =>
      have different := other column List.mem_cons_self
      rw [List.cons_append, List.lookup_cons]
      rw [show ("payload_json" == column.1) = false from by simpa using Ne.symm different]
      exact ih fun column listed => other column (List.mem_cons_of_mem _ listed)
  refine ⟨sqlRow ([("seq", .integer record.seq), ("ts_ms", .integer record.tsMs),
      ("kind", .text record.kind)] ++ columns ++ [("payload_json", .text record.payloadJson)]),
    ?_, ?_, ?_, ?_, ?_⟩
  · simp only [factRow, ofInt_bound wellFormed.seq, ofInt_bound wellFormed.tsMs,
      Option.bind_eq_bind, Option.bind_some, whole]
    rfl
  · simp [sqlRow]
  · simp [sqlRow, List.lookup_cons]
  · simp [sqlRow, List.lookup_cons]
  · simp [sqlRow, List.lookup_cons, payload]

theorem projectOrder_row (kind : record.factTable = some .orderFacts) :
    ∃ row, record.projectOrder = some [(.orderFacts, row)] ∧
      row "seq" = .integer record.seq ∧ row "kind" = .text record.kind ∧
      row "ts_ms" = .integer record.tsMs ∧ row "payload_json" = .text record.payloadJson := by
  obtain ⟨venue, venueBound, venueThere⟩ := wellFormed.field_bound kind
    (show "venue" ∈ ProjectionTable.boundFields _ by decide)
    (show SqlValue.ofValue (.str "unknown") = some _ from rfl) (by simp)
  obtain ⟨symbol, symbolBound, symbolThere⟩ := wellFormed.field_bound kind
    (show "symbol" ∈ ProjectionTable.boundFields _ by decide)
    (show SqlValue.ofValue (.str "") = some _ from rfl) (by simp)
  have latency : ∃ stored, SqlValue.ofValue (if record.kind = "order.filled" then
      record.field "latency_ms" (.int 0) else .int 0) = some stored ∧ stored ≠ .null := by
    split_ifs
    · exact wellFormed.field_bound kind (by decide) rfl (by simp)
    · exact ⟨.integer 0, rfl, by simp⟩
  have fee : ∃ stored, (if record.kind = "order.filled" then record.requiredFloat "fee_quote"
      else some (.real (.finite 0))) = some stored ∧ stored ≠ .null := by
    split_ifs
    · exact wellFormed.amount_bound kind (by decide)
    · exact ⟨_, rfl, by simp⟩
  obtain ⟨latencyMs, latencyBound, latencyThere⟩ := latency
  obtain ⟨feeQuote, feeBound, feeThere⟩ := fee
  have written := wellFormed.factRow_bound .orderFacts [("venue", venue),
    ("symbol", symbol), ("filled", .ofBool (Decidable.decide (record.kind = "order.filled"))),
    ("failed", .ofBool (Decidable.decide (record.kind = "order.rejected" ∨
      record.kind = "order.uncertain"))), ("latency_ms", latencyMs), ("fee_quote", feeQuote)]
    (by simp [venueThere, symbolThere, latencyThere, feeThere, SqlValue.ofBool]) (by simp)
  simp only [projectOrder, venueBound, symbolBound, latencyBound, Option.bind_eq_bind,
    Option.bind_some]
  by_cases filled : record.kind = "order.filled"
  · rw [if_pos filled] at feeBound ⊢
    rw [feeBound, Option.bind_some]
    exact written
  · rw [if_neg filled] at feeBound ⊢
    obtain rfl := Option.some.inj feeBound
    exact written

theorem projectEntryExit_row (kind : record.factTable = some .entryExitFacts) :
    ∃ row, record.projectEntryExit = some [(.entryExitFacts, row)] ∧
      row "seq" = .integer record.seq ∧ row "kind" = .text record.kind ∧
      row "ts_ms" = .integer record.tsMs ∧ row "payload_json" = .text record.payloadJson := by
  obtain ⟨entryFee, entryBound, entryThere⟩ :=
    wellFormed.amount_bound kind (show "entry_fee_quote" ∈ ProjectionTable.amountFields _ by decide)
  obtain ⟨exitFee, exitBound, exitThere⟩ :=
    wellFormed.amount_bound kind (show "exit_fee_quote" ∈ ProjectionTable.amountFields _ by decide)
  obtain ⟨net, netBound, netThere⟩ :=
    wellFormed.amount_bound kind (show "net_quote" ∈ ProjectionTable.amountFields _ by decide)
  obtain ⟨symbol, symbolBound, symbolThere⟩ := wellFormed.field_bound kind
    (show "symbol" ∈ ProjectionTable.boundFields _ by decide)
    (show SqlValue.ofValue (.str "") = some _ from rfl) (by simp)
  simp only [projectEntryExit, entryBound, exitBound, netBound, symbolBound, Option.bind_eq_bind,
    Option.bind_some]
  refine wellFormed.factRow_bound .entryExitFacts _ ?_ ?_
  · simp [entryThere, exitThere, netThere, symbolThere]
  · simp

theorem projectRisk_row :
    ∃ row, record.projectRisk = some [(.riskCounterFacts, row)] ∧
      row "seq" = .integer record.seq ∧ row "kind" = .text record.kind ∧
      row "ts_ms" = .integer record.tsMs ∧ row "payload_json" = .text record.payloadJson :=
  wellFormed.factRow_bound .riskCounterFacts _ (by simp) (by simp)

theorem projectLocalL2Health_row (kind : record.factTable = some .localL2HealthFacts) :
    ∃ row, record.projectLocalL2Health = some [(.localL2HealthFacts, row)] ∧
      row "seq" = .integer record.seq ∧ row "kind" = .text record.kind ∧
      row "ts_ms" = .integer record.tsMs ∧ row "payload_json" = .text record.payloadJson := by
  have reason : ∃ stored, SqlValue.ofValue (record.field
      (if record.kind = "runtime.local_l2_sequence_gap" then "continuity_reason"
        else "failure_category") (.str "unspecified")) = some stored ∧ stored ≠ .null := by
    refine wellFormed.field_bound kind ?_ rfl (by simp)
    split_ifs
    · decide
    · decide
  obtain ⟨reason, reasonBound, reasonThere⟩ := reason
  obtain ⟨venue, venueBound, venueThere⟩ := wellFormed.field_bound kind
    (show "venue" ∈ ProjectionTable.boundFields _ by decide)
    (show SqlValue.ofValue (.str "") = some _ from rfl) (by simp)
  simp only [projectLocalL2Health, reasonBound, venueBound, Option.bind_eq_bind, Option.bind_some]
  refine wellFormed.factRow_bound .localL2HealthFacts _ ?_ ?_
  · simp [reasonThere, venueThere]
  · simp

theorem projectDiagnostic_row (kind : record.factTable = some .diagnosticFacts) :
    ∃ row, record.projectDiagnostic = some [(.diagnosticFacts, row)] ∧
      row "seq" = .integer record.seq ∧ row "kind" = .text record.kind ∧
      row "ts_ms" = .integer record.tsMs ∧ row "payload_json" = .text record.payloadJson := by
  obtain ⟨reason, reasonBound, reasonThere⟩ := wellFormed.field_bound kind
    (show "reason" ∈ ProjectionTable.boundFields _ by decide)
    (show SqlValue.ofValue (.str "unspecified") = some _ from rfl) (by simp)
  have classified : ∃ stored, SqlValue.ofValue
      (if record.kind = "execution.entry_liquidity_blocked" then
        record.field "eligibility_class" (.str "")
      else if record.isFailClosed = true then record.field "reason" (.str "unspecified")
      else .str "") = some stored ∧ stored ≠ .null := by
    split_ifs
    · exact wellFormed.field_bound kind (by decide) rfl (by simp)
    · exact ⟨reason, reasonBound, reasonThere⟩
    · exact ⟨.text "", rfl, by simp⟩
  obtain ⟨classification, classBound, classThere⟩ := classified
  simp only [projectDiagnostic, reasonBound, classBound, Option.bind_eq_bind, Option.bind_some]
  refine wellFormed.factRow_bound .diagnosticFacts _ ?_ ?_
  · simp [reasonThere, classThere]
  · simp

/-- The fact table of the kind has one row of the record. -/
theorem projectFact_row {table : ProjectionTable} (kind : record.factTable = some table) :
    ∃ row, record.projectFact table = some [(table, row)] ∧
      row "seq" = .integer record.seq ∧ row "kind" = .text record.kind ∧
      row "ts_ms" = .integer record.tsMs ∧ row "payload_json" = .text record.payloadJson := by
  have among : table = .orderFacts ∨ table = .entryExitFacts ∨ table = .riskCounterFacts ∨
      table = .localL2HealthFacts ∨ table = .diagnosticFacts := by
    unfold factTable at kind
    split_ifs at kind <;> simp_all
  rcases among with rfl | rfl | rfl | rfl | rfl
  · exact wellFormed.projectOrder_row kind
  · exact wellFormed.projectEntryExit_row kind
  · exact wellFormed.projectRisk_row
  · exact wellFormed.projectLocalL2Health_row kind
  · exact wellFormed.projectDiagnostic_row kind

/-! ## Ledger rows -/

theorem insertTradeLedgerEvent_row (entity : String × String) :
    ∃ row, record.insertTradeLedgerEvent entity = some [(.tradeLedgerEvents, row)] := by
  simp only [insertTradeLedgerEvent, ofInt_bound wellFormed.seq, ofInt_bound wellFormed.tsMs,
    Option.bind_eq_bind, Option.bind_some]
  exact ⟨_, rfl⟩

theorem recordPositionOpen_row (named : record.strField "position_id" ≠ "") :
    ∃ row, record.recordPositionOpen = some [(.positionLedger, row)] ∧
      row "position_id" = .text (record.strField "position_id") ∧ row "state" = .text "open" := by
  obtain ⟨opened, openedRead, openedSmall⟩ := wellFormed.intOr_read
    (show ∀ key ∈ ["entered_at_ms", "opened_at_ms"], key ∈ timeFields by decide) wellFormed.tsMs
  obtain ⟨entryQty, qtyRead⟩ := wellFormed.floatField_read
    (show ∀ key ∈ ["quantity", "matched_quantity"], key ∈ numberFields by decide)
  obtain ⟨entryNotional, notionalRead⟩ := wellFormed.floatField_read
    (show ∀ key ∈ ["entry_notional_quote"], key ∈ numberFields by decide)
  simp only [recordPositionOpen, if_neg named, openedRead, qtyRead, notionalRead,
    ofInt_bound openedSmall, ofInt_bound wellFormed.tsMs, Option.bind_eq_bind, Option.bind_some]
  exact ⟨_, rfl, by simp [sqlRow, positionColumns],
    by simp [sqlRow, positionColumns, List.lookup_cons]⟩

theorem closedAtMs_read : ∃ closedAtMs, record.closedAtMs = some closedAtMs ∧
    IsInt64 closedAtMs :=
  wellFormed.intOr_read (show ∀ key ∈ ["closed_at_ms"], key ∈ timeFields by decide)
    wellFormed.tsMs

theorem closePositionLedger_row :
    ∃ row, record.closePositionLedger = some [(.positionLedger, row)] ∧
      row "position_id" = .text (record.strField "position_id") ∧
      row "state" = .text "closed" := by
  obtain ⟨closed, closedRead, closedSmall⟩ := wellFormed.closedAtMs_read
  obtain ⟨opened, openedRead, openedSmall⟩ := wellFormed.intOr_read
    (show ∀ key ∈ ["opened_at_ms"], key ∈ timeFields by decide) closedSmall
  obtain ⟨exitQty, qtyRead⟩ := wellFormed.floatField_read
    (show ∀ key ∈ ["exit_quantity", "quantity", "new_quantity"], key ∈ numberFields by decide)
  obtain ⟨entryNotional, entryRead⟩ := wellFormed.floatField_read
    (show ∀ key ∈ ["entry_notional_quote"], key ∈ numberFields by decide)
  obtain ⟨exitNotional, exitRead⟩ := wellFormed.floatField_read
    (show ∀ key ∈ ["exit_notional_quote"], key ∈ numberFields by decide)
  simp only [closePositionLedger, closedRead, openedRead, qtyRead, entryRead, exitRead,
    ofInt_bound openedSmall, ofInt_bound closedSmall, ofInt_bound wellFormed.tsMs,
    Option.bind_eq_bind, Option.bind_some]
  exact ⟨_, rfl, by simp [sqlRow, positionColumns],
    by simp [sqlRow, positionColumns, List.lookup_cons]⟩

theorem closePnlFact_rows :
    ∃ rows : List SqlRow,
      record.closePnlFact = some (rows.map (fun row => (.positionPnlFacts, row))) := by
  obtain ⟨closed, closedRead, closedSmall⟩ := wellFormed.closedAtMs_read
  obtain ⟨net, netRead⟩ := wellFormed.floatField_read
    (show ∀ key ∈ ["net_quote"], key ∈ numberFields by decide)
  by_cases skipped : net.isNone ∧ record.kind ≠ "exit.closed"
  · refine ⟨[], ?_⟩
    simp only [closePnlFact, closedRead, netRead, Option.bind_eq_bind, Option.bind_some,
      if_pos skipped]
    rfl
  obtain ⟨price, priceRead⟩ := wellFormed.floatField_read
    (show ∀ key ∈ ["realized_price_pnl_quote"], key ∈ numberFields by decide)
  obtain ⟨funding, fundingRead⟩ := wellFormed.floatField_read
    (show ∀ key ∈ ["funding_pnl_quote", "captured_funding_quote"], key ∈ numberFields by decide)
  obtain ⟨entryFee, entryRead⟩ := wellFormed.floatField_read
    (show ∀ key ∈ ["total_entry_fee_quote", "entry_fee_quote"], key ∈ numberFields by decide)
  obtain ⟨exitFee, exitRead⟩ := wellFormed.floatField_read
    (show ∀ key ∈ ["total_exit_fee_quote", "exit_fee_quote"], key ∈ numberFields by decide)
  obtain ⟨slippage, slippageRead⟩ := wellFormed.floatField_read
    (show ∀ key ∈ ["slippage_quote"], key ∈ numberFields by decide)
  simp only [closePnlFact, closedRead, netRead, priceRead, fundingRead, entryRead, exitRead,
    slippageRead, ofInt_bound closedSmall, ofInt_bound wellFormed.tsMs, Option.bind_eq_bind,
    Option.bind_some, if_neg skipped]
  by_cases reconciled : record.kind = "exit.reconciled"
  · simp only [if_pos reconciled]
    exact ⟨[_], rfl⟩
  · simp only [if_neg reconciled]
    exact ⟨[_], rfl⟩

theorem recordOrderLedger_row :
    ∃ row, record.recordOrderLedger = some [(.orderLedger, row)] := by
  obtain ⟨filled, filledRead, filledSmall⟩ := wellFormed.intOr_read
    (show ∀ key ∈ ["filled_at_ms"], key ∈ timeFields by decide) wellFormed.tsMs
  obtain ⟨requested, requestedRead⟩ := wellFormed.floatField_read
    (show ∀ key ∈ ["requested_quantity", "quantity"], key ∈ numberFields by decide)
  obtain ⟨executed, executedRead⟩ := wellFormed.floatField_read
    (show ∀ key ∈ ["executed_quantity", "filled_quantity"], key ∈ numberFields by decide)
  obtain ⟨price, priceRead⟩ := wellFormed.floatField_read
    (show ∀ key ∈ ["average_price", "price"], key ∈ numberFields by decide)
  obtain ⟨fee, feeRead⟩ := wellFormed.floatField_read
    (show ∀ key ∈ ["fee_quote"], key ∈ numberFields by decide)
  have updated : IsInt64 (if record.kind = "order.filled" then filled else record.tsMs) := by
    split_ifs
    · exact filledSmall
    · exact wellFormed.tsMs
  simp only [recordOrderLedger, filledRead, requestedRead, executedRead, priceRead, feeRead,
    ofInt_bound updated, ofInt_bound wellFormed.tsMs, Option.bind_eq_bind, Option.bind_some]
  exact ⟨_, rfl⟩

theorem recordFillLedger_row :
    ∃ row, record.recordFillLedger = some [(.fillLedger, row)] := by
  obtain ⟨filled, filledRead, filledSmall⟩ := wellFormed.intOr_read
    (show ∀ key ∈ ["filled_at_ms"], key ∈ timeFields by decide) wellFormed.tsMs
  obtain ⟨price, priceRead⟩ := wellFormed.floatField_read
    (show ∀ key ∈ ["average_price", "price"], key ∈ numberFields by decide)
  obtain ⟨qty, qtyRead⟩ := wellFormed.floatField_read
    (show ∀ key ∈ ["executed_quantity", "filled_quantity", "quantity"], key ∈ numberFields by
      decide)
  obtain ⟨fee, feeRead⟩ := wellFormed.floatField_read
    (show ∀ key ∈ ["fee_quote"], key ∈ numberFields by decide)
  simp only [recordFillLedger, filledRead, priceRead, qtyRead, feeRead,
    ofInt_bound filledSmall, ofInt_bound wellFormed.tsMs, Option.bind_eq_bind, Option.bind_some]
  exact ⟨_, rfl⟩

end WellFormed

/-! ## All rows of a record -/

/-- The position and the state that a record writes to the ledger of positions. -/
def positionEntry (record : ProjectionRecord) : List (SqlValue × SqlValue) :=
  if record.strField "position_id" = "" then []
  else if record.kind ∈ ledgerPositionOpenKinds then
    [(.text (record.strField "position_id"), .text "open")]
  else if record.kind ∈ ledgerPositionCloseKinds then
    [(.text (record.strField "position_id"), .text "closed")]
  else []

/-- What the statements of the ledgers write, when none raises: no fact row, and the entry of
the position. -/
def WritesLedger (record : ProjectionRecord) (statements : List (Option (List SqlWrite))) : Prop :=
  ∃ ledger : List SqlWrite,
    (∀ rest, writesUntilRaise (statements ++ rest) = ledger ++ writesUntilRaise rest) ∧
    (∀ written ∈ ledger, written.1.isFactTable = false) ∧
    (Schema.rowsOf .positionLedger ledger).map (fun row => (row "position_id", row "state")) =
      record.positionEntry

theorem WellFormed.projectLifecycleLedger_writes (wellFormed : record.WellFormed) :
    record.WritesLedger record.projectLifecycleLedger := by
  unfold projectLifecycleLedger
  cases bridged : record.ledgerBridgeEntity with
  | none =>
    refine ⟨[], fun _ => rfl, by simp, ?_⟩
    unfold ledgerBridgeEntity at bridged
    unfold positionEntry
    split_ifs at bridged ⊢ <;> simp_all [Schema.rowsOf]
  | some entity =>
    obtain ⟨event, eventWritten⟩ := wellFormed.insertTradeLedgerEvent_row entity
    have named : record.kind ∈ ledgerPositionOpenKinds ∨
        record.kind ∈ ledgerPositionCloseKinds → record.strField "position_id" ≠ "" := by
      intro position unnamed
      rw [ledgerBridgeEntity, if_pos position, if_pos unnamed] at bridged
      exact absurd bridged (by simp)
    simp only [eventWritten]
    by_cases opens : record.kind ∈ ledgerPositionOpenKinds
    · obtain ⟨row, written, position, state⟩ :=
        wellFormed.recordPositionOpen_row (named (.inl opens))
      refine ⟨[(.tradeLedgerEvents, event), (.positionLedger, row)], ?_, by
        simp [ProjectionTable.isFactTable], ?_⟩
      · simp [if_pos opens, written, writesUntilRaise]
      · simp [Schema.rowsOf, positionEntry, named (.inl opens), opens, position, state]
    by_cases closes : record.kind ∈ ledgerPositionCloseKinds
    · obtain ⟨row, written, position, state⟩ := wellFormed.closePositionLedger_row
      obtain ⟨facts, pnlWritten⟩ := wellFormed.closePnlFact_rows
      refine ⟨[(.tradeLedgerEvents, event), (.positionLedger, row)] ++
        facts.map (fun row => (.positionPnlFacts, row)), ?_, ?_, ?_⟩
      · simp [if_neg opens, if_pos closes, recordPositionClose, named (.inr closes), written,
          pnlWritten, writesUntilRaise]
      · intro written listed
        simp only [List.cons_append, List.nil_append, List.mem_cons, List.mem_map] at listed
        rcases listed with rfl | rfl | ⟨fact, _, rfl⟩
        · rfl
        · rfl
        · rfl
      · simp [Schema.rowsOf, positionEntry, named (.inr closes), opens, closes, position, state]
    have noPosition : record.positionEntry = [] := by simp [positionEntry, opens, closes]
    rw [if_neg opens, if_neg closes]
    by_cases ordered : record.kind ∈ orderKinds
    · obtain ⟨order, orderWritten⟩ := wellFormed.recordOrderLedger_row
      obtain ⟨fill, fillWritten⟩ := wellFormed.recordFillLedger_row
      rw [if_pos ordered, orderWritten]
      by_cases filled : record.kind = "order.filled"
      · refine ⟨[(.tradeLedgerEvents, event), (.orderLedger, order), (.fillLedger, fill)], ?_,
          by simp [ProjectionTable.isFactTable], by simp [Schema.rowsOf, noPosition]⟩
        simp [if_pos filled, fillWritten, writesUntilRaise]
      · refine ⟨[(.tradeLedgerEvents, event), (.orderLedger, order)], ?_,
          by simp [ProjectionTable.isFactTable], by simp [Schema.rowsOf, noPosition]⟩
        simp [if_neg filled, writesUntilRaise]
    · refine ⟨[(.tradeLedgerEvents, event)], ?_, by simp [ProjectionTable.isFactTable],
        by simp [Schema.rowsOf, noPosition]⟩
      simp [if_neg ordered, writesUntilRaise]

/-- A well-formed record writes one row to the fact table of its kind and none to another. -/
theorem WellFormed.fact_rows (wellFormed : record.WellFormed) {table : ProjectionTable}
    (fact : table.isFactTable = true) :
    (Schema.rowsOf table record.writes).map
        (fun row => (row "seq", row "kind", row "ts_ms", row "payload_json")) =
      if record.factTable = some table then
        [(.integer record.seq, .text record.kind, .integer record.tsMs,
          .text record.payloadJson)]
      else [] := by
  obtain ⟨ledger, writes, apart, -⟩ := wellFormed.projectLifecycleLedger_writes
  have noRows : Schema.rowsOf table ledger = [] := by
    rw [Schema.rowsOf, List.filter_eq_nil_iff.mpr, List.map_nil]
    intro written listed here
    have same : written.1 = table := by simpa using here
    rw [← same, apart written listed] at fact
    exact absurd fact (by decide)
  rw [ProjectionRecord.writes, statements, writes, Schema.rowsOf_append, noRows, List.nil_append]
  cases kind : record.factTable with
  | none => simp [writesUntilRaise, Schema.rowsOf]
  | some own =>
    obtain ⟨row, written, seq, named, time, payload⟩ := wellFormed.projectFact_row kind
    by_cases here : own = table
    · subst here
      simp [writesUntilRaise, written, Schema.rowsOf, seq, named, time, payload]
    · simp [writesUntilRaise, written, Schema.rowsOf, here]

theorem WellFormed.position_rows (wellFormed : record.WellFormed) :
    (Schema.rowsOf .positionLedger record.writes).map
      (fun row => (row "position_id", row "state")) = record.positionEntry := by
  obtain ⟨ledger, writes, -, entry⟩ := wellFormed.projectLifecycleLedger_writes
  rw [ProjectionRecord.writes, statements, writes, Schema.rowsOf_append, List.map_append, entry]
  cases kind : record.factTable with
  | none => simp [writesUntilRaise, Schema.rowsOf]
  | some own =>
    obtain ⟨row, written, -⟩ := wellFormed.projectFact_row kind
    have apart : own ≠ .positionLedger := by
      rintro rfl
      unfold factTable at kind
      split_ifs at kind <;> simp at kind
    simp [writesUntilRaise, written, Schema.rowsOf, apart]

/-- A record whose payload holds texts, and none under the name of a number or a time. -/
theorem wellFormed_texts (seq : IsInt64 record.seq) (tsMs : IsInt64 record.tsMs)
    (absent : ∀ key ∈ numberFields ++ timeFields, key ∉ record.payload.map Prod.fst)
    (texts : ∀ entry ∈ record.payload, ∃ text, entry.2 = .str text) : record.WellFormed := by
  have found : ∀ (entries : List (String × DynValue)) (key : String) (value : DynValue),
      OrderedDict.lookupEntries key entries = some value → (key, value) ∈ entries := by
    intro entries key value held
    induction entries with
    | nil => simp [OrderedDict.lookupEntries] at held
    | cons entry rest ih =>
      obtain ⟨other, first⟩ := entry
      by_cases same : other = key
      · simp only [OrderedDict.lookupEntries, if_pos same, Option.some.injEq] at held
        simp [same, held]
      · simp only [OrderedDict.lookupEntries, if_neg same] at held
        exact List.mem_cons_of_mem _ (ih held)
  have missing : ∀ key ∈ numberFields ++ timeFields, record.field? key = none := by
    intro key listed
    exact (OrderedDict.lookup_eq_none record.payload key).mpr (absent key listed)
  refine ⟨seq, tsMs, ?_, ?_, ?_, ?_⟩
  · intro table _ key _ value held
    obtain ⟨text, isText⟩ := texts _ (found _ _ _ held)
    exact ⟨.text text, by rw [show value = .str text from isText]; rfl, by simp⟩
  · intro table _ key listed value held
    rw [missing key (List.mem_append_left _ (amountFields_numbers table key listed))] at held
    exact absurd held (by simp)
  · intro key listed value held
    rw [missing key (List.mem_append_left _ listed)] at held
    exact absurd held (by simp)
  · intro key listed
    refine ⟨none, ?_, by simp⟩
    rw [intField, missing key (List.mem_append_right _ listed)]

end ProjectionRecord

end LightFee.Persistence
