import LightFee.Engine.LiveFlatHandover
import LightFee.Library.DynRecord

/-!
# What a close reconciliation proves

A record that misses the identities of a leg, or the facts that route a lookup, is an evidence debt.
An operator's import has to carry the facts of the entry as well.
-/

namespace LightFee.Engine

open DynValue

/-! ## Numbers of a record -/

/-- The least magnitude of an integer that a float cannot hold. -/
def floatOverflow : Nat := 2 ^ 1024 - 2 ^ 970

/-- `float(value)`, where an integer beyond the floats is as unreadable as a text. -/
def floatOf? : DynValue → Option ExactFloat
  | .int value => if value.natAbs < floatOverflow then some (.finite value) else none
  | value => value.toFloat?

/-- A finite number. -/
def finiteOf? (value : DynValue) : Option ℚ :=
  match floatOf? value with
  | some (.finite number) => some number
  | _ => none

/-- A finite number that is not negative. -/
def quantityOf? (value : DynValue) : Option ℚ := (finiteOf? value).filter (0 ≤ ·)

/-- `_safe_reconciliation_float`. -/
def safeReconciliationFloat (value : DynValue) : ℚ := (finiteOf? value).getD 0

def reconciliationKind (reconciliation : DynValue) : String :=
  ((reconciliation.get "kind").orElse (.str "final")).text

/-! ## Gaps of the evidence -/

/-- `tuple(values) == texts`. -/
def sameTexts : List DynValue → List String → Bool
  | [], [] => true
  | value :: values, text :: texts => isText value text && sameTexts values texts
  | _, _ => false

/-- The record itself or its snapshot. -/
def recordOrSnapshot (reconciliation : DynValue) (field : String) : DynValue :=
  (reconciliation.get field).orElse ((reconciliation.get "position_snapshot").get field)

/-- `pending_close_reconciliation_evidence_debt_reason`. -/
def pendingCloseReconciliationEvidenceDebtReason (reconciliation : DynValue) : Option String :=
  let kind := reconciliationKind reconciliation
  let snapshot := reconciliation.get "position_snapshot"
  if reconciliation.isMapping = false then some "invalid_reconciliation_item"
  else if (reconciliation.get "invalid_pending_close_reconciliation").isTrue then
    some ((reconciliation.get "reason").orElse (.str "invalid_reconciliation_item")).text
  else if kind = "accepted_order_truth_gap" then none
  else if ["final", "partial"].contains kind = false then some "unsupported_reconciliation_kind"
  else if snapshot.isMapping = false ∨ snapshot.truthy = false then
    some "missing_position_snapshot"
  else if textOf (recordOrSnapshot reconciliation "position_id") = "" then
    some "missing_position_id"
  else if textOf (recordOrSnapshot reconciliation "symbol") = "" then some "missing_symbol"
  else if textOf (recordOrSnapshot reconciliation "long_venue") = "" ∨
      textOf (recordOrSnapshot reconciliation "short_venue") = "" then
    some "missing_position_snapshot_venues"
  else
    let missing := pendingCloseReconciliationMissingLegs reconciliation
    if missing = [] then none
    else
      match reconciliation.get "unattributed_exchange_close_legs" with
      | .list observed =>
        if sameTexts observed missing then some "unattributed_exchange_execution"
        else some "missing_close_order_identity"
      | _ => some "missing_close_order_identity"

/-! ## What an import has to carry -/

/-- The first leg of a partial close whose closed quantity is not a number of at least 0. -/
def partialQuantityGap (reconciliation : DynValue) : Option String :=
  let originalPayload := reconciliation.get "original_payload"
  if originalPayload.isMapping then
    (["long", "short"].find? (fun label =>
      (quantityOf? (originalPayload.get (label ++ "_closed_qty"))).isNone)).map
      (fun label => "missing_or_invalid_" ++ label ++ "_closed_qty")
  else some "missing_or_invalid_long_closed_qty"

/-- The first fact of the entry that is not a number. -/
def snapshotNumberGap (snapshot : DynValue) : Option String :=
  (["long_quantity", "short_quantity", "long_entry_price", "short_entry_price",
    "total_entry_fee_quote", "captured_funding_quote"].find? (fun field =>
      if ["long_quantity", "short_quantity", "long_entry_price", "short_entry_price"].contains field
      then (quantityOf? (snapshot.get field)).isNone
      else (finiteOf? (snapshot.get field)).isNone)).map
    ("missing_or_invalid_" ++ ·)

/-- The first thing wrong with a leg of the import. -/
def importLegGap (reconciliation : DynValue) (label : String) : Option String :=
  let venue := textOf ((reconciliation.get "position_snapshot").get (label ++ "_venue"))
  match reconciliation.get (label ++ "_legs") with
  | .list legs =>
    legs.findSome? fun leg =>
      if leg.isMapping = false then some ("invalid_" ++ label ++ "_leg")
      else if textOf (leg.get "venue") ≠ venue then some (label ++ "_leg_venue_mismatch")
      else none
  | _ => some ("missing_" ++ label ++ "_legs")

/-- `pending_close_reconciliation_import_reason`. -/
def pendingCloseReconciliationImportReason (reconciliation : DynValue) : Option String :=
  let snapshot := reconciliation.get "position_snapshot"
  (pendingCloseReconciliationEvidenceDebtReason reconciliation).or <|
    if reconciliation.isMapping = false then some "invalid_reconciliation_item"
    else if reconciliationInt (reconciliation.get "closed_at_ms") ≤ 0 then
      some "missing_closed_at_ms"
    else
      (if reconciliationKind reconciliation = "partial" then partialQuantityGap reconciliation
        else none).or <|
      if snapshot.isMapping = false then some "missing_position_snapshot"
      else if textOf (snapshot.get "position_id") ≠ textOf (reconciliation.get "position_id") then
        some "position_snapshot_position_id_mismatch"
      else if textOf (snapshot.get "symbol") ≠ textOf (reconciliation.get "symbol") then
        some "position_snapshot_symbol_mismatch"
      else
        (snapshotNumberGap snapshot).or <|
        if (snapshot.get "entry_fee_evidence_complete").isTrue = false then
          some "entry_fee_evidence_incomplete"
        else (importLegGap reconciliation "long").or (importLegGap reconciliation "short")

end LightFee.Engine
