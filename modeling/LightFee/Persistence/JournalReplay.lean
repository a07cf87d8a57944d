import LightFee.Library.TextSearch

/-!
# Replaying journal records

The journal's records are folded into the open positions, the lifecycle and the
risk mode, beside the pending work, the statistics and the timeline that a report
shows. A replay can start from the state another replay ended in.

A position id is any value that can key a mapping; a record that would raise,
for a number that does not parse or an id that is no key, ends the replay.
-/

namespace LightFee.Persistence

/-- A key of a mapping. Numbers of every kind that are equal are one key. -/
inductive DictKey where
  | null
  | text (value : String)
  | number (value : ℚ)
  | infinite (negative : Bool)
deriving DecidableEq

/-- The key a value is, if it can be one. -/
def dictKey : DynValue → Option DictKey
  | .null => some .null
  | .bool value => some (.number (if value then 1 else 0))
  | .int value => some (.number value)
  | .float value =>
    match value.value with
    | .finite exact => some (.number exact)
    | .infinite negative => some (.infinite negative)
    | .notANumber => none
  | .str value => some (.text value)
  | _ => none

namespace DictKey

def isText : DictKey → Bool
  | text _ => true
  | _ => false

def isNumber : DictKey → Bool
  | number _ | infinite _ => true
  | _ => false

/-- The order of texts, and of numbers. -/
def le : DictKey → DictKey → Bool
  | text left, text right => !(decide (right < left))
  | number left, number right => left ≤ right
  | infinite left, infinite right => left || !right
  | infinite left, number _ => left
  | number _, infinite right => !right
  | _, _ => false

/-- `sorted(keys)`; texts and numbers do not compare. -/
def sorted (keys : List DictKey) : Option (List DictKey) :=
  if keys.all isText ∨ keys.all isNumber ∨ keys.length ≤ 1 then some (keys.mergeSort le) else none

end DictKey

/-- `set.add(key)`. -/
def setAdd {α : Type} [DecidableEq α] (key : α) (keys : List α) : List α :=
  if key ∈ keys then keys else keys ++ [key]

/-- `set.discard(key)`. -/
def setDiscard {α : Type} [DecidableEq α] (key : α) (keys : List α) : List α :=
  keys.filter (fun other => decide (other ≠ key))

/-! ## Position snapshots -/

/-- A field as a payload stores it, or a float that a conversion computed. -/
inductive FieldValue where
  | stored (value : DynValue)
  | float (value : ExactFloat)

namespace FieldValue

def toFloat? : FieldValue → Option ExactFloat
  | stored value => value.toFloat?
  | float value => some value

def toInt? : FieldValue → Option Int
  | stored value => value.toInt?
  | float (.finite exact) => some (exact.num.tdiv exact.den)
  | float _ => none

def truthy : FieldValue → Bool
  | stored value => value.truthy
  | float value => value.truthy

end FieldValue

abbrev Fields := List (String × FieldValue)

namespace Fields

def get (fields : Fields) (name : String) (default : DynValue) : FieldValue :=
  (OrderedDict.lookupEntries name fields).getD (.stored default)

end Fields

/-- A position in the replay's fixed schema. -/
structure ReplayPosition where
  positionId : FieldValue
  symbol : FieldValue
  longVenue : FieldValue
  shortVenue : FieldValue
  quantity : ExactFloat
  longQuantity : ExactFloat
  shortQuantity : ExactFloat
  longEntryPrice : ExactFloat
  shortEntryPrice : ExactFloat
  openedAtMs : Int
  matchedQuantity : ExactFloat
  currentNetQuote : ExactFloat
  peakNetQuote : ExactFloat
  capturedFundingQuote : ExactFloat
  secondStageFundingQuote : ExactFloat
  longEntryFeeQuote : ExactFloat
  shortEntryFeeQuote : ExactFloat
  realizedPricePnlQuote : ExactFloat
  realizedExitFeeQuote : ExactFloat
  fundingCaptured : Bool
  secondStageFundingCaptured : Bool
  reviewId : FieldValue

def normalizePositionSnapshot (pdata : Fields) : Option ReplayPosition := do
  let number (name : String) := (pdata.get name (.int 0)).toFloat?
  return {
    positionId := pdata.get "position_id" (.str "")
    symbol := pdata.get "symbol" (.str "")
    longVenue := pdata.get "long_venue" (.str "")
    shortVenue := pdata.get "short_venue" (.str "")
    quantity := ← number "quantity"
    longQuantity := ← number "long_quantity"
    shortQuantity := ← number "short_quantity"
    longEntryPrice := ← number "long_entry_price"
    shortEntryPrice := ← number "short_entry_price"
    openedAtMs := ← (pdata.get "opened_at_ms" (.int 0)).toInt?
    matchedQuantity := ← number "matched_quantity"
    currentNetQuote := ← number "current_net_quote"
    peakNetQuote := ← number "peak_net_quote"
    capturedFundingQuote := ← number "captured_funding_quote"
    secondStageFundingQuote := ← number "second_stage_funding_quote"
    longEntryFeeQuote := ← number "long_entry_fee_quote"
    shortEntryFeeQuote := ← number "short_entry_fee_quote"
    realizedPricePnlQuote := ← number "realized_price_pnl_quote"
    realizedExitFeeQuote := ← number "realized_exit_fee_quote"
    fundingCaptured := (pdata.get "funding_captured" (.bool false)).truthy
    secondStageFundingCaptured := (pdata.get "second_stage_funding_captured" (.bool false)).truthy
    reviewId := pdata.get "review_id" .null }

/-- The snapshot as a mapping. -/
def ReplayPosition.toFields (position : ReplayPosition) : Fields :=
  [("position_id", position.positionId), ("symbol", position.symbol),
    ("long_venue", position.longVenue), ("short_venue", position.shortVenue),
    ("quantity", .float position.quantity), ("long_quantity", .float position.longQuantity),
    ("short_quantity", .float position.shortQuantity),
    ("long_entry_price", .float position.longEntryPrice),
    ("short_entry_price", .float position.shortEntryPrice),
    ("opened_at_ms", .stored (.int position.openedAtMs)),
    ("matched_quantity", .float position.matchedQuantity),
    ("current_net_quote", .float position.currentNetQuote),
    ("peak_net_quote", .float position.peakNetQuote),
    ("captured_funding_quote", .float position.capturedFundingQuote),
    ("second_stage_funding_quote", .float position.secondStageFundingQuote),
    ("long_entry_fee_quote", .float position.longEntryFeeQuote),
    ("short_entry_fee_quote", .float position.shortEntryFeeQuote),
    ("realized_price_pnl_quote", .float position.realizedPricePnlQuote),
    ("realized_exit_fee_quote", .float position.realizedExitFeeQuote),
    ("funding_captured", .stored (.bool position.fundingCaptured)),
    ("second_stage_funding_captured", .stored (.bool position.secondStageFundingCaptured)),
    ("review_id", position.reviewId)]

/-- A snapshot normalises to itself. -/
theorem normalize_to_fields (position : ReplayPosition) :
    normalizePositionSnapshot position.toFields = some position := by
  simp [normalizePositionSnapshot, ReplayPosition.toFields, Fields.get, OrderedDict.lookupEntries,
    FieldValue.toFloat?, FieldValue.toInt?, FieldValue.truthy, DynValue.toInt?, DynValue.truthy]

/-! ## Records -/

/-- A journal record with a mapping as its payload. -/
structure JournalRecord where
  seq : DynValue := .null
  tsMs : DynValue := .null
  kind : String
  payload : List (String × DynValue)

namespace JournalRecord

def get (record : JournalRecord) (name : String) (default : DynValue := .null) : DynValue :=
  (OrderedDict.lookupEntries name record.payload).getD default

/-- `payload[name]`, when the payload has it. -/
def field? (record : JournalRecord) (name : String) : Option DynValue :=
  OrderedDict.lookupEntries name record.payload

def fields (record : JournalRecord) : Fields :=
  record.payload.map (fun entry => (entry.1, .stored entry.2))

end JournalRecord

/-- What the replay does with a kind of record. -/
inductive RecordRole where
  | opened
  | closed
  | partialClosed
  | partialReconciled
  | pendingEntry
  | pendingClose
  | closeReconciliation
  | reclassified
  | lifecycle
  | riskMode
  | scan
  | recovery
  | risk
  | other
deriving DecidableEq

def roleOf (kind : String) : RecordRole :=
  if kind ∈ ["entry.opened", "recovery.live_detected"] then .opened
  else if kind ∈ ["exit.closed", "exit.reconciled", "exit.billing_evidence_unavailable",
      "exit.reconciliation_abandoned", "recovery.external_pair_flat_observed",
      "recovery.flat"] then .closed
  else if kind = "exit.partial_closed" then .partialClosed
  else if kind = "exit.partial_reconciled" then .partialReconciled
  else if kind = "entry.pending_registered" then .pendingEntry
  else if kind = "exit.pending_close_registered" then .pendingClose
  else if kind ∈ ["exit.pending_close_reconciliation_registered",
      "exit.billing_evidence_debt_registered"] then .closeReconciliation
  else if kind = "recovery.external_pair_flat_reclassified" then .reclassified
  else if kind = "runtime.lifecycle_changed" then .lifecycle
  else if kind = "runtime.risk_mode_changed" then .riskMode
  else if kind = "scan.completed" then .scan
  else if TextSearch.startsWith "recovery." kind then .recovery
  else if TextSearch.startsWith "risk." kind then .risk
  else .other

/-- Kinds the timeline shows. -/
def timelineInteresting : List String :=
  ["entry.opened", "entry.pending_registered",
    "exit.closed", "exit.partial_closed", "exit.partial_reconciled", "exit.reconciled",
    "exit.billing_evidence_unavailable", "exit.billing_evidence_debt_registered",
    "exit.billing_evidence_imported", "exit.billing_evidence_pending",
    "exit.reconciliation_abandoned", "exit.pending_close_registered",
    "exit.pending_close_reconciliation_registered",
    "recovery.live_detected", "recovery.external_pair_flat_observed",
    "recovery.external_pair_flat_reclassified", "recovery.flat", "recovery.blocked",
    "recovery.mismatch_detected", "recovery.mismatch_flattened", "recovery.resumed",
    "runtime.lifecycle_changed", "runtime.risk_mode_changed",
    "risk.warning_triggered", "risk.death_triggered", "risk.single_side_protection_triggered",
    "risk.single_side_protection_failed", "risk.single_side_protection_unavailable",
    "scan.completed", "scan.no_entry_diagnostics", "scan.runtime_gate_blocked",
    "review.assigned"]

/-! ## The replayed state -/

/-- What a replay hands on: positions, their ids, lifecycle and risk mode. -/
structure ReplayCore where
  positions : OrderedDict DictKey ReplayPosition := .empty
  openIds : List DictKey := []
  lifecycle : String := "booting"
  riskMode : String := "running"

structure ScanStats where
  candidateCount : Int
  blockedCount : Int
  acceptedCount : Int
  blockedReasons : DynValue
  noEntryReason : DynValue

/-- Pending work, statistics and events. -/
structure ReplayWork where
  pendingEntryIds : List DictKey := []
  pendingCloseIds : List DictKey := []
  pendingCloseReconciliationIds : List String := []
  /-- The position of each pending close. -/
  closeToPosition : OrderedDict DictKey DynValue := .empty
  scanStats : Option ScanStats := none
  recoveryEvents : List JournalRecord := []
  riskEvents : List JournalRecord := []
  timeline : List JournalRecord := []

structure ReplayState where
  core : ReplayCore := {}
  work : ReplayWork := {}

namespace ReplayCore

def put (core : ReplayCore) (key : DictKey) (position : ReplayPosition) : ReplayCore :=
  { core with positions := core.positions.insert key position, openIds := setAdd key core.openIds }

def drop (core : ReplayCore) (key : DictKey) : ReplayCore :=
  { core with positions := core.positions.erase key, openIds := setDiscard key core.openIds }

end ReplayCore

namespace ReplayWork

/-- Forget the pending closes of a position. -/
def dropCloses (work : ReplayWork) (pid : DictKey) : ReplayWork :=
  let staleCloses := (work.closeToPosition.entries.filter
    (fun entry => decide (dictKey entry.2 = some pid))).map Prod.fst
  staleCloses.foldl (fun current cid =>
    { current with
      pendingCloseIds := setDiscard cid current.pendingCloseIds
      closeToPosition := current.closeToPosition.erase cid }) work

def discardReconciliation (work : ReplayWork) (pid : DictKey) : ReplayWork :=
  match pid with
  | .text id => { work with
      pendingCloseReconciliationIds := setDiscard id work.pendingCloseReconciliationIds }
  | _ => work

end ReplayWork

namespace ReplayState

variable (state : ReplayState) (record : JournalRecord)

def opened : Option ReplayState := do
  let pid := record.get "position_id" (.str "")
  let seen := if record.kind = "recovery.live_detected" then
    { state.work with recoveryEvents := state.work.recoveryEvents ++ [record] } else state.work
  if pid.truthy then
    let position ← normalizePositionSnapshot record.fields
    let key ← dictKey pid
    return {
      core := state.core.put key position
      work := { seen with pendingEntryIds := setDiscard key seen.pendingEntryIds } }
  else return { state with work := seen }

def closed : Option ReplayState := do
  let pid := record.get "position_id" (.str "")
  let key ← dictKey pid
  let discarded := { state.work with
    pendingCloseIds := setDiscard key state.work.pendingCloseIds }
  let keepsReconciliation :=
    (record.kind = "recovery.flat" ∨ record.kind = "exit.reconciliation_abandoned") ∧
      ((record.kind = "recovery.flat" ∧
          (record.get "billing_reconciliation_pending").isTrue = true) ∨
        pid.text ∈ state.work.pendingCloseReconciliationIds)
  let settled := if keepsReconciliation then discarded else discarded.discardReconciliation key
  return {
    core := if pid.truthy ∧ state.core.positions.contains key then state.core.drop key
      else state.core
    work := settled.dropCloses key }

/-- A position after a partial close: the fields the payload has. -/
def patchPartialClose (position : ReplayPosition) : Option ReplayPosition := do
  let number (name : String) (old : ExactFloat) : Option ExactFloat :=
    match record.field? name with
    | some value => value.toFloat?
    | none => some old
  let flag (name : String) (old : Bool) := ((record.field? name).map DynValue.truthy).getD old
  return { position with
    quantity := ← number "quantity" position.quantity
    currentNetQuote := ← number "current_net_quote" position.currentNetQuote
    peakNetQuote := ← number "peak_net_quote" position.peakNetQuote
    fundingCaptured := flag "funding_captured" position.fundingCaptured
    secondStageFundingCaptured :=
      flag "second_stage_funding_captured" position.secondStageFundingCaptured }

/-- A position after a reconciled partial close; a field that does not parse
stays. -/
def patchPartialReconciled (position : ReplayPosition) : ReplayPosition :=
  let number (name : String) (old : ExactFloat) : ExactFloat :=
    ((record.field? name).bind DynValue.toFloat?).getD old
  { position with
    realizedPricePnlQuote :=
      number "reconciled_realized_price_pnl_quote" position.realizedPricePnlQuote
    realizedExitFeeQuote :=
      number "reconciled_realized_exit_fee_quote" position.realizedExitFeeQuote }

/-- Change the position a record names, if it is open. -/
def patch (change : ReplayPosition → Option ReplayPosition) : Option ReplayState := do
  let pid := record.get "position_id" (.str "")
  if pid.truthy then
    let key ← dictKey pid
    match state.core.positions.find? key with
    | some position =>
      let changed ← change position
      return { state with core := { state.core with
        positions := state.core.positions.insert key changed } }
    | none => return state
  else return state

def pendingRegistered : Option ReplayState := do
  let pid := record.get "pending_id" (.str "")
  if pid.truthy then
    let key ← dictKey pid
    return { state with work := { state.work with
      pendingEntryIds := setAdd key state.work.pendingEntryIds } }
  else return state

def pendingCloseRegistered : Option ReplayState := do
  let cid := record.get "close_id" (.str "")
  let pid := record.get "position_id" (.str "")
  if cid.truthy then
    let key ← dictKey cid
    return { state with work := { state.work with
      pendingCloseIds := setAdd key state.work.pendingCloseIds
      closeToPosition := if pid.truthy then state.work.closeToPosition.insert key pid
        else state.work.closeToPosition } }
  else return state

def closeReconciliationRegistered : ReplayState :=
  let reconciliation := record.get "reconciliation"
  let pid := if reconciliation.isMapping then reconciliation.get "position_id"
    else record.get "position_id" (.str "")
  if pid.truthy then
    let id := pid.text
    let registered := { state.work with
      pendingCloseReconciliationIds := setAdd id state.work.pendingCloseReconciliationIds
      pendingCloseIds := setDiscard (.text id) state.work.pendingCloseIds }
    { core := state.core.drop (.text id), work := registered.dropCloses (.text id) }
  else state

def reclassified : ReplayState :=
  let pid := ((record.get "position_id").orElse (.str "")).text
  if pid = "" then state else { state with work := state.work.discardReconciliation (.text pid) }

def scanCompleted : Option ReplayState := do
  let stats : ScanStats := {
    candidateCount := ← (record.get "candidate_count" (.int 0)).toInt?
    blockedCount := ← (record.get "blocked_count" (.int 0)).toInt?
    acceptedCount := ← (record.get "accepted_count" (.int 0)).toInt?
    blockedReasons := record.get "blocked_reasons" (.dict [])
    noEntryReason := record.get "no_entry_reason" (.str "") }
  return { state with work := { state.work with scanStats := some stats } }

/-- Show the record in the timeline, if its kind is shown. -/
def noteTimeline : ReplayState :=
  if record.kind ∈ timelineInteresting then
    { state with work := { state.work with timeline := state.work.timeline ++ [record] } }
  else state

/-- One record. -/
def replay : Option ReplayState :=
  let state := state.noteTimeline record
  match roleOf record.kind with
  | .opened => state.opened record
  | .closed => state.closed record
  | .partialClosed => state.patch record (patchPartialClose record)
  | .partialReconciled =>
    state.patch record (fun position => some (patchPartialReconciled record position))
  | .pendingEntry => state.pendingRegistered record
  | .pendingClose => state.pendingCloseRegistered record
  | .closeReconciliation => some (state.closeReconciliationRegistered record)
  | .reclassified => some (state.reclassified record)
  | .lifecycle =>
    let target := record.get "to"
    some (if target.truthy then { state with core := { state.core with lifecycle := target.text } }
      else state)
  | .riskMode =>
    let target := record.get "to"
    some (if target.truthy then { state with core := { state.core with riskMode := target.text } }
      else state)
  | .scan => state.scanCompleted record
  | .recovery => some { state with work := { state.work with
      recoveryEvents := state.work.recoveryEvents ++ [record] } }
  | .risk => some { state with work := { state.work with
      riskEvents := state.work.riskEvents ++ [record] } }
  | .other => some state

end ReplayState

/-! ## A replay -/

/-- The state another replay ended in; a position that is no mapping is skipped. -/
structure SeedState where
  lifecycle : Option String := none
  riskMode : Option String := none
  openPositions : List (DictKey × Option Fields) := []

def seedPosition (core : ReplayCore) (entry : DictKey × Option Fields) : Option ReplayCore :=
  match entry.2 with
  | some pdata => (normalizePositionSnapshot pdata).map (core.put entry.1)
  | none => some core

def seededState (seed : Option SeedState) : Option ReplayState := do
  match seed with
  | none => return {}
  | some seed =>
    let core : ReplayCore := {
      lifecycle := seed.lifecycle.getD "booting"
      riskMode := seed.riskMode.getD "running" }
    return { core := ← seed.openPositions.foldlM seedPosition core }

structure ReplayResult where
  openPositionCount : Nat
  openPositionIds : List DictKey
  pendingEntryCount : Nat
  pendingCloseCount : Nat
  pendingCloseReconciliationCount : Nat
  pendingCloseReconciliationIds : List String
  finalLifecycle : String
  finalRiskMode : String
  positions : OrderedDict DictKey ReplayPosition
  scanStats : Option ScanStats
  recoveryEvents : List JournalRecord
  riskEvents : List JournalRecord
  timeline : List JournalRecord

def ReplayState.result (state : ReplayState) : Option ReplayResult := do
  return {
    openPositionCount := state.core.openIds.length
    openPositionIds := ← DictKey.sorted state.core.openIds
    pendingEntryCount := state.work.pendingEntryIds.length
    pendingCloseCount := state.work.pendingCloseIds.length
    pendingCloseReconciliationCount := state.work.pendingCloseReconciliationIds.length
    pendingCloseReconciliationIds :=
      state.work.pendingCloseReconciliationIds.mergeSort (fun left right => !(decide (right < left)))
    finalLifecycle := state.core.lifecycle
    finalRiskMode := state.core.riskMode
    positions := state.core.positions
    scanStats := state.work.scanStats
    recoveryEvents := state.work.recoveryEvents
    riskEvents := state.work.riskEvents
    timeline := state.work.timeline }

def replayJournalRecords (records : List JournalRecord) (seed : Option SeedState) :
    Option ReplayResult := do
  let start ← seededState seed
  let final ← records.foldlM ReplayState.replay start
  final.result

end LightFee.Persistence
