import LightFee.Engine.EvidenceImport
import LightFee.Engine.HistoryRepair
import LightFee.Engine.OrderTruth
import Mathlib.Tactic.NormNum

/-!
# Evidence for a close from the history of its venues

A final debt is resolved leg by leg once both venues are flat. The stored identities of a leg are
looked up exactly; what they prove of it is kept, and the rest has to be one candidate of the
venue's history that an exact lookup confirms. A leg that is not proven blocks the whole debt.
-/

namespace LightFee.Engine

open DynValue
open LightFee.Venues

/-! ## Fills and adapters -/

/-- An execution that an adapter answers as evidence. -/
structure CloseEvidenceFill extends AcceptedReconciliation where
  venue : Venue
  side : Side
  feeQuote : Option ExactFloat := none

/-- `_close_reconciliation_fill_qty`. -/
def closeReconciliationFillQty (fill : CloseEvidenceFill) : ℚ := fill.quantity.toRat

/-- `_close_reconciliation_leg_identity`. -/
def closeReconciliationLegIdentity (leg : DynValue) : String × String :=
  if leg.isMapping then (textOf (leg.get "order_id"), textOf (leg.get "client_order_id"))
  else ("", "")

def CloseEvidenceFill.identity (fill : CloseEvidenceFill) : String × String :=
  (fill.orderId, fill.clientOrderId.getD "")

def CloseEvidenceFill.provenance (fill : CloseEvidenceFill) : String :=
  textOf (OrderTruth.metadataValue fill.metadata "historical_evidence_provenance")

/-- Arguments of `discover_historical_close_fill_reconciliation`. -/
structure HistoryQuery where
  symbol : String
  side : Side
  positionSide : String
  quantity : ℚ
  closedAtMs : Int

structure HistoricalCloseEvidenceDiscovery where
  classification : String
  candidateCount : Int
  reconciliation : Option CloseEvidenceFill := none

/-- The adapter of a venue as it answers for one leg. Lookups are numbered, so that the same order
may be answered in another way later; an exception is its text. -/
structure HistoryAdapter where
  fetchOrderFillReconciliation : Option (Nat → (symbol orderId clientOrderId : String) →
    Except String (Option CloseEvidenceFill)) := none
  discoverHistoricalCloseFillReconciliation : Option (HistoryQuery →
    Except String HistoricalCloseEvidenceDiscovery) := none

/-! ## Exact lookups -/

/-- `float(leg.get("quantity"))`, of which only an overflow is not caught. -/
def storedLegQuantity (leg : DynValue) : Except String (Option ExactFloat) :=
  match leg.get "quantity" with
  | .int value =>
    if value.natAbs < floatOverflow then .ok (some (.finite value))
    else .error "OverflowError: int too large to convert to float"
  | value => .ok value.toFloat?

/-- Looks up each stored identity once. -/
def fetchLegs (fetch : Nat → (orderId clientOrderId : String) →
    Except String (Option CloseEvidenceFill)) :
    Nat → List (String × String) → List DynValue →
    Except String (Option (List CloseEvidenceFill))
  | _, _, [] => .ok (some [])
  | lookup, seen, leg :: legs =>
    let identity := closeReconciliationLegIdentity leg
    if identity = ("", "") then .ok none
    else if seen.contains identity then fetchLegs fetch lookup seen legs
    else
      match fetch lookup identity.1 identity.2 with
      | .ok (some fill) =>
        (fetchLegs fetch (lookup + 1) (identity :: seen) legs).map (Option.map (fill :: ·))
      | _ =>
        -- A leg that was stored without a fill is skipped; any other is evidence that is missing.
        match storedLegQuantity leg with
        | .error error => .error error
        | .ok stored =>
          if stored.any (fun quantity => quantity.le fillDust) then
            fetchLegs fetch (lookup + 1) (identity :: seen) legs
          else .ok none

/-- `_fetch_close_leg_reconciliations`. -/
def fetchCloseLegReconciliations (adapter : Option HistoryAdapter) (symbol : String)
    (legs : DynValue) : Except String (Option (List CloseEvidenceFill)) :=
  match legs with
  | .list legs =>
    match adapter.bind HistoryAdapter.fetchOrderFillReconciliation with
    | none => .ok none
    | some fetch => fetchLegs (fun lookup => fetch lookup symbol) 0 [] legs
  | _ => .ok (some [])

/-! ## Complete evidence -/

/-- What `_close_leg_evidence_complete` asks of one fill. -/
def fillComplete (venue : Venue) (side : Side) (requireHistoricalProvenance : Bool)
    (fill : CloseEvidenceFill) : Bool :=
  decide (fill.venue = venue) && decide (fill.side = side) &&
    decide (1 / 10 ^ 12 < closeReconciliationFillQty fill) &&
    fill.averagePrice.isFinite && (ExactFloat.finite 0).lt fill.averagePrice &&
    fill.feeQuote.any (fun fee => fee.isFinite && (ExactFloat.finite 0).le fee) &&
    (OrderTruth.metadataValue fill.metadata "fee_evidence_complete").isTrue &&
    decide (fill.identity ≠ ("", "")) &&
    (!requireHistoricalProvenance || decide (fill.provenance ≠ ""))

def evidencedQuantity (fills : List CloseEvidenceFill) : ℚ :=
  (fills.map closeReconciliationFillQty).sum

/-- `_close_leg_evidence_complete`. -/
def closeLegEvidenceComplete (fills : List CloseEvidenceFill) (venue : Venue) (side : Side)
    (expectedQuantity : ℚ) (requireHistoricalProvenance : Bool) : Bool :=
  !fills.isEmpty && fills.all (fillComplete venue side requireHistoricalProvenance) &&
    closeQuantities (evidencedQuantity fills) expectedQuantity

/-! ## One leg -/

/-- Why a debt is not resolved; what cannot be retried ends the automatic lookup. -/
structure EvidenceBlock where
  classification : String
  candidateCount : Option Int := none
  leg : String := ""
  error : String := ""
  retryable : Bool := true

/-- What a discovered leg is recorded with. -/
structure HistoricalResolution where
  classification : String
  candidateCount : Int
  provenance : String
  orderId : String
  clientOrderId : String
  knownQuantity : ℚ
  complementQuantity : ℚ
  knownOrderIds : List String
  replacedIncompleteKnownIdentity : Bool

/-- The call of the lookup, and what the venues answer to it. -/
structure HistoryEvidenceCall where
  nowMs : Int
  symbol : String
  longVenue : Venue
  shortVenue : Venue
  terminalSizes : Option (ActiveMakerLeg → ExactFloat)
  openOrdersFlat : ActiveMakerLeg → Option Bool × Option String
  adapters : ActiveMakerLeg → Option HistoryAdapter

namespace HistoryEvidenceCall

variable (call : HistoryEvidenceCall)

def venueOn : ActiveMakerLeg → Venue
  | .long => call.longVenue
  | .short => call.shortVenue

/-- Complete evidence for a quantity of the leg. -/
def proves (leg : ActiveMakerLeg) (fills : List CloseEvidenceFill) (quantity : ℚ)
    (requireHistoricalProvenance : Bool := false) : Bool :=
  closeLegEvidenceComplete fills (call.venueOn leg) (closeSide leg) quantity
    requireHistoricalProvenance

def positionSide : ActiveMakerLeg → String
  | .long => "LONG"
  | .short => "SHORT"

/-- The exact fills prove a proper part of the leg. -/
def provesPart (leg : ActiveMakerLeg) (expected : ℚ) (fills : List CloseEvidenceFill) : Bool :=
  decide (1 / 10 ^ 12 < evidencedQuantity fills ∧ evidencedQuantity fills < expected - 1 / 10 ^ 12) &&
    call.proves leg fills (evidencedQuantity fills)

/-- `sorted` texts of a set, without the empty one. -/
def sortedTexts (texts : List String) : List String :=
  ((texts.filter (fun text => text ≠ "")).dedup).mergeSort

/-- The one candidate of the history that completes the known fills. -/
def discoverComplement (closedAtMs : Int) (leg : ActiveMakerLeg) (expected : ℚ)
    (knownFills : List CloseEvidenceFill) (replacedIncompleteKnownIdentity : Bool) :
    Except EvidenceBlock (List CloseEvidenceFill × HistoricalResolution) :=
  match (call.adapters leg).bind HistoryAdapter.discoverHistoricalCloseFillReconciliation with
  | none => .error
      { classification := "history_discovery_unsupported", leg := leg.label, retryable := false }
  | some discover =>
    let knownQuantity := evidencedQuantity knownFills
    let missingQuantity := expected - knownQuantity
    let query : HistoryQuery :=
      { symbol := call.symbol, side := closeSide leg, positionSide := positionSide leg,
        quantity := missingQuantity, closedAtMs := closedAtMs }
    match discover query with
    | .error error => .error
        { classification := "history_query_error", leg := leg.label, error := error }
    | .ok discovery =>
      let candidateCount := discovery.candidateCount
      let blocked (classification : String) (candidateCount : Int) : EvidenceBlock :=
        { classification := classification, candidateCount := some candidateCount,
          leg := leg.label, retryable := false }
      match discovery.reconciliation with
      | none => .error (blocked discovery.classification candidateCount)
      | some fill =>
        let knownOrderIds := knownFills.map (fun known => known.orderId)
        let mergedFills := knownFills ++ [fill]
        if candidateCount ≠ 1 then .error (blocked discovery.classification candidateCount)
        else if fill.orderId ≠ "" ∧ knownOrderIds.contains fill.orderId = true then
          .error (blocked "complement_identity_overlap" candidateCount)
        else if call.proves leg [fill] missingQuantity true = false then
          .error (blocked "unique_candidate_exact_recheck_incomplete" 1)
        else if call.proves leg mergedFills expected = false then
          .error (blocked "merged_complement_evidence_incomplete" candidateCount)
        else .ok (mergedFills,
          { classification := discovery.classification
            candidateCount := candidateCount
            provenance := fill.provenance
            orderId := fill.identity.1
            clientOrderId := fill.identity.2
            knownQuantity := knownQuantity
            complementQuantity := missingQuantity
            knownOrderIds := sortedTexts knownOrderIds
            replacedIncompleteKnownIdentity := replacedIncompleteKnownIdentity })

/-- Fills of the stored identities of a leg. -/
def exactFills (reconciliation : DynValue) (leg : ActiveMakerLeg) :
    Except String (Option (List CloseEvidenceFill)) :=
  fetchCloseLegReconciliations (call.adapters leg) call.symbol
    (reconciliation.get (leg.label ++ "_legs"))

/-- One turn of the loop over the legs. -/
def resolveLeg (reconciliation : DynValue) (closedAtMs : Int) (leg : ActiveMakerLeg)
    (expected : ℚ) :
    Except EvidenceBlock (List CloseEvidenceFill × Option HistoricalResolution) :=
  if expected ≤ 1 / 10 ^ 12 then .ok ([], none)
  else if (pendingCloseReconciliationMissingLegs reconciliation).contains leg.label then
    (call.discoverComplement closedAtMs leg expected [] false).map (Prod.map id some)
  else
    match call.exactFills reconciliation leg with
    | .error error => .error
        { classification := "known_leg_exact_query_error", leg := leg.label, error := error }
    | .ok answered =>
      let fills := answered.getD []
      if call.proves leg fills expected then .ok (fills, none)
      else
        let knownFills := if call.provesPart leg expected fills then fills else []
        (call.discoverComplement closedAtMs leg expected knownFills true).map (Prod.map id some)

/-! ## The whole debt -/

/-- What the lookup returns. -/
structure HistoryEvidence where
  long : List CloseEvidenceFill
  short : List CloseEvidenceFill
  resolution : List (ActiveMakerLeg × HistoricalResolution)

def HistoryEvidence.fills (evidence : HistoryEvidence) : ActiveMakerLeg → List CloseEvidenceFill
  | .long => evidence.long
  | .short => evidence.short

/-- `_fetch_pending_close_terminal_live_flat_truth`. -/
def terminalLiveFlatTruth : Option (ActiveMakerLeg → ExactFloat) × Option String :=
  match call.terminalSizes with
  | none => (none, none)
  | some sizes =>
    let long := call.openOrdersFlat .long
    let short := call.openOrdersFlat .short
    if long.1 ≠ some true ∨ short.1 ≠ some true then
      (some sizes,
        some ((if long.1 ≠ some true then long.2 else short.2).getD "open_orders_flat"))
    else (some sizes, none)

/-- The first gate of the debt that is not passed. -/
def gateBlock (reconciliation : DynValue) : Option EvidenceBlock :=
  let (terminalSizes, openOrderEvidence) := call.terminalLiveFlatTruth
  if reconciliationKind reconciliation ≠ "final" then
    some { classification := "unsupported_partial_evidence_debt", retryable := false }
  else if automaticEvidenceDebtReasons.contains (historyDebtReason reconciliation) = false then
    some { classification := "unsupported_evidence_debt_reason", retryable := false }
  else
    match terminalSizes with
    | none => some { classification := "terminal_position_truth_unavailable" }
    | some sizes =>
      if (ExactFloat.finite (1 / 10 ^ 9)).lt (sizes .long).abs = true ∨
          (ExactFloat.finite (1 / 10 ^ 9)).lt (sizes .short).abs = true then
        some { classification := "terminal_position_not_flat" }
      else
        match openOrderEvidence with
        | some evidence =>
          some { classification := "terminal_open_order_truth_not_flat", error := evidence }
        | none =>
          if (reconciliation.get "position_snapshot").isMapping = false then
            some { classification := "missing_position_snapshot", retryable := false }
          else none

/-- A debt of an old snapshot: only its stored identities are looked up. -/
def resolveLegacyLeg (reconciliation : DynValue) (leg : ActiveMakerLeg) :
    Except EvidenceBlock (List CloseEvidenceFill) :=
  match call.exactFills reconciliation leg with
  | .error error => .error
      { classification := "known_leg_exact_query_error", leg := leg.label, error := error }
  | .ok none => .error
      { classification := "known_leg_exact_query_unavailable", leg := leg.label }
  | .ok (some fills) => .ok fills

def resolveLegacy (reconciliation : DynValue) : Except EvidenceBlock HistoryEvidence :=
  if pendingCloseReconciliationMissingLegs reconciliation ≠ [] then
    .error { classification := "missing_expected_close_quantities", retryable := false }
  else do
    let long ← call.resolveLegacyLeg reconciliation .long
    let short ← call.resolveLegacyLeg reconciliation .short
    return { long := long, short := short, resolution := [] }

def resolveLegs (reconciliation : DynValue) (owned : ActiveMakerLeg → ExactFloat) :
    Except EvidenceBlock HistoryEvidence :=
  let closedAtMs := reconciliationInt (reconciliation.get "closed_at_ms")
  if closedAtMs ≤ 0 then .error { classification := "missing_closed_at_ms", retryable := false }
  else do
    let long ← call.resolveLeg reconciliation closedAtMs .long (owned .long).toRat
    let short ← call.resolveLeg reconciliation closedAtMs .short (owned .short).toRat
    return {
      long := long.1
      short := short.1
      resolution := (long.2.map (ActiveMakerLeg.long, ·)).toList ++
        (short.2.map (ActiveMakerLeg.short, ·)).toList }

def resolveDebt (reconciliation : DynValue) : Except EvidenceBlock HistoryEvidence :=
  match call.gateBlock reconciliation with
  | some block => .error block
  | none =>
    match ownedCloseQuantities reconciliation with
    | none => call.resolveLegacy reconciliation
    | some owned => call.resolveLegs reconciliation owned

/-- `_record_automatic_history_evidence_block`, and the end of the lookup that follows a block
that cannot be retried. -/
def recordBlock (reconciliation : DynValue) (block : EvidenceBlock) : DynValue :=
  let recorded := (reconciliation.set "automatic_history_last_classification"
    (.str block.classification)).set "automatic_history_last_attempt_ms" (.int call.nowMs)
  if block.retryable then recorded
  else markAutomaticHistoryEvidenceIrrecoverable recorded block.classification call.nowMs

/-- `_fetch_automatic_historical_close_evidence`. -/
def fetchAutomaticHistoricalCloseEvidence (reconciliation : DynValue) :
    DynValue × Option HistoryEvidence :=
  match call.resolveDebt reconciliation with
  | .error block => (call.recordBlock reconciliation block, none)
  | .ok evidence => (reconciliation, some evidence)

/-! ## What returned evidence proves -/

/-- No exchange order is there twice; a fill without an order id names none. -/
def DistinctOrders (fills : List CloseEvidenceFill) : Prop :=
  fills.Pairwise (fun earlier later => earlier.orderId ≠ "" → earlier.orderId ≠ later.orderId)

/-- An execution of the closing side with its price and all its fees. -/
structure FillEvidenced (venue : Venue) (side : Side) (fill : CloseEvidenceFill) : Prop where
  on_venue : fill.venue = venue
  on_side : fill.side = side
  quantity : ∃ quantity, fill.quantity = .finite quantity ∧ 0 < quantity
  price : ∃ price, fill.averagePrice = .finite price ∧ 0 < price
  fee : ∃ fee, fill.feeQuote = some (.finite fee) ∧ 0 ≤ fee
  fees_complete :
    (OrderTruth.metadataValue fill.metadata "fee_evidence_complete").isTrue = true

/-- What the fills of a leg have to be for its expected quantity. -/
structure LegEvidenced (venue : Venue) (side : Side) (expected : ℚ)
    (fills : List CloseEvidenceFill) : Prop where
  nothing_expected : expected ≤ 1 / 10 ^ 12 → fills = []
  each : 1 / 10 ^ 12 < expected → ∀ fill ∈ fills, FillEvidenced venue side fill
  distinct : 1 / 10 ^ 12 < expected → DistinctOrders fills
  total : 1 / 10 ^ 12 < expected → |evidencedQuantity fills - expected| ≤
    max (1 / 10 ^ 9 * max |evidencedQuantity fills| |expected|) (1 / 10 ^ 12)

/-- Fills of the stored identities that the leg is resolved with: they prove it, or a part. -/
def usableExactFills (reconciliation : DynValue) (leg : ActiveMakerLeg) (expected : ℚ) :
    List CloseEvidenceFill :=
  if (pendingCloseReconciliationMissingLegs reconciliation).contains leg.label then []
  else
    match call.exactFills reconciliation leg with
    | .ok answered =>
      let fills := answered.getD []
      if call.proves leg fills expected || call.provesPart leg expected fills then fills else []
    | .error _ => []

theorem fill_evidenced {venue : Venue} {side : Side} {requireHistoricalProvenance : Bool}
    {fill : CloseEvidenceFill}
    (complete : fillComplete venue side requireHistoricalProvenance fill = true) :
    FillEvidenced venue side fill := by
  simp only [fillComplete, Bool.and_eq_true, decide_eq_true_eq] at complete
  obtain ⟨⟨⟨⟨⟨⟨⟨⟨on_venue, on_side⟩, quantity⟩, finitePrice⟩, positivePrice⟩, fee⟩, flag⟩, -⟩, -⟩ :=
    complete
  refine ⟨on_venue, on_side, ?_, ?_, ?_, flag⟩
  · rw [closeReconciliationFillQty] at quantity
    cases found : fill.quantity with
    | finite exact =>
      rw [found, ExactFloat.toRat_finite] at quantity
      exact ⟨exact, rfl, lt_trans (by norm_num) quantity⟩
    | infinite negative =>
      rw [found] at quantity
      norm_num [ExactFloat.toRat] at quantity
    | notANumber =>
      rw [found] at quantity
      norm_num [ExactFloat.toRat] at quantity
  · obtain ⟨price, found⟩ := ExactFloat.finite_of_isFinite finitePrice
    rw [found, ExactFloat.lt_finite, decide_eq_true_eq] at positivePrice
    exact ⟨price, found, positivePrice⟩
  · obtain ⟨quote, found, proper⟩ := (Option.any_eq_true _ _).mp fee
    rw [Bool.and_eq_true] at proper
    obtain ⟨exact, rfl⟩ := ExactFloat.finite_of_isFinite proper.1
    exact ⟨exact, found, of_decide_eq_true proper.2⟩

theorem proves_evidenced {leg : ActiveMakerLeg} {fills : List CloseEvidenceFill} {quantity : ℚ}
    {requireHistoricalProvenance : Bool}
    (proven : call.proves leg fills quantity requireHistoricalProvenance = true) :
    (∀ fill ∈ fills, FillEvidenced (call.venueOn leg) (closeSide leg) fill) ∧
      closeQuantities (evidencedQuantity fills) quantity = true := by
  rw [proves, closeLegEvidenceComplete, Bool.and_eq_true, Bool.and_eq_true, List.all_eq_true]
    at proven
  exact ⟨fun fill listed => fill_evidenced (proven.1.2 fill listed), proven.2⟩

/-- A complement completes the leg and is none of the known orders. -/
theorem complement_found {closedAtMs : Int} {leg : ActiveMakerLeg} {expected : ℚ}
    {knownFills fills : List CloseEvidenceFill} {replaced : Bool}
    {resolution : HistoricalResolution}
    (found : call.discoverComplement closedAtMs leg expected knownFills replaced =
      .ok (fills, resolution)) :
    call.proves leg fills expected = true ∧
      (DistinctOrders fills ↔ DistinctOrders knownFills) := by
  unfold discoverComplement at found
  split at found
  · cases found
  · next discover =>
    dsimp only at found
    split at found
    · cases found
    · next discovery =>
      split at found
      · cases found
      · next fill _ =>
        split_ifs at found with many overlap incomplete unmerged
        rw [Bool.not_eq_false] at unmerged
        have merged := (Prod.mk.inj (Except.ok.inj found)).1
        subst merged
        refine ⟨unmerged, ?_⟩
        rw [DistinctOrders, List.pairwise_append]
        constructor
        · exact fun distinct => distinct.1
        · refine fun distinct => ⟨distinct, List.pairwise_singleton _ _, ?_⟩
          intro known listed last isLast named same
          rw [List.mem_singleton.mp isLast] at same
          refine overlap ⟨same ▸ named, ?_⟩
          rw [List.contains_iff_mem, ← same]
          exact List.mem_map_of_mem listed

/-- A resolved leg is proven; an order twice in it is one of its usable exact fills. -/
theorem leg_resolved {reconciliation : DynValue} {closedAtMs : Int} {leg : ActiveMakerLeg}
    {expected : ℚ} {resolved : List CloseEvidenceFill × Option HistoricalResolution}
    (found : call.resolveLeg reconciliation closedAtMs leg expected = .ok resolved)
    (positive : 1 / 10 ^ 12 < expected) :
    call.proves leg resolved.1 expected = true ∧
      (DistinctOrders resolved.1 ↔
        DistinctOrders (call.usableExactFills reconciliation leg expected)) := by
  have mapped {known : List CloseEvidenceFill} {replaced : Bool}
      (complement : (call.discoverComplement closedAtMs leg expected known replaced).map
        (Prod.map id some) = .ok resolved) :
      call.proves leg resolved.1 expected = true ∧
        (DistinctOrders resolved.1 ↔ DistinctOrders known) := by
    cases discovered : call.discoverComplement closedAtMs leg expected known replaced with
    | error block => rw [discovered] at complement; cases complement
    | ok answer =>
      rw [discovered] at complement
      cases complement
      exact call.complement_found discovered
  rw [resolveLeg, if_neg (not_le.mpr positive)] at found
  by_cases missing :
      (pendingCloseReconciliationMissingLegs reconciliation).contains leg.label = true
  · rw [if_pos missing] at found
    rw [usableExactFills, if_pos missing]
    exact mapped found
  · rw [if_neg missing] at found
    rw [usableExactFills, if_neg missing]
    cases answered : call.exactFills reconciliation leg with
    | error error => rw [answered] at found; cases found
    | ok answer =>
      rw [answered] at found
      dsimp only at found ⊢
      by_cases whole : call.proves leg (answer.getD []) expected = true
      · rw [if_pos whole] at found
        cases found
        rw [whole, Bool.true_or, if_pos rfl]
        exact ⟨rfl, Iff.rfl⟩
      · rw [if_neg whole] at found
        rw [Bool.eq_false_iff.mpr whole, Bool.false_or]
        exact mapped found

/-- Evidence is returned for a debt of known quantities only when both legs are resolved. -/
theorem legs_resolved {reconciliation : DynValue} {owned : ActiveMakerLeg → ExactFloat}
    (known : ownedCloseQuantities reconciliation = some owned) {evidence : HistoryEvidence}
    (returned : (call.fetchAutomaticHistoricalCloseEvidence reconciliation).2 = some evidence)
    (leg : ActiveMakerLeg) :
    ∃ closedAtMs resolution, call.resolveLeg reconciliation closedAtMs leg (owned leg).toRat =
      .ok (evidence.fills leg, resolution) := by
  have resolved : call.resolveDebt reconciliation = .ok evidence := by
    unfold fetchAutomaticHistoricalCloseEvidence at returned
    split at returned
    · cases returned
    · next answer found => rw [found, Option.some.inj returned]
  unfold resolveDebt at resolved
  split at resolved
  · cases resolved
  · rw [known] at resolved
    dsimp only [resolveLegs] at resolved
    split_ifs at resolved
    cases long : call.resolveLeg reconciliation
        (reconciliationInt (reconciliation.get "closed_at_ms")) .long (owned .long).toRat with
    | error block => rw [long] at resolved; cases resolved
    | ok longLeg =>
      rw [long] at resolved
      cases short : call.resolveLeg reconciliation
          (reconciliationInt (reconciliation.get "closed_at_ms")) .short (owned .short).toRat with
      | error block => rw [short] at resolved; cases resolved
      | ok shortLeg =>
        rw [short] at resolved
        cases resolved
        cases leg with
        | long => exact ⟨_, longLeg.2, long⟩
        | short => exact ⟨_, shortLeg.2, short⟩

/-- Whenever evidence is returned for a debt of known quantities, each leg is proven with no order
twice exactly when no order is twice among the stored identities' own fills that it uses. -/
theorem evidence_counts_once_iff (reconciliation : DynValue) {owned : ActiveMakerLeg → ExactFloat}
    (known : ownedCloseQuantities reconciliation = some owned) {evidence : HistoryEvidence}
    (returned : (call.fetchAutomaticHistoricalCloseEvidence reconciliation).2 = some evidence) :
    (∀ leg, LegEvidenced (call.venueOn leg) (closeSide leg) (owned leg).toRat
        (evidence.fills leg)) ↔
      ∀ leg, 1 / 10 ^ 12 < (owned leg).toRat →
        DistinctOrders (call.usableExactFills reconciliation leg (owned leg).toRat) := by
  refine forall_congr' fun leg => ?_
  obtain ⟨closedAtMs, resolution, resolved⟩ := call.legs_resolved known returned leg
  constructor
  · intro evidenced positive
    exact (call.leg_resolved resolved positive).2.mp (evidenced.distinct positive)
  · intro distinct
    refine ⟨fun nothing => ?_, fun positive => ?_, fun positive => ?_, fun positive => ?_⟩
    · rw [resolveLeg, if_pos nothing] at resolved
      exact (Prod.mk.inj (Except.ok.inj resolved)).1.symm
    · exact (call.proves_evidenced (call.leg_resolved resolved positive).1).1
    · exact (call.leg_resolved resolved positive).2.mpr (distinct positive)
    · exact of_decide_eq_true
        (call.proves_evidenced (call.leg_resolved resolved positive).1).2

/-- A debt on Binance of the quantity 2, with these stored identities. -/
def storedDebt (legs : List DynValue) : DynValue :=
  .dict [("kind", .str "final"),
    ("evidence_debt_reason", .str "known_close_fill_temporarily_unavailable"),
    ("position_snapshot", .dict [("position_id", .str "p")]),
    ("owned_close_quantities", .dict [("long", .int 2), ("short", .int 0)]),
    ("closed_at_ms", .int 1), ("long_legs", .list legs), ("short_legs", .list [])]

/-- A flat account whose adapter answers every lookup with one order of this quantity. -/
def answersOrder (quantity : ℚ) : HistoryEvidenceCall where
  nowMs := 2
  symbol := "BTCUSDT"
  longVenue := .binance
  shortVenue := .bybit
  terminalSizes := some fun _ => .finite 0
  openOrdersFlat := fun _ => (some true, none)
  adapters := fun _ => some {
    fetchOrderFillReconciliation := some fun _ _ _ _ => .ok (some
      { quantity := .finite quantity, averagePrice := .finite 100, orderId := "7",
        clientOrderId := some "c", metadata := [("fee_evidence_complete", .bool true)],
        venue := .binance, side := .sell, feeQuote := some (.finite 0) }) }

/-- One stored identity whose order has the whole quantity. -/
theorem evidence_counts_once_single :
    ∃ owned evidence,
      ownedCloseQuantities (storedDebt [.dict [("order_id", .str "7")]]) = some owned ∧
      ((answersOrder 2).fetchAutomaticHistoricalCloseEvidence
        (storedDebt [.dict [("order_id", .str "7")]])).2 = some evidence ∧
      ((∀ leg, LegEvidenced ((answersOrder 2).venueOn leg) (closeSide leg) (owned leg).toRat
          (evidence.fills leg)) ↔
        ∀ leg, 1 / 10 ^ 12 < (owned leg).toRat →
          DistinctOrders ((answersOrder 2).usableExactFills
            (storedDebt [.dict [("order_id", .str "7")]]) leg (owned leg).toRat)) := by
  have known : (ownedCloseQuantities (storedDebt [.dict [("order_id", .str "7")]])).isSome =
      true := by decide +kernel
  have returned : ((answersOrder 2).fetchAutomaticHistoricalCloseEvidence
      (storedDebt [.dict [("order_id", .str "7")]])).2.isSome = true := by decide +kernel
  exact ⟨_, _, (Option.some_get known).symm, (Option.some_get returned).symm,
    evidence_counts_once_iff (answersOrder 2) _ (Option.some_get known).symm
      (Option.some_get returned).symm⟩

/-- One order is stored by its order id and again by its client id. -/
def twiceNamedDebt : DynValue :=
  storedDebt [.dict [("order_id", .str "7")], .dict [("client_order_id", .str "c")]]

/-- Both lookups find the one order of quantity 1, and it makes up for 2. -/
theorem order_counted_twice :
    ∃ owned evidence,
      ownedCloseQuantities twiceNamedDebt = some owned ∧
      ((answersOrder 1).fetchAutomaticHistoricalCloseEvidence twiceNamedDebt).2 = some evidence ∧
      1 / 10 ^ 12 < (owned .long).toRat ∧
      ¬ DistinctOrders (evidence.fills .long) := by
  have known : (ownedCloseQuantities twiceNamedDebt).any (fun owned =>
      decide (1 / 10 ^ 12 < (owned .long).toRat)) = true := by decide +kernel
  have returned : ((answersOrder 1).fetchAutomaticHistoricalCloseEvidence twiceNamedDebt).2.map
      (fun evidence => evidence.long.map (fun fill => fill.orderId)) = some ["7", "7"] := by
    decide +kernel
  obtain ⟨owned, isOwned, positive⟩ := (Option.any_eq_true _ _).mp known
  obtain ⟨evidence, isReturned, orders⟩ := Option.map_eq_some_iff.mp returned
  refine ⟨owned, evidence, isOwned, isReturned, of_decide_eq_true positive, fun distinct => ?_⟩
  have pairs : (evidence.long.map (fun fill => fill.orderId)).Pairwise
      (fun earlier later => earlier ≠ "" → earlier ≠ later) := List.pairwise_map.mpr distinct
  rw [orders, List.pairwise_pair] at pairs
  exact pairs (by decide) rfl

end HistoryEvidenceCall

end LightFee.Engine
