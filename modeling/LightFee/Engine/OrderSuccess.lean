import LightFee.Engine.OrderTruth
import LightFee.Library.KeepFirst
import Mathlib.Tactic.NormNum

/-!
# Deciding about an accepted order

The ledger of order truth ends an order with a fill, ends it without one, or retains it. A fill
needs a confirmed source and a quantity; the end without a fill needs a live position that is flat
and no open order, except where the texts say `live_flat` themselves. There an order that is known
to be open is ended too.
-/

namespace LightFee.Engine.OrderTruth

open LightFee.Venues

inductive OrderTruthFillStatus where
  | confirmedFill
  | truthGap
  | livePositionPresent
  | liveFlat
  | unsupportedFailClosed
deriving DecidableEq

inductive OrderTruthEvidenceStatus where
  | available
  | unavailable
deriving DecidableEq

inductive SuccessDecision where
  | retainFailClosed
  | terminalFill
  | retainOwnedCleanup
  | terminalNoFill
  | retainBackoff
deriving DecidableEq

def SuccessDecision.isTerminal : SuccessDecision → Bool
  | .terminalFill | .terminalNoFill => true
  | _ => false

structure OrderTruthSuccessDecision where
  fillStatus : OrderTruthFillStatus
  evidenceStatus : OrderTruthEvidenceStatus
  decision : SuccessDecision
  venue : Venue
  symbol : String
  targetQty : ExactFloat
  reconciledQty : ExactFloat := .finite 0
  liveQty : ExactFloat
  remainingQty : ExactFloat
  orderId : String
  clientOrderId : String
  averagePrice : ExactFloat := .finite 0
  queriedEndpoints : List String
  missingEvidence : List String := []
  responseClassification : String
  terminalWithoutTruth : Bool := false

/-- The arguments of `resolve_order_success`. -/
structure SuccessCall where
  venue : Venue
  symbol : String
  orderId : String := ""
  clientOrderId : String := ""
  target : ExactFloat := .finite 0
  reconciliation : Option AcceptedReconciliation := none
  metadata : Option (List (String × DynValue)) := none
  livePosition : Option PositionSnapshot := none
  openOrderPresent : Option Bool := none

section Ledger

variable [TextCase]

def classificationIsTerminalNoFillTruth (text : String) : Bool :=
  containsAny (TextCase.lower text)
    ["canceled", "cancelled", "expired", "rejected", "terminal_no_fill"]

/-- What a venue's evidence lacks, each kind once. -/
def missingOrderTruthEvidence (venue : Venue) (text : String) (endpoints : List String) :
    List String :=
  let endpointText := " ".intercalate (endpoints.map TextCase.lower)
  let ofVenue : List String :=
    match venue with
    | .okx =>
      if TextSearch.occursIn "fills" endpointText then [] else ["okx_fills_or_fills_history"]
    | .bybit =>
      if TextSearch.occursIn "execution" endpointText then [] else ["bybit_execution_list"]
    | .binance | .aster => ["executed_qty_positive", "open_order_or_position_truth"]
    | .bitget => ["bitget_fill_truth_with_side_and_family"]
    | .gate => ["gate_order_open_position_truth"]
    | .hyperliquid => ["hyperliquid_configured_account_order_truth"]
  let ofText :=
    (if containsAny text ["fills_empty", "execution_not_found"] then ["positive_exchange_fill"]
      else []) ++
    (if containsAny text ["stale_accepted_order", "new"] then
      ["terminal_order_or_live_position_truth"] else []) ++
    (if containsAny text ["accepted_ack", "ack_without_execution"] then
      ["post_ack_execution_truth"] else [])
  let missing := ofVenue ++ ofText ++ (if endpoints.isEmpty then ["fill_confirmation"] else [])
  KeepFirst.keepFirst id [] (if missing.isEmpty then ["fill_confirmation"] else missing)

namespace SuccessCall

variable (call : SuccessCall)

/-- The metadata of the reconciliation under that of the call. -/
def mergedMetadata : List (String × DynValue) :=
  ((OrderedDict.empty.insertAll ((call.reconciliation.map (fun found => found.metadata)).getD
    [])).insertAll (call.metadata.getD [])).entries

/-- Quantities are read as magnitudes. -/
def reconciledQty : ExactFloat :=
  positiveFloat ((call.reconciliation.map (fun found => found.quantity)).getD (.finite 0))

def targetQty : ExactFloat := (positiveFloat call.target).max (.finite 0)

def liveQty : ExactFloat :=
  positiveFloat ((call.livePosition.map (fun position => position.quantity)).getD (.finite 0))

def endpoints : List String := tupleTexts (metadataValue call.mergedMetadata "queried_endpoints")

def text : String := classificationText call.mergedMetadata

/-- A positive quantity from a source of fills. -/
def confirmed : Bool :=
  call.reconciliation.isSome && flatDust.lt call.reconciledQty &&
    fillTruthSourceIsConfirmed call.venue call.mergedMetadata call.endpoints call.text

/-- The live position is known to be flat. -/
def liveFlatTruth : Bool := call.livePosition.isSome && call.liveQty.le flatDust

def noOpenOrderTruth : Bool := call.openOrderPresent == some false

/-- The evidence of an end without a fill. -/
def saysNoFill : Bool :=
  TextSearch.occursIn "live_flat" call.text ||
    (call.noOpenOrderTruth && TextSearch.occursIn "no_open_order" call.text) ||
    (call.liveFlatTruth && call.noOpenOrderTruth &&
      classificationIsTerminalNoFillTruth call.text)

/-- What every decision reports. -/
def report (fillStatus : OrderTruthFillStatus) (evidenceStatus : OrderTruthEvidenceStatus)
    (decision : SuccessDecision) : OrderTruthSuccessDecision where
  fillStatus := fillStatus
  evidenceStatus := evidenceStatus
  decision := decision
  venue := call.venue
  symbol := call.symbol
  targetQty := call.targetQty
  liveQty := call.liveQty
  remainingQty := call.targetQty
  orderId :=
    let found := (call.reconciliation.map (fun found => found.orderId)).getD ""
    if found = "" then call.orderId else found
  clientOrderId :=
    let found := (call.reconciliation.bind (fun found => found.clientOrderId)).getD ""
    if found = "" then call.clientOrderId else found
  queriedEndpoints := call.endpoints
  responseClassification := metadataText call.mergedMetadata
    ["response_classification", "classification", "raw_exchange_status"]

end SuccessCall

def resolveOrderSuccess (call : SuccessCall) : OrderTruthSuccessDecision :=
  if classificationIsFailClosed call.text then
    { call.report .unsupportedFailClosed .unavailable .retainFailClosed with
      missingEvidence := ["supported_fill_truth"] }
  else if call.confirmed then
    { call.report .confirmedFill .available .terminalFill with
      reconciledQty := call.reconciledQty
      remainingQty := (call.targetQty.sub call.reconciledQty).max (.finite 0)
      averagePrice := positiveFloat
        ((call.reconciliation.map (fun found => found.averagePrice)).getD (.finite 0)) }
  else if flatDust.lt call.liveQty then
    { call.report .livePositionPresent .available .retainOwnedCleanup with
      missingEvidence := ["fill_confirmation"] }
  else if call.saysNoFill then call.report .liveFlat .available .terminalNoFill
  else
    { call.report .truthGap .unavailable .retainBackoff with
      missingEvidence := missingOrderTruthEvidence call.venue call.text call.endpoints }

namespace SuccessCall

variable (call : SuccessCall)

/-! ## What a decision keeps -/

/-- The first guard that applies decides. -/
def decided (failClosed confirmed live noFill : Bool) : SuccessDecision :=
  if failClosed then .retainFailClosed
  else if confirmed then .terminalFill
  else if live then .retainOwnedCleanup
  else if noFill then .terminalNoFill
  else .retainBackoff

theorem decision_eq :
    (resolveOrderSuccess call).decision = decided (classificationIsFailClosed call.text)
      call.confirmed (flatDust.lt call.liveQty) call.saysNoFill := by
  unfold resolveOrderSuccess decided
  split_ifs <;> rfl

/-- The order is not ended while it is known to be open or live. -/
structure KeepsOpenOrder : Prop where
  noFill : (resolveOrderSuccess call).decision = .terminalNoFill →
    call.openOrderPresent ≠ some true ∧ call.liveQty.le flatDust = true
  fill : (resolveOrderSuccess call).decision = .terminalFill →
    ∃ found, call.reconciliation = some found ∧
      (ExactFloat.finite 0).lt (positiveFloat found.quantity) = true
  remaining : (resolveOrderSuccess call).remainingQty =
    if (resolveOrderSuccess call).decision = .terminalFill then
      ((resolveOrderSuccess call).targetQty.sub (resolveOrderSuccess call).reconciledQty).max
        (.finite 0)
    else (resolveOrderSuccess call).targetQty
  opened : (resolveOrderSuccess { call with openOrderPresent := some false }).decision.isTerminal =
      false →
    (resolveOrderSuccess { call with openOrderPresent := some true }).decision.isTerminal = false

/-- The texts end an order although it is open, or beside a live quantity that is no number. -/
def EndsUnchecked : Prop :=
  classificationIsFailClosed call.text = false ∧ call.confirmed = false ∧
    flatDust.lt call.liveQty = false ∧
    (call.openOrderPresent = some true ∧ TextSearch.occursIn "live_flat" call.text = true ∨
      call.liveQty = .notANumber ∧ (TextSearch.occursIn "live_flat" call.text = true ∨
        call.openOrderPresent = some false ∧
          TextSearch.occursIn "no_open_order" call.text = true))

/-- A confirmed fill has a quantity. -/
theorem confirmed_quantity (confirmed : call.confirmed = true) :
    ∃ found, call.reconciliation = some found ∧
      (ExactFloat.finite 0).lt (positiveFloat found.quantity) = true := by
  simp only [SuccessCall.confirmed, Bool.and_eq_true] at confirmed
  obtain ⟨⟨present, large⟩, -⟩ := confirmed
  obtain ⟨found, reconciled⟩ := Option.isSome_iff_exists.mp present
  refine ⟨found, reconciled, ?_⟩
  rw [reconciledQty, reconciled, Option.map_some, Option.getD_some, flatDust] at large
  cases quantity : positiveFloat found.quantity with
  | finite value =>
    rw [quantity, ExactFloat.lt_finite, decide_eq_true_eq] at large
    rw [ExactFloat.lt_finite, decide_eq_true_eq]
    have dust : (0 : ℚ) < 1 / 10 ^ 9 := by
      norm_num
    exact dust.trans large
  | infinite negative =>
    rw [quantity] at large
    exact large
  | notANumber =>
    rw [quantity] at large
    cases large

omit [TextCase] in
/-- A quantity that is neither above nor within the dust is no number. -/
theorem not_a_number_of_unordered {quantity : ExactFloat} (above : flatDust.lt quantity = false)
    (within : quantity.le flatDust = false) : quantity = .notANumber := by
  cases quantity with
  | finite value =>
    rw [flatDust, ExactFloat.lt_finite, decide_eq_false_iff_not, not_lt] at above
    rw [flatDust, ExactFloat.le_finite, decide_eq_false_iff_not] at within
    exact absurd above within
  | infinite negative =>
    cases negative
    · cases above
    · cases within
  | notANumber => rfl

/-- An order that is open has less evidence of an end than one that is not. -/
theorem opened_retains
    (retained : (resolveOrderSuccess { call with openOrderPresent := some false }).decision.isTerminal
      = false) :
    (resolveOrderSuccess { call with openOrderPresent := some true }).decision.isTerminal =
      false := by
  rw [decision_eq] at retained ⊢
  have text : SuccessCall.text { call with openOrderPresent := some true } = call.text := rfl
  have textBefore : SuccessCall.text { call with openOrderPresent := some false } = call.text := rfl
  have less (none : SuccessCall.saysNoFill { call with openOrderPresent := some false } = false) :
      SuccessCall.saysNoFill { call with openOrderPresent := some true } = false := by
    simp only [saysNoFill, textBefore, Bool.or_eq_false_iff] at none
    simp [saysNoFill, noOpenOrderTruth, text, none.1.1]
  change (decided (classificationIsFailClosed call.text) call.confirmed (flatDust.lt call.liveQty)
    (SuccessCall.saysNoFill { call with openOrderPresent := some false })).isTerminal = false
    at retained
  change (decided (classificationIsFailClosed call.text) call.confirmed (flatDust.lt call.liveQty)
    (SuccessCall.saysNoFill { call with openOrderPresent := some true })).isTerminal = false
  cases failClosed : classificationIsFailClosed call.text with
  | true => rfl
  | false =>
    cases confirmed : call.confirmed with
    | true =>
      rw [failClosed, confirmed] at retained
      cases retained
    | false =>
      cases live : flatDust.lt call.liveQty with
      | true => rfl
      | false =>
        cases said : SuccessCall.saysNoFill { call with openOrderPresent := some false } with
        | true =>
          rw [failClosed, confirmed, live, said] at retained
          cases retained
        | false =>
          rw [less said]
          rfl

omit [TextCase] in
/-- Only a confirmed fill ends with a fill. -/
theorem decided_fill {failClosed confirmed live noFill : Bool}
    (fill : decided failClosed confirmed live noFill = .terminalFill) : confirmed = true := by
  revert failClosed confirmed live noFill
  decide

omit [TextCase] in
theorem decided_noFill_iff {failClosed confirmed live noFill : Bool} :
    decided failClosed confirmed live noFill = .terminalNoFill ↔
      failClosed = false ∧ confirmed = false ∧ live = false ∧ noFill = true := by
  revert failClosed confirmed live noFill
  decide

theorem remaining_target :
    (resolveOrderSuccess call).remainingQty =
      if (resolveOrderSuccess call).decision = .terminalFill then
        ((resolveOrderSuccess call).targetQty.sub (resolveOrderSuccess call).reconciledQty).max
          (.finite 0)
      else (resolveOrderSuccess call).targetQty := by
  rw [decision_eq]
  unfold resolveOrderSuccess
  cases classificationIsFailClosed call.text with
  | true => rfl
  | false =>
    cases call.confirmed with
    | true => rfl
    | false =>
      cases flatDust.lt call.liveQty with
      | true => rfl
      | false => cases call.saysNoFill <;> rfl

/-- The evidence of an end without a fill, beyond the unguarded texts, knows that the order is
not open and the live position flat. -/
theorem checked_of_noFill (noFill : (resolveOrderSuccess call).decision = .terminalNoFill)
    (checked : ¬ call.EndsUnchecked) :
    call.openOrderPresent ≠ some true ∧ call.liveQty.le flatDust = true := by
  rw [decision_eq] at noFill
  obtain ⟨failClosed, confirmed, live, said⟩ := decided_noFill_iff.mp noFill
  have guarded (reason : call.openOrderPresent = some true ∧
        TextSearch.occursIn "live_flat" call.text = true ∨
      call.liveQty = .notANumber ∧ (TextSearch.occursIn "live_flat" call.text = true ∨
        call.openOrderPresent = some false ∧
          TextSearch.occursIn "no_open_order" call.text = true)) : False :=
    checked ⟨failClosed, confirmed, live, reason⟩
  simp only [saysNoFill, noOpenOrderTruth, liveFlatTruth, Bool.or_eq_true, Bool.and_eq_true,
    beq_iff_eq] at said
  constructor
  · intro opened
    rcases said with (text | ⟨closed, -⟩) | ⟨⟨-, closed⟩, -⟩
    · exact guarded (.inl ⟨opened, text⟩)
    · rw [opened] at closed
      cases closed
    · rw [opened] at closed
      cases closed
  · by_contra unflat
    have noNumber := not_a_number_of_unordered live (Bool.eq_false_iff.mpr unflat)
    rcases said with (text | ⟨closed, text⟩) | ⟨⟨⟨-, flat⟩, -⟩, -⟩
    · exact guarded (.inr ⟨noNumber, .inl text⟩)
    · exact guarded (.inr ⟨noNumber, .inr ⟨closed, text⟩⟩)
    · exact unflat flat

/-- An order that is known to be open or live is not ended, unless the texts end it unchecked. -/
theorem keeps_open_order_iff : call.KeepsOpenOrder ↔ ¬ call.EndsUnchecked := by
  constructor
  · rintro keeps ⟨failClosed, confirmed, live, reason⟩
    have said : call.saysNoFill = true := by
      simp only [saysNoFill, noOpenOrderTruth, Bool.or_eq_true, Bool.and_eq_true, beq_iff_eq]
      rcases reason with ⟨-, text⟩ | ⟨-, text | ⟨closed, text⟩⟩
      · exact .inl (.inl text)
      · exact .inl (.inl text)
      · exact .inl (.inr ⟨closed, text⟩)
    have ended : (resolveOrderSuccess call).decision = .terminalNoFill := by
      rw [decision_eq]
      exact decided_noFill_iff.mpr ⟨failClosed, confirmed, live, said⟩
    obtain ⟨closed, flat⟩ := keeps.noFill ended
    rcases reason with ⟨opened, -⟩ | ⟨noNumber, -⟩
    · exact closed opened
    · rw [noNumber] at flat
      cases flat
  · intro checked
    refine ⟨fun noFill => call.checked_of_noFill noFill checked, fun fill => ?_,
      call.remaining_target, call.opened_retains⟩
    rw [decision_eq] at fill
    exact call.confirmed_quantity (decided_fill fill)

end SuccessCall

end Ledger

namespace SuccessCall

section Example

local instance asciiSuccessCase : TextCase := TextCase.ascii

/-- An open order whose classification says that the venue is not flat. -/
def openOrder : SuccessCall where
  venue := .bybit
  symbol := "HOMEUSDT"
  target := .finite 1600
  metadata := some [("response_classification", .str "not_live_flat")]
  openOrderPresent := some true

/-- The marker inside another word ends the open order. -/
theorem open_order_ended :
    openOrder.openOrderPresent = some true ∧
      (resolveOrderSuccess openOrder).decision = .terminalNoFill := by
  decide +kernel

end Example

end SuccessCall

end LightFee.Engine.OrderTruth
