import LightFee.Engine.CloseWriteback

/-!
# Venues under a close

What a close asks of the venues, and how it reads their errors: the rejection of a
reduce-only order, and the refusal of a client order id that was used before.

An adapter keeps state between its calls and every call may raise. What was asked and
answered is kept as a trace beside the state; no function reads it.
-/

namespace LightFee.Engine

open LightFee.Venues

/-! ## Requests and answers -/

structure OrderRequest where
  venue : Venue
  symbol : String
  side : Side
  quantity : ExactFloat
  price : Option ExactFloat := none
  clientOrderId : String

inductive SubmitFailureClass where
  | rejected
  | uncertain
deriving DecidableEq

/-- An exception of a submission; without a class it is not an `OrderSubmitError`. -/
structure SubmitError where
  failureClass : Option SubmitFailureClass
  text : String
  /-- The texts of its attributes that carry an exchange's answer. -/
  answerTexts : List String := []
  acceptedOrderId : String := ""
  acceptedClientOrderId : String := ""

structure PositionSnapshot where
  side : Side
  quantity : ExactFloat

structure OrderFillReconciliation where
  quantity : ExactFloat
  averagePrice : ExactFloat
  orderId : String := ""
  clientOrderId : Option String := none

/-- The adapter of a venue; an exception of a query is its text. -/
structure CloseAdapter (World : Type) where
  placeOrder : OrderRequest → World → Except SubmitError OrderFill × World
  fetchPosition : (symbol : String) → World → Except String (Option PositionSnapshot) × World
  fetchOrderFillReconciliation : (symbol clientOrderId : String) → World →
    Except String (Option OrderFillReconciliation) × World

/-- Everything around a close executor. -/
structure CloseEnvironment (World : Type) where
  adapters : Venue → Option (CloseAdapter World)
  /-- A hash of a position and a stage. -/
  compactClientOrderId : (positionId stage : String) → String
  wallClockNowMs : World → Int
  maxCloseRetries : Nat := 3
  deadlineMs : Int := 30000

/-- One call of an adapter. -/
inductive VenueEvent where
  | placed (request : OrderRequest) (answer : Except SubmitError OrderFill)
  | observed (venue : Venue) (answer : Except String (Option PositionSnapshot))
  | reconciled (venue : Venue) (clientOrderId : String)
      (answer : Except String (Option OrderFillReconciliation))

/-- The venues and the engine in the middle of a close. -/
structure CloseRun (World : Type) where
  world : World
  state : CloseState
  trace : List VenueEvent := []

namespace CloseRun

variable {World : Type}

def log (run : CloseRun World) (kind : String) (payload : List (String × PayloadValue) := []) :
    CloseRun World :=
  { run with state := run.state.append kind payload }

def placeOrder (run : CloseRun World) (adapter : CloseAdapter World) (request : OrderRequest) :
    Except SubmitError OrderFill × CloseRun World :=
  let (answer, world) := adapter.placeOrder request run.world
  (answer, { run with world := world, trace := run.trace ++ [.placed request answer] })

def fetchPosition (run : CloseRun World) (adapter : CloseAdapter World) (venue : Venue)
    (symbol : String) : Except String (Option PositionSnapshot) × CloseRun World :=
  let (answer, world) := adapter.fetchPosition symbol run.world
  (answer, { run with world := world, trace := run.trace ++ [.observed venue answer] })

def fetchReconciliation (run : CloseRun World) (adapter : CloseAdapter World) (venue : Venue)
    (symbol clientOrderId : String) :
    Except String (Option OrderFillReconciliation) × CloseRun World :=
  let (answer, world) := adapter.fetchOrderFillReconciliation symbol clientOrderId run.world
  (answer, { run with
    world := world
    trace := run.trace ++ [.reconciled venue clientOrderId answer] })

end CloseRun

/-! ## Errors -/

section Errors

variable [TextCase]

/-- The value behind a key, up to the next space. -/
def errorField (key lowered : String) : String :=
  match TextSearch.split key lowered with
  | [] => ""
  | _ :: rest =>
    TextSearch.strip ((TextSearch.split " " (key.intercalate rest)).headD "")

def containsAny (text : String) (patterns : List String) : Bool :=
  patterns.any (fun pattern => TextSearch.occursIn pattern text)

structure CloseLegErrorClass where
  label : String
  emptyPosition : Bool
  orderNotFound : Bool
  pendingConflict : Bool
  terminalReduceOnly : Bool

/-- `_classify_close_leg_error`: the venues' codes one after the other. -/
def classifyCloseLegError (errorText : String) : CloseLegErrorClass :=
  let lower := TextCase.lower errorText
  let label := errorField "label=" lower
  let message := errorField "msg=" lower
  let has (pattern : String) : Bool := TextSearch.occursIn pattern lower
  -- Gate
  let gateEmpty :=
    (label == "reduce_exceeded" && TextSearch.occursIn "empty position" message) ||
      (has "reduce_exceeded" && has "empty position")
  let gateNotFound := label == "order_not_found" || has "order not found" || has "order_not_found"
  let pendingConflict :=
    ((label == "reduce_only_fail" || label == "reduce_exceeded") &&
        TextSearch.occursIn "pending order" message &&
        TextSearch.occursIn "reduce order" message) ||
      ((has "reduce_only_fail" || has "reduce_exceeded") && has "pending order" &&
        has "reduce order")
  -- OKX
  let okxMissing := has "order does not exist"
  let okxNotFound := gateNotFound || (!gateEmpty &&
    (containsAny lower ["code=51000", "code 51000", "\"51000\""] || okxMissing))
  let okxEmpty := gateEmpty ||
    (has "position" && containsAny lower ["51000", "51108", "51109", "51110", "51112"]) ||
    (okxMissing && has "reduce")
  -- Bybit
  let bybitEmpty := okxEmpty || (!okxNotFound &&
    ((has "position" && containsAny lower ["110001", "110017", "110043", "20001", "20070"]) ||
      has "no position" || has "current position is zero"))
  -- Binance
  let orderNotFound := okxNotFound || containsAny lower ["-2011", "-2013", "-2015", "code=-201"]
  let emptyPosition := bybitEmpty || containsAny lower ["-2010", "-4069", "-4164"] ||
    (has "-2022" && containsAny lower ["reduceonly", "reduce only", "reduce_only"]) ||
    (has "reduce" && (has "insufficient" || has "not enough")) ||
    has "reduceonly order is rejected" || has "reduce only order is rejected"
  { label := label
    emptyPosition := emptyPosition
    orderNotFound := orderNotFound
    pendingConflict := pendingConflict
    terminalReduceOnly := emptyPosition || orderNotFound || containsAny lower
      ["position closed", "empty position", "position does not exist", "reduce_only",
        "no position", "insufficient position", "position not found", "order does not exist",
        "current position is zero", "reduceonly order is rejected",
        "reduce only order is rejected"] }

/-- A pending conflict is retried, so it is not terminal. -/
def CloseLegErrorClass.isTerminalReduceOnly (errorClass : CloseLegErrorClass) : Bool :=
  errorClass.emptyPosition || (!errorClass.pendingConflict && errorClass.terminalReduceOnly)

/-- Two venues document how they refuse a client order id that was used before. -/
def isDuplicateClientOrderError (venue : Venue) (text : String) (answerTexts : List String := []) :
    Bool :=
  let text := TextSearch.replaceAll "_" "" (TextCase.lower
    (" ".intercalate (text :: answerTexts.filter (fun answer => answer ≠ ""))))
  match venue with
  | .bybit => TextSearch.occursIn "110072" text ||
      (TextSearch.occursIn "orderlinkedid" text && TextSearch.occursIn "duplicate" text)
  | .bitget => TextSearch.occursIn "40786" text ||
      TextSearch.occursIn "duplicate clientoid" text ||
      (TextSearch.occursIn "clientoid" text && TextSearch.occursIn "duplicate" text)
  | _ => false

end Errors

/-! ## Duplicate client order ids -/

inductive DuplicateClassification where
  | full
  | someFilled
  | noneFilled
  | staleFullLiveNonzero
  | unknownTransient
deriving DecidableEq

inductive DuplicateDecision where
  | clearLiveFlat
  | retryNewClientOrderId
  | backoffRecheck
deriving DecidableEq

structure DuplicateReconcile where
  classification : DuplicateClassification
  decision : DuplicateDecision
  targetQty : ExactFloat
  reconciledQty : ExactFloat
  liveQty : ExactFloat
  remainingQty : ExactFloat
  retryQty : ExactFloat
  orderId : String
  clientOrderId : String
  averagePrice : ExactFloat

/-- Quantities beyond this are not flat. -/
def flatDust : ExactFloat := .finite (1 / 10 ^ 9)

/-- `_positive_float`. -/
def positiveFloat (value : ExactFloat) : ExactFloat :=
  if value.lt (.finite 0) then value.abs else value

def DuplicateReconcile.clearState (result : DuplicateReconcile) : Bool :=
  result.decision == .clearLiveFlat

def DuplicateReconcile.shouldRetryWithNewClientId (result : DuplicateReconcile) : Bool :=
  result.decision == .retryNewClientOrderId && flatDust.lt result.retryQty

/-- `resolve_duplicate_conflict`, after both queries. An error is its text, and an empty
text counts as no error. -/
def resolveDuplicateConflict (clientOrderId : String) (targetQty : ExactFloat)
    (reconciliation : Except String (Option OrderFillReconciliation))
    (livePosition : Except String (Option PositionSnapshot)) : DuplicateReconcile :=
  let found : Option OrderFillReconciliation :=
    match reconciliation with
    | .ok found => found
    | .error _ => none
  let reconcileError : String := match reconciliation with | .ok _ => "" | .error text => text
  let liveFetchError : String := match livePosition with | .ok _ => "" | .error text => text
  let live : Option PositionSnapshot :=
    match livePosition with
    | .ok live => live
    | .error _ => none
  let reconciledQty := positiveFloat ((found.map (fun order => order.quantity)).getD (.finite 0))
  let targetQty := (positiveFloat targetQty).max (.finite 0)
  let liveQty := positiveFloat ((live.map (fun position => position.quantity)).getD (.finite 0))
  let liveFlat := liveFetchError = "" ∧ liveQty.le flatDust = true
  let isFull := ((targetQty.sub flatDust).max (.finite 0)).le reconciledQty &&
    (ExactFloat.finite 0).lt reconciledQty
  let missing := (targetQty.sub reconciledQty).max (.finite 0)
  let (classification, decision, remainingQty) : DuplicateClassification × DuplicateDecision ×
      ExactFloat :=
    if isFull ∧ liveFetchError ≠ "" then (.unknownTransient, .backoffRecheck, missing)
    else if isFull ∧ flatDust.lt liveQty then
      (.staleFullLiveNonzero, .retryNewClientOrderId, liveQty)
    else if isFull then (.full, .clearLiveFlat, missing)
    else if liveFlat then
      (if reconciledQty.le flatDust then .noneFilled else .someFilled, .clearLiveFlat, missing)
    else if flatDust.lt reconciledQty then
      (.someFilled, .retryNewClientOrderId, missing)
    else if reconcileError ≠ "" ∨ liveFetchError ≠ "" then
      (.unknownTransient, .backoffRecheck, missing)
    else (.noneFilled, .backoffRecheck, missing)
  { classification := classification
    decision := decision
    targetQty := targetQty
    reconciledQty := reconciledQty
    liveQty := liveQty
    remainingQty := remainingQty
    retryQty :=
      if decision = .retryNewClientOrderId ∧ flatDust.lt liveQty then remainingQty.min liveQty
      else remainingQty
    orderId := (found.map (fun order => order.orderId)).getD ""
    clientOrderId :=
      match found with
      | some order => if order.clientOrderId.getD "" = "" then clientOrderId
          else order.clientOrderId.getD ""
      | none => clientOrderId
    averagePrice :=
      positiveFloat ((found.map (fun order => order.averagePrice)).getD (.finite 0)) }

/-! ## Refused client order ids -/

theorem positiveFloat_eq_abs (value : ExactFloat) : positiveFloat value = value.abs := by
  cases value with
  | finite exact =>
    rw [positiveFloat, ExactFloat.lt_finite, ExactFloat.abs_finite]
    split_ifs with negative
    · rfl
    · rw [decide_eq_true_iff, not_lt] at negative
      rw [abs_of_nonneg negative]
  | infinite negative => cases negative <;> rfl
  | notANumber => rfl

theorem positiveFloat_abs (value : ℚ) : positiveFloat (.finite value) = .finite |value| :=
  positiveFloat_eq_abs (.finite value)

theorem positiveFloat_finite {value : ℚ} (nonneg : 0 ≤ value) :
    positiveFloat (.finite value) = .finite value := by
  rw [positiveFloat, ExactFloat.lt_finite, decide_eq_false (not_lt.mpr nonneg)]
  rfl

/-- An answer that is read as a part of it was answered. -/
theorem answered_of_map {Answer Part : Type} {part : Answer → Part}
    {answer : Except String (Option Answer)} {value : Part}
    (answered : answer.map (Option.map part) = .ok (some value)) :
    ∃ whole, answer = .ok (some whole) ∧ part whole = value := by
  cases answer with
  | error text => cases answered
  | ok answer =>
    cases answer with
    | none => cases answered
    | some whole =>
      cases answered
      exact ⟨whole, rfl, rfl⟩

/-- An executed quantity comes from an answered execution. -/
theorem resolveDuplicate_reconciled {clientOrderId : String} {target : ExactFloat}
    {reconciliation : Except String (Option OrderFillReconciliation)}
    {live : Except String (Option PositionSnapshot)}
    (positive : (ExactFloat.finite 0).lt
      (resolveDuplicateConflict clientOrderId target reconciliation live).reconciledQty = true) :
    ∃ order, reconciliation = .ok (some order) ∧
      (resolveDuplicateConflict clientOrderId target reconciliation live).reconciledQty =
        positiveFloat order.quantity ∧
      (resolveDuplicateConflict clientOrderId target reconciliation live).orderId =
        order.orderId := by
  cases reconciliation with
  | error text => cases positive
  | ok answer =>
    cases answer with
    | none => cases positive
    | some order => exact ⟨order, rfl, rfl, rfl⟩

/-- A live quantity comes from an answered position. -/
theorem resolveDuplicate_live {clientOrderId : String} {target : ExactFloat}
    {reconciliation : Except String (Option OrderFillReconciliation)}
    {live : Except String (Option PositionSnapshot)}
    (holds : flatDust.lt
      (resolveDuplicateConflict clientOrderId target reconciliation live).liveQty = true) :
    ∃ position, live = .ok (some position) ∧
      (resolveDuplicateConflict clientOrderId target reconciliation live).liveQty =
        positiveFloat position.quantity := by
  have flat : ¬ flatDust.lt (positiveFloat (.finite 0)) = true := by decide +kernel
  cases live with
  | error text => exact absurd holds flat
  | ok answer =>
    cases answer with
    | none => exact absurd holds flat
    | some position => exact ⟨position, rfl, rfl⟩

/-- A retry follows an order that filled a part, or one that filled all while the venue still
shows a position, which is then what remains. -/
theorem resolveDuplicate_retries {clientOrderId : String} {target : ℚ}
    {reconciliation : Except String (Option OrderFillReconciliation)}
    {live : Except String (Option PositionSnapshot)} (positive : 0 ≤ target)
    (retries : (resolveDuplicateConflict clientOrderId (.finite target) reconciliation
      live).shouldRetryWithNewClientId = true) :
    let found := resolveDuplicateConflict clientOrderId (.finite target) reconciliation live
    (((ExactFloat.finite target).sub flatDust).max (.finite 0)).le found.reconciledQty = true ∧
        (ExactFloat.finite 0).lt found.reconciledQty = true ∧
        flatDust.lt found.liveQty = true ∧ found.remainingQty = found.liveQty ∨
      flatDust.lt found.reconciledQty = true ∧
        found.remainingQty = ((ExactFloat.finite target).sub found.reconciledQty).max (.finite 0) := by
  rw [DuplicateReconcile.shouldRetryWithNewClientId, Bool.and_eq_true] at retries
  have decided := retries.1
  have quantity : (positiveFloat (.finite target)).max (.finite 0) = .finite target := by
    rw [positiveFloat_finite positive, ExactFloat.max_finite, max_eq_left positive]
  intro found
  simp only [found]
  unfold resolveDuplicateConflict at decided ⊢
  simp only [quantity, Bool.and_eq_true] at decided ⊢
  split_ifs at decided ⊢ <;> simp_all

section Duplicates

variable {World : Type}

/-- `reconcile_duplicate_client_order`. -/
def reconcileDuplicateClientOrder (run : CloseRun World) (adapter : CloseAdapter World)
    (venue : Venue) (symbol clientOrderId : String) (targetQty : ExactFloat) :
    DuplicateReconcile × CloseRun World :=
  let (reconciliation, run) := run.fetchReconciliation adapter venue symbol clientOrderId
  let (livePosition, run) := run.fetchPosition adapter venue symbol
  (resolveDuplicateConflict clientOrderId targetQty reconciliation livePosition, run)

end Duplicates

end LightFee.Engine
