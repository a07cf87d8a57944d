import LightFee.Engine.EngineState
import LightFee.Library.TextSearch
import Mathlib.Data.String.Basic

/-!
# Normalising a recovered state

Thirteen repairs run in a fixed order over the restored collections. Positions
are backfilled, dust positions become residual repairs, positions without a
matched quantity are removed, entries and closes that cannot be reconciled are
dropped, and positions are sorted.

An exposed position survives or leaves a repair behind exactly when it is dust,
has a matched quantity, or had a repair already. A one-legged position has no
matched quantity, so it is removed without a trace; so is a close without a
position id, whatever orders it carries. A second run changes nothing.
-/

namespace LightFee.Engine

/-- Readings of the wall clock while an entry or a close is looked at. -/
structure ClockReadings where
  atEntry : String → Int
  atClose : String → Int
  atEntry_pos : ∀ id, 0 < atEntry id
  atClose_pos : ∀ id, 0 < atClose id

/-! ## Positions -/

namespace OpenPosition

def backfillFundingTimestamp (position : OpenPosition) : OpenPosition :=
  { position with
    fundingTimestampMs :=
      if position.fundingTimestampMs = 0 then position.openedAtMs else position.fundingTimestampMs }

def backfillFundingEdge (position : OpenPosition) : OpenPosition :=
  { position with
    totalFundingEdgeBpsEntry :=
      if position.totalFundingEdgeBpsEntry.eq (.finite 0) then position.fundingEdgeBpsEntry
      else position.totalFundingEdgeBpsEntry }

def ensureMatchedQuantity (position : OpenPosition) : OpenPosition :=
  { position with
    matchedQuantity :=
      if position.matchedQuantity.eq (.finite 0) then
        position.longQuantity.min position.shortQuantity
      else position.matchedQuantity }

/-- The position left by a rounded-off exit. -/
def isDust (position : OpenPosition) : Bool :=
  match position.exitReason with
  | some reason => reason ≠ "" && TextSearch.occursIn "exchange_min_notional_dust" reason
  | none => false

def isZero (position : OpenPosition) : Bool :=
  position.matchedQuantity.lt (.finite (1 / 10 ^ 12))

/-- What a dust position leaves in the residual repairs. -/
def dustRepair (position : OpenPosition) (id : String) : DynValue :=
  .dict [("position_id", .str id), ("symbol", .str position.symbol),
    ("long_venue", .str position.longVenue.value), ("short_venue", .str position.shortVenue.value),
    ("reason", .str "exchange_min_notional_dust"), ("migrated_at_ms", .int position.openedAtMs)]

def raisePeak (position : OpenPosition) : OpenPosition :=
  { position with
    peakNetQuote :=
      if position.peakNetQuote.lt position.currentNetQuote then position.currentNetQuote
      else position.peakNetQuote }

def defaultOpportunityType (position : OpenPosition) : OpenPosition :=
  { position with
    opportunityType := if position.opportunityType = "" then "aligned" else position.opportunityType }

/-- The repairs before any position is removed. -/
def repaired (position : OpenPosition) : OpenPosition :=
  position.backfillFundingTimestamp.backfillFundingEdge.ensureMatchedQuantity

/-- The repairs after the positions are sorted. -/
def finished (position : OpenPosition) : OpenPosition :=
  position.raisePeak.defaultOpportunityType

end OpenPosition

namespace EngineState

def mapPositions (state : EngineState) (f : OpenPosition → OpenPosition) : EngineState :=
  { state with openPositions := state.openPositions.mapEntries (fun _ position => f position) }

/-- A legacy lifecycle name stands for a risk mode. -/
def migrateFailClosed (state : EngineState) : EngineState :=
  { state with
    lifecycle := if state.lifecycle.value = "fail_closed" then .riskOnly else state.lifecycle
    riskMode := if state.lifecycle.value = "fail_closed" then .failClosed else state.riskMode }

/-- One entry of the loop that keeps the first position of every id. -/
def dedupPosition (collected : List String × OrderedDict String OpenPosition)
    (entry : String × OpenPosition) : List String × OrderedDict String OpenPosition :=
  if entry.1 ∈ collected.1 then collected
  else (entry.1 :: collected.1, collected.2.insert entry.1 entry.2)

def dedupPositions (state : EngineState) : EngineState :=
  { state with openPositions := (state.openPositions.entries.foldl dedupPosition ([], .empty)).2 }

def dustIds (state : EngineState) : List String :=
  (state.openPositions.entries.filter (fun entry => entry.2.isDust)).map Prod.fst

def migrateDustPosition (state : EngineState) (id : String) : EngineState :=
  match state.openPositions.find? id with
  | none => state
  | some position =>
    { state with
      openPositions := state.openPositions.erase id
      pendingResidualRepairs := state.pendingResidualRepairs ++ [position.dustRepair id] }

def migrateDust (state : EngineState) : EngineState :=
  state.dustIds.foldl migrateDustPosition state

/-- The key under which a reduce-only pair is deduplicated. -/
def reduceOnlyPairKey (pair : DynValue) : String :=
  if pair.isMapping then
    (pair.get "long_venue" (.str "")).text ++ ":" ++ (pair.get "short_venue" (.str "")).text ++
      ":" ++ (pair.get "symbol" (.str "")).text
  else pair.text

def dedupPair (collected : List String × List DynValue) (pair : DynValue) :
    List String × List DynValue :=
  if reduceOnlyPairKey pair ∈ collected.1 then collected
  else (reduceOnlyPairKey pair :: collected.1, collected.2 ++ [pair])

def dedupReduceOnlyPairs (state : EngineState) : EngineState :=
  { state with
    liveRecoveryReduceOnlyPairs :=
      (state.liveRecoveryReduceOnlyPairs.foldl dedupPair ([], [])).2 }

def removeZeroPositions (state : EngineState) : EngineState :=
  { state with openPositions := state.openPositions.filter (fun _ position => !position.isZero) }

def sortPositions (state : EngineState) : EngineState :=
  { state with openPositions := state.openPositions.sortKeys }

end EngineState

/-! ## Passive closes -/

def PassivePhaseState.withDefaults (phase : PassivePhaseState) (createdCycle : Int) :
    PassivePhaseState :=
  let phaseStartedAtMs :=
    if phase.phaseStartedAtMs = 0 then orElseCount createdCycle 1 else phase.phaseStartedAtMs
  { phase with
    phaseStartedAtMs := phaseStartedAtMs
    cycleStartedAtMs := if phase.cycleStartedAtMs = 0 then phaseStartedAtMs else phase.cycleStartedAtMs
    cycleAttempt := if phase.cycleAttempt = 0 then 1 else phase.cycleAttempt }

def EngineState.defaultPassivePhases (state : EngineState) : EngineState :=
  { state with
    pendingPassiveCloses := state.pendingPassiveCloses.mapEntries (fun _ close =>
      { close with phaseState := close.phaseState.withDefaults close.createdCycle }) }

/-! ## Pending entries -/

/-- What a decision about a pending entry lets its owner do. -/
structure PendingEntryTerminalDecision where
  outcome : String
  reason : String
  terminal : Bool
  allowsPendingRemoval : Bool
  healthy : Bool

def removeIfAllowed (entries : OrderedDict String (PendingEntry ExactFloat)) (entryId : String)
    (decision : PendingEntryTerminalDecision) : OrderedDict String (PendingEntry ExactFloat) :=
  if decision.allowsPendingRemoval then entries.erase entryId else entries

def dropDecision : PendingEntryTerminalDecision where
  outcome := "invalid_pending_entry_dropped"
  reason := "invalid_pending_entry_without_exchange_evidence"
  terminal := true
  allowsPendingRemoval := true
  healthy := false

namespace PendingEntry

/-- The entry still points at something on a venue. -/
def hasExchangeEvidence (pending : PendingEntry ExactFloat) : Bool :=
  (pending.makerOrderId ≠ "" || pending.hedgeOrderId ≠ "" || pending.makerClientOrderId ≠ "" ||
    pending.hedgeClientOrderId ≠ "" || pending.hedgeInflight.isSome) ||
  ((ExactFloat.finite 0).lt pending.makerLegFilled || (ExactFloat.finite 0).lt pending.hedgeLegFilled)

/-- Why an entry cannot be reconciled. Its venues are always there. -/
def invalidReason (pending : PendingEntry ExactFloat) : Option String :=
  if pending.symbol = "" ∨ TextSearch.strip pending.symbol = "" then some "empty symbol"
  else if pending.targetQuantity.le (.finite 0) then some "zero quantity"
  else none

def isRetained (pending : PendingEntry ExactFloat) : Bool :=
  pending.invalidReason.isSome && pending.hasExchangeEvidence

def isDropped (pending : PendingEntry ExactFloat) : Bool :=
  pending.invalidReason.isSome && !pending.hasExchangeEvidence

def backfillTimestamps (pending : PendingEntry ExactFloat) (nowMs : Int) : PendingEntry ExactFloat :=
  let createdAtMs :=
    if pending.createdAtMs ≤ 0 then
      if 0 < pending.reconcileNextAttemptMs then pending.reconcileNextAttemptMs else nowMs
    else pending.createdAtMs
  { pending with
    createdAtMs := createdAtMs
    reconcileNextAttemptMs :=
      if pending.reconcileNextAttemptMs ≤ 0 then createdAtMs else pending.reconcileNextAttemptMs }

/-- The entry after the check; only a valid one is backfilled. -/
def validated (pending : PendingEntry ExactFloat) (nowMs : Int) : PendingEntry ExactFloat :=
  if pending.invalidReason.isSome then pending else pending.backfillTimestamps nowMs

end PendingEntry

def EngineState.badEntryIds (state : EngineState) : List String :=
  (state.pendingEntries.entries.filter (fun entry => entry.2.isDropped)).map Prod.fst

/-- Invalid entries with evidence stay and block the recovery; the last of them
leaves the time. -/
def EngineState.validatePendingEntries (clock : ClockReadings) (state : EngineState) :
    EngineState :=
  let retained := state.pendingEntries.entries.filter (fun entry => entry.2.isRetained)
  { state with
    recoveryBlockedReason :=
      if retained.isEmpty then state.recoveryBlockedReason
      else some "invalid_pending_entry_with_exchange_evidence"
    recoveryBlockedAtMs :=
      (retained.getLast?.map (fun entry => clock.atEntry entry.1)).getD state.recoveryBlockedAtMs
    lifecycle := if retained.isEmpty then state.lifecycle else .riskOnly
    pendingEntries := state.badEntryIds.foldl
      (fun entries entryId => removeIfAllowed entries entryId dropDecision)
      (state.pendingEntries.mapEntries (fun id pending => pending.validated (clock.atEntry id))) }

/-! ## Pending closes -/

namespace PendingClose

def carriesOrderId (close : PendingClose) : Bool :=
  close.longOrderId ≠ "" || close.shortOrderId ≠ ""

def backfillTimestamps (close : PendingClose) (nowMs : Int) : PendingClose :=
  let createdAtMs := if close.createdAtMs ≤ 0 then nowMs else close.createdAtMs
  { close with
    createdAtMs := createdAtMs
    reconcileNextAttemptMs :=
      if close.reconcileNextAttemptMs ≤ 0 then createdAtMs else close.reconcileNextAttemptMs }

def validated (close : PendingClose) (nowMs : Int) : PendingClose :=
  if close.positionId = "" then close else close.backfillTimestamps nowMs

end PendingClose

def EngineState.badCloseIds (state : EngineState) : List String :=
  (state.pendingCloses.entries.filter (fun entry => entry.2.positionId = "")).map Prod.fst

def EngineState.validatePendingCloses (clock : ClockReadings) (state : EngineState) : EngineState :=
  { state with
    pendingCloses := state.badCloseIds.foldl OrderedDict.erase
      (state.pendingCloses.mapEntries (fun id close => close.validated (clock.atClose id))) }

/-- `normalize_engine_state`: the repairs in their order. -/
def normalizeEngineState (clock : ClockReadings) (state : EngineState) : EngineState :=
  let migrated := state.migrateFailClosed
  let stamped := migrated.mapPositions OpenPosition.backfillFundingTimestamp
  let edged := stamped.mapPositions OpenPosition.backfillFundingEdge
  let matched := edged.mapPositions OpenPosition.ensureMatchedQuantity
  let cleaned := matched.dedupPositions.migrateDust
  let phased := cleaned.dedupReduceOnlyPairs.defaultPassivePhases
  let validated :=
    (phased.removeZeroPositions.validatePendingEntries clock).validatePendingCloses clock
  let sorted := validated.sortPositions
  (sorted.mapPositions OpenPosition.raisePeak).mapPositions OpenPosition.defaultOpportunityType

end LightFee.Engine
