import LightFee.Engine.CloseReplay
import LightFee.Engine.HandoverCoverage
import LightFee.Engine.RecoveryDecisionCore

/-!
# A live-flat cleanup that fails

When both legs are flat, the close is handed over, leaves the state, and the block of a
recovery may be lifted. An exception takes the memory back to where it was; the records that
the journal holds by then stay.

A cleanup is a list of steps, and an exception may come after any number of them. Of its
records, a replay reads two: the registration of the hand-over and the announcement that no
billing evidence exists. Both take the owners of the position from the state.
-/

namespace LightFee.Engine

open LightFee.Venues DynValue

/-! ## The block of a recovery -/

/-- `LEGACY_RECOVERY_BLOCK_CLEARABLE_REASONS`. -/
def legacyRecoveryBlockClearableReasons : List String :=
  ["position_drift_correction_failed", "startup_recovery_pending_work_without_open_positions"]

/-- `needs_reconciliation`. -/
def needsReconciliation (engine : EngineState) : Bool :=
  !engine.openPositions.isEmpty || !engine.pendingEntries.isEmpty ||
    !engine.pendingCloses.isEmpty || !engine.pendingPassiveCloses.isEmpty ||
    !engine.pendingResidualRepairs.isEmpty

/-- Whether `clear_legacy_recovery_block_via_core` clears the block. -/
def clearsLegacyBlock (engine : EngineState) (core : RecoveryDecision) : Bool :=
  match engine.recoveryBlockedReason with
  | none => false
  | some reason =>
    Decidable.decide (reason ≠ "") &&
      Decidable.decide (engine.operator.requestedMode ≠ some .failClosed) &&
      !coreOwnedBlockReasons.contains reason &&
      legacyRecoveryBlockClearableReasons.contains reason &&
      core.clearPreviousBlock &&
      (Decidable.decide (core.kind = .runningClean) ||
        Decidable.decide (core.kind = .runningWithEvidenceGap)) &&
      Decidable.decide (core.blockReason.getD "" = "") && core.entryAllowed &&
      !needsReconciliation engine

/-! ## The cleanup -/

/-- Whether every order id of a leg group is empty; a group that is no list of mappings has
none to show. -/
def legGroupUnnamed (group : DynValue) : Bool :=
  match group with
  | .list legs => legs.all (fun leg => leg.isMapping &&
      !(leg.get "order_id").truthy && !(leg.get "client_order_id").truthy)
  | _ => false

def textsEmpty (values : DynValue) : Bool :=
  match values with
  | .list texts => texts.all (fun text => Decidable.decide (textOf text = ""))
  | _ => false

/-- `is_unattributed_recovered_live_flat_reconciliation`. -/
def isUnattributedRecoveredLiveFlatReconciliation (item : DynValue) : Bool :=
  let positionId := textOf (item.get "position_id")
  let snapshot := item.get "position_snapshot"
  let payload := item.get "original_payload"
  item.isMapping && positionId.startsWith "live-recovered:" &&
    ["final", "partial"].contains ((item.get "kind").orElse (.str "final")).text &&
    snapshot.isMapping && Decidable.decide (textOf (snapshot.get "position_id") = positionId) &&
    (match snapshot.get "entry_fee_evidence_complete" with
      | .bool complete => !complete
      | _ => true) &&
    legGroupUnnamed (item.get "long_legs") && legGroupUnnamed (item.get "short_legs") &&
    payload.isMapping && textsEmpty (payload.get "order_ids") &&
    textsEmpty (payload.get "client_order_ids")

/-- The records of a cleanup, with what a replay reads of them. -/
inductive CleanupRecord where
  /-- `exit.pending_close_reconciliation_registered`, with the complete record. -/
  | pendingCloseReconciliationRegistered (reconciliation : LiveFlatRecord)
  | legacyBlockCleared
  | passiveCloseResolved (positionId : String)
  | billingEvidenceUnavailable (positionId : String)
  | passiveCloseLiveFlatCleanupFailed (positionId : String)

/-- What a cleanup changes. -/
structure CleanupState where
  runtime : RuntimeState
  globalRiskReason : Option String := none
  journal : List CleanupRecord := []

/-- A point after which an exception may come. -/
inductive CleanupStep where
  | append (record : CleanupRecord)
  | enqueue (record : LiveFlatRecord)
  | removeAbsorbed (task : DynValue)
  | popPassive
  | popOpen
  | clearLastError
  /-- The core is asked; it changes nothing. -/
  | decideRecovery
  | clearBlock

/-- `_last_error_matches_live_flat_cleanup`. -/
def lastErrorMatchesLiveFlatCleanup [TextCase] (lastError positionId symbol : String) : Bool :=
  (Decidable.decide (positionId ≠ "") && TextSearch.occursIn positionId lastError) ||
    (TextSearch.occursIn symbol lastError &&
      TextSearch.occursIn "reduceonly" (TextCase.lower
        (String.ofList (lastError.toList.filter (fun char => Decidable.decide (char ≠ ' '))))))

namespace CleanupState

def setQueue (state : CleanupState) (queue : List DynValue) : CleanupState :=
  { state with runtime := { state.runtime with pendingCloseReconciliations := queue } }

def setEngine (state : CleanupState) (engine : EngineState) : CleanupState :=
  { state with runtime := { state.runtime with engine := engine } }

def append (state : CleanupState) (record : CleanupRecord) : CleanupState :=
  { state with journal := state.journal ++ [record] }

section Steps

variable [TextCase] (positionId symbol : String)

def runStep (state : CleanupState) : CleanupStep → CleanupState
  | .append record => state.append record
  | .enqueue record => state.setQueue (enqueuePendingCloseReconciliation
      (.list state.runtime.pendingCloseReconciliations) record.toDyn)
  | .removeAbsorbed task => state.setQueue
      (removePendingCloseReconciliation state.runtime.pendingCloseReconciliations task)
  | .popPassive => state.setEngine { state.runtime.engine with
      pendingPassiveCloses := state.runtime.engine.pendingPassiveCloses.erase positionId }
  | .popOpen => state.setEngine { state.runtime.engine with
      openPositions := state.runtime.engine.openPositions.erase positionId }
  | .clearLastError =>
    { state with runtime := { state.runtime with
        lastError := state.runtime.lastError.filter (fun error =>
          !lastErrorMatchesLiveFlatCleanup error positionId symbol) } }
  | .decideRecovery => state
  | .clearBlock =>
    { state.setEngine { state.runtime.engine with
        lifecycle := .running, riskMode := .running
        recoveryBlockedReason := none, recoveryBlockedAtMs := 0 } with
      globalRiskReason := none }

def run (state : CleanupState) (steps : List CleanupStep) : CleanupState :=
  steps.foldl (runStep positionId symbol) state

end Steps

/-- The queue is normalised before the block that may fail. -/
def normalized (state : CleanupState) : CleanupState :=
  state.setQueue
    (setPendingCloseReconciliations (.list state.runtime.pendingCloseReconciliations))

theorem normalized_queue (state : CleanupState) :
    state.normalized.runtime.pendingCloseReconciliations =
      setPendingCloseReconciliations (.list state.runtime.pendingCloseReconciliations) := by
  rw [normalized, setQueue]

/-- A key goes back to what it was. -/
def restoreKey {κ : Type} {ν : Type} [DecidableEq κ] (original current : OrderedDict κ ν)
    (key : κ) : OrderedDict κ ν :=
  match original.find? key with
  | none => current.erase key
  | some value => current.insert key value

/-- The handler of an exception. -/
def rollback (original current : CleanupState) (positionId : String) : CleanupState :=
  let before := original.runtime
  let engine := current.runtime.engine
  let restored := { engine with
    pendingPassiveCloses :=
      restoreKey before.engine.pendingPassiveCloses engine.pendingPassiveCloses positionId
    openPositions := restoreKey before.engine.openPositions engine.openPositions positionId
    lifecycle := before.engine.lifecycle
    riskMode := before.engine.riskMode
    recoveryBlockedReason := before.engine.recoveryBlockedReason
    recoveryBlockedAtMs := before.engine.recoveryBlockedAtMs }
  let state : CleanupState :=
    { runtime := { current.runtime with
        engine := restored
        pendingCloseReconciliations := before.pendingCloseReconciliations
        lastError := before.lastError }
      globalRiskReason := original.globalRiskReason
      journal := current.journal }
  state.append (.passiveCloseLiveFlatCleanupFailed positionId)

theorem rollback_queue (original current : CleanupState) (positionId : String) :
    (rollback original current positionId).runtime.pendingCloseReconciliations =
      original.runtime.pendingCloseReconciliations := by
  rw [rollback, append]

end CleanupState

section Cleanup

variable [TextCase] (state : CleanupState) (pending : PendingPassiveClose)
  (position : OpenPosition) (call : HandoverCall) (core : RecoveryDecision)

/-- A pair that was only observed by a recovery has no close to hand over. -/
def externalRecoveryObservation : Bool :=
  let rows := pendingCloseReconciliationRecords pending position call.extra
  isUnattributedRecoveredLiveFlatReconciliation (.dict
    [("position_id", .str pending.positionId), ("kind", .str "final"),
      ("position_snapshot", closeReconciliationPositionSnapshot position),
      ("original_payload", call.payload),
      ("long_legs", .list ((rows .long).map CloseLegRow.toDyn)),
      ("short_legs", .list ((rows .short).map CloseLegRow.toDyn))])

/-- The steps of the registration. -/
def handoverSteps : HandoverPlan → List CleanupStep
  | .notLive | .registered => []
  | .register record absorbed =>
    [.append (.pendingCloseReconciliationRegistered record), .enqueue record] ++
      (absorbed.map CleanupStep.removeAbsorbed).toList

/-- The close leaves the state, and the core is asked about the rest. -/
def removalSteps : List CleanupStep := [.popPassive, .popOpen, .clearLastError, .decideRecovery]

/-- What is announced at the end. -/
def resolutionSteps (plan : HandoverPlan) : List CleanupStep :=
  .append (.passiveCloseResolved pending.positionId) ::
    match plan with
    | .notLive => [.append (.billingEvidenceUnavailable position.positionId)]
    | _ => []

/-- The steps of a plan, with the block lifted or left. -/
def plannedSteps (external : Bool) (plan : HandoverPlan) (lifted : Bool) : List CleanupStep :=
  handoverSteps plan ++ removalSteps ++
    (if lifted then [.clearBlock, .append .legacyBlockCleared] else []) ++
    (if external then [] else resolutionSteps pending position plan)

/-- The steps of the block, whatever the core decides; the registration may raise before its
record. -/
def cleanupSteps : List CleanupStep :=
  let external := externalRecoveryObservation pending position call
  let plan := if external then some .notLive else planHandover state.runtime pending position call
  match plan with
  | none => []
  | some plan =>
    let reached := state.run pending.positionId position.symbol (handoverSteps plan ++ removalSteps)
    plannedSteps pending position external plan (clearsLegacyBlock reached.runtime.engine core)

/-- `_clear_live_flat_state` when an exception comes after a number of its steps. -/
def failedCleanup (point : Nat) : CleanupState :=
  let start := state.normalized
  let steps := (cleanupSteps start pending position call core).take point
  CleanupState.rollback start (start.run pending.positionId position.symbol steps)
    pending.positionId

end Cleanup

/-! ## Replay -/

/-- The partial records that a registration takes over. -/
def absorbedTasks (reconciliation : DynValue) : List DynValue :=
  match reconciliation.get "absorbed_partial_reconciliations" (.list []) with
  | .list absorbed => absorbed.filterMap (fun task =>
      if task.isMapping && Decidable.decide (textOf (task.get "kind") = "partial") then
        (task.get "closed_at_ms").toInt?.map (fun closedAtMs =>
          .dict [("position_id", .str (reconciliation.get "position_id").text),
            ("kind", .str "partial"), ("closed_at_ms", .int closedAtMs)])
      else none)
  | _ => []

namespace RuntimeState

variable [TextCase]

/-- A registered record is queued, takes partial records over, and owns its position. -/
def replayHandover (runtime : RuntimeState) (reconciliation : DynValue) : RuntimeState :=
  if (reconciliation.get "position_id").truthy then
    let queued := (runtime.enqueue reconciliation).pendingCloseReconciliations
    ({ runtime with
      pendingCloseReconciliations :=
        (absorbedTasks reconciliation).foldl removePendingCloseReconciliation queued
      }).clearTerminalCloseOwners (reconciliation.get "position_id").text
  else runtime

/-- `_apply_journal_replay_to_state` on a record of a cleanup. -/
def replayCleanupRecord (runtime : RuntimeState) : CleanupRecord → RuntimeState
  | .pendingCloseReconciliationRegistered record => runtime.replayHandover record.toDyn
  | .billingEvidenceUnavailable positionId =>
    if positionId = "" then runtime else runtime.clearTerminalCloseState positionId
  | .legacyBlockCleared | .passiveCloseResolved _ | .passiveCloseLiveFlatCleanupFailed _ => runtime

def replayCleanup (runtime : RuntimeState) (records : List CleanupRecord) : RuntimeState :=
  records.foldl replayCleanupRecord runtime

end RuntimeState

/-! ## What a failed cleanup leaves -/

/-- Owners of the records that a queue stores. -/
def reconciliationOwners (queue : List DynValue) : List (String × String) :=
  (setPendingCloseReconciliations (.list queue)).map reconciliationOwner

/-- The memory is what it was; the queue is normalised. -/
structure Restored (before after : CleanupState) : Prop where
  openPositions : ∀ id, after.runtime.engine.openPositions.find? id =
    before.runtime.engine.openPositions.find? id
  passiveCloses : ∀ id, after.runtime.engine.pendingPassiveCloses.find? id =
    before.runtime.engine.pendingPassiveCloses.find? id
  queue : after.runtime.pendingCloseReconciliations =
    setPendingCloseReconciliations (.list before.runtime.pendingCloseReconciliations)
  lastError : after.runtime.lastError = before.runtime.lastError
  lifecycle : after.runtime.engine.lifecycle = before.runtime.engine.lifecycle
  riskMode : after.runtime.engine.riskMode = before.runtime.engine.riskMode
  globalRiskReason : after.globalRiskReason = before.globalRiskReason
  recoveryBlockedReason :
    after.runtime.engine.recoveryBlockedReason = before.runtime.engine.recoveryBlockedReason
  recoveryBlockedAtMs :
    after.runtime.engine.recoveryBlockedAtMs = before.runtime.engine.recoveryBlockedAtMs

/-- The same open positions, passive closes and owners of reconciliations. -/
structure SameHoldings (left right : RuntimeState) : Prop where
  openPositions : ∀ id, left.engine.openPositions.contains id =
    right.engine.openPositions.contains id
  passiveCloses : ∀ id, left.engine.pendingPassiveCloses.contains id =
    right.engine.pendingPassiveCloses.contains id
  owners : ∀ owner, owner ∈ reconciliationOwners left.pendingCloseReconciliations ↔
    owner ∈ reconciliationOwners right.pendingCloseReconciliations

/-- No trace: the memory is restored, and the appended records replay to it. -/
structure Traceless [TextCase] (before after : CleanupState) : Prop where
  memory : Restored before after
  replay : SameHoldings
    (before.runtime.replayCleanup (after.journal.drop before.journal.length)) after.runtime

/-- Nothing is open or passively closing under the id. -/
structure Unheld (runtime : RuntimeState) (positionId : String) : Prop where
  closed : runtime.engine.openPositions.contains positionId = false
  passive : ∀ id pending, runtime.engine.pendingPassiveCloses.find? id = some pending →
    RuntimeState.ownedBy positionId id pending.positionId = false

/-- Whether the record takes a queued one over. -/
def LiveFlatRecord.takes [TextCase] (record : LiveFlatRecord) (item : DynValue) : Bool :=
  match record.absorbed with
  | none => false
  | some closedAtMs =>
    Decidable.decide (removalKey item = (record.positionId, "partial", closedAtMs))

/-- The record's owner is queued already, and no owner is left without a record. -/
structure OwnersKept [TextCase] (record : LiveFlatRecord) (queue : List DynValue) : Prop where
  final : (record.positionId, "final") ∈ reconciliationOwners queue
  others : ∀ item ∈ setPendingCloseReconciliations (.list queue),
    ∃ kept ∈ setPendingCloseReconciliations (.list queue),
      reconciliationOwner kept = reconciliationOwner item ∧ record.takes kept = false

/-- A record that has no owner to take from the state. -/
def CleanupRecord.Harmless [TextCase] (runtime : RuntimeState) : CleanupRecord → Prop
  | .pendingCloseReconciliationRegistered record => record.positionId = "" ∨
      (Unheld runtime record.positionId ∧ OwnersKept record runtime.pendingCloseReconciliations)
  | .billingEvidenceUnavailable positionId => positionId = "" ∨
      (Unheld runtime positionId ∧ ∀ item ∈ setPendingCloseReconciliations
        (.list runtime.pendingCloseReconciliations), textOf (item.get "position_id") ≠ positionId)
  | .legacyBlockCleared | .passiveCloseResolved _ | .passiveCloseLiveFlatCleanupFailed _ => True

/-! ## The memory -/

namespace CleanupState

theorem find_restoreKey {κ ν : Type} [DecidableEq κ] {original current : OrderedDict κ ν} {key : κ}
    (others : ∀ id, id ≠ key → current.find? id = original.find? id) (id : κ) :
    (restoreKey original current key).find? id = original.find? id := by
  rw [restoreKey]
  by_cases same : key = id
  · subst same
    cases known : original.find? key with
    | none => rw [OrderedDict.find_erase, if_pos rfl]
    | some value => rw [OrderedDict.find_insert, if_pos rfl]
  · have other := others id (Ne.symm same)
    cases original.find? key with
    | none => rw [OrderedDict.find_erase, if_neg same, other]
    | some value => rw [OrderedDict.find_insert, if_neg same, other]

/-- Positions and passive closes under other ids are as they were. -/
structure OthersKept (positionId : String) (start current : CleanupState) : Prop where
  openPositions : ∀ id, id ≠ positionId → current.runtime.engine.openPositions.find? id =
    start.runtime.engine.openPositions.find? id
  passiveCloses : ∀ id, id ≠ positionId → current.runtime.engine.pendingPassiveCloses.find? id =
    start.runtime.engine.pendingPassiveCloses.find? id

section Steps

variable [TextCase] {positionId symbol : String} {start : CleanupState}

/-- One step touches the position's id only. -/
theorem runStep_others {current : CleanupState} (kept : OthersKept positionId start current)
    (step : CleanupStep) :
    OthersKept positionId start (current.runStep positionId symbol step) := by
  cases step with
  | append record => exact ⟨kept.openPositions, kept.passiveCloses⟩
  | enqueue record => exact ⟨kept.openPositions, kept.passiveCloses⟩
  | removeAbsorbed task => exact ⟨kept.openPositions, kept.passiveCloses⟩
  | popPassive =>
    refine ⟨kept.openPositions, fun id other => ?_⟩
    rw [← kept.passiveCloses id other]
    exact (OrderedDict.find_erase _ _ _).trans (if_neg (Ne.symm other))
  | popOpen =>
    refine ⟨fun id other => ?_, kept.passiveCloses⟩
    rw [← kept.openPositions id other]
    exact (OrderedDict.find_erase _ _ _).trans (if_neg (Ne.symm other))
  | clearLastError => exact ⟨kept.openPositions, kept.passiveCloses⟩
  | decideRecovery => exact kept
  | clearBlock => exact ⟨kept.openPositions, kept.passiveCloses⟩

theorem run_others {current : CleanupState} (kept : OthersKept positionId start current)
    (steps : List CleanupStep) : OthersKept positionId start (current.run positionId symbol steps) := by
  induction steps generalizing current with
  | nil => exact kept
  | cons step rest hyp => exact hyp (runStep_others kept step)

/-- The handler restores whatever the steps did. -/
theorem rollback_restored (original : CleanupState) (steps : List CleanupStep) :
    Restored original (rollback original.normalized
      (original.normalized.run positionId symbol steps) positionId) := by
  obtain ⟨⟨engine, queue, lastError, tickCount⟩, reason, journal⟩ := original
  set start := (CleanupState.mk ⟨engine, queue, lastError, tickCount⟩ reason journal).normalized
  have kept : OthersKept positionId start (start.run positionId symbol steps) :=
    run_others ⟨fun _ _ => rfl, fun _ _ => rfl⟩ steps
  exact
    { openPositions := find_restoreKey kept.openPositions
      passiveCloses := find_restoreKey kept.passiveCloses
      queue := by
        rw [rollback_queue]
        exact normalized_queue _
      lastError := rfl
      lifecycle := rfl
      riskMode := rfl
      globalRiskReason := rfl
      recoveryBlockedReason := rfl
      recoveryBlockedAtMs := rfl }

end Steps

end CleanupState

/-! ## The records -/

namespace CleanupStep

def record : CleanupStep → Option CleanupRecord
  | append record => some record
  | _ => none

/-- What the steps append. -/
def appended (steps : List CleanupStep) : List CleanupRecord := steps.filterMap record

theorem mem_appended {steps : List CleanupStep} {record : CleanupRecord} :
    record ∈ appended steps ↔ append record ∈ steps := by
  rw [appended, List.mem_filterMap]
  constructor
  · rintro ⟨step, member, known⟩
    cases step with
    | append other =>
      obtain rfl := Option.some.inj known
      exact member
    | _ => cases known
  · intro member
    exact ⟨append record, member, rfl⟩

end CleanupStep

/-- Whether a record takes owners from the state. -/
def CleanupRecord.clears : CleanupRecord → Bool
  | pendingCloseReconciliationRegistered _ | billingEvidenceUnavailable _ => true
  | legacyBlockCleared | passiveCloseResolved _ | passiveCloseLiveFlatCleanupFailed _ => false

section Records

variable [TextCase]

theorem CleanupState.runStep_journal (state : CleanupState) (positionId symbol : String)
    (step : CleanupStep) :
    (state.runStep positionId symbol step).journal = state.journal ++ step.record.toList := by
  cases step with
  | append record => rfl
  | enqueue record | removeAbsorbed task =>
    rw [runStep, setQueue]
    exact (List.append_nil _).symm
  | _ => exact (List.append_nil _).symm

theorem CleanupState.run_journal (state : CleanupState) (positionId symbol : String)
    (steps : List CleanupStep) :
    (state.run positionId symbol steps).journal =
      state.journal ++ CleanupStep.appended steps := by
  induction steps generalizing state with
  | nil => exact (List.append_nil _).symm
  | cons step rest hyp =>
    have split : CleanupStep.appended (step :: rest) =
        step.record.toList ++ CleanupStep.appended rest := by
      rw [CleanupStep.appended, List.filterMap_cons]
      cases step.record <;> rfl
    rw [run, List.foldl_cons, ← run, hyp, runStep_journal, split, List.append_assoc]

theorem RuntimeState.replayCleanupRecord_silent (runtime : RuntimeState) {record : CleanupRecord}
    (silent : record.clears = false) : runtime.replayCleanupRecord record = runtime := by
  cases record with
  | pendingCloseReconciliationRegistered reconciliation => cases silent
  | billingEvidenceUnavailable positionId => cases silent
  | _ => rfl

/-- Records that take nothing replay as nothing. -/
theorem RuntimeState.replayCleanup_clears (runtime : RuntimeState)
    (records : List CleanupRecord) :
    runtime.replayCleanup records =
      runtime.replayCleanup (records.filter CleanupRecord.clears) := by
  induction records generalizing runtime with
  | nil => rfl
  | cons record rest hyp =>
    rw [replayCleanup, List.foldl_cons, ← replayCleanup, hyp]
    cases clears : record.clears with
    | true => rw [List.filter_cons_of_pos clears, replayCleanup, replayCleanup, List.foldl_cons]
    | false =>
      rw [List.filter_cons_of_neg (Bool.eq_false_iff.mp clears),
        runtime.replayCleanupRecord_silent clears]

/-- The records of the steps that take owners. -/
def clearing (steps : List CleanupStep) : List CleanupRecord :=
  (CleanupStep.appended steps).filter CleanupRecord.clears

omit [TextCase] in
theorem clearing_append (early late : List CleanupStep) :
    clearing (early ++ late) = clearing early ++ clearing late := by
  rw [clearing, CleanupStep.appended, List.filterMap_append, List.filter_append]
  rfl

omit [TextCase] in
/-- A plan has one step at most whose record takes owners: the registration, or the
announcement without one. -/
theorem plannedSteps_once (pending : PendingPassiveClose) (position : OpenPosition)
    (external : Bool) (plan : HandoverPlan) (lifted : Bool) :
    (clearing (plannedSteps pending position external plan lifted)).length ≤ 1 := by
  have block : clearing (if lifted then [.clearBlock, .append .legacyBlockCleared] else []) = [] := by
    cases lifted <;> rfl
  have removal : clearing removalSteps = [] := rfl
  rw [plannedSteps, clearing_append, clearing_append, clearing_append, block, removal,
    List.append_nil, List.append_nil, List.length_append]
  cases plan with
  | notLive => cases external <;> exact Nat.le_of_ble_eq_true rfl
  | registered => cases external <;> exact Nat.le_of_ble_eq_true rfl
  | register record absorbed =>
    have absorbs : clearing (absorbed.map CleanupStep.removeAbsorbed).toList = [] := by
      cases absorbed <;> rfl
    have registered : (clearing (handoverSteps (.register record absorbed))).length = 1 := by
      rw [handoverSteps, clearing_append, absorbs]
      rfl
    have resolved : (clearing (if external then [] else
        resolutionSteps pending position (.register record absorbed))).length = 0 := by
      cases external <;> rfl
    rw [registered, resolved]

theorem cleanupSteps_once (state : CleanupState) (pending : PendingPassiveClose)
    (position : OpenPosition) (call : HandoverCall) (core : RecoveryDecision) :
    (clearing (cleanupSteps state pending position call core)).length ≤ 1 := by
  unfold cleanupSteps
  extract_lets external plan
  clear_value plan
  cases plan with
  | none => exact Nat.zero_le 1
  | some plan => exact plannedSteps_once ..

end Records

/-! ## The owners after a replay -/

section Queue

variable {queue : List DynValue}

theorem owners_stored (short : queue.length ≤ maxPendingCloseReconciliations)
    (mapping : ∀ record ∈ queue, record.isMapping = true) :
    reconciliationOwners queue = queue.map reconciliationOwner := by
  rw [reconciliationOwners, set_stored short mapping]

theorem owners_set (queue : List DynValue) :
    reconciliationOwners (setPendingCloseReconciliations (.list queue)) =
      reconciliationOwners queue := by
  rw [owners_stored (set_length queue) (fun record => set_mapping), reconciliationOwners]

theorem mem_enqueue {item record : DynValue}
    (member : record ∈ enqueuePendingCloseReconciliation (.list queue) item) :
    record ∈ setPendingCloseReconciliations (.list queue) ∨ record = item :=
  (mem_enqueue_iff.mp member).imp mem_of_stays And.left

/-- An enqueued record's owner is stored. -/
theorem enqueue_owner (queue : List DynValue) (item : DynValue) :
    ∃ owner ∈ enqueuePendingCloseReconciliation (.list queue) item,
      reconciliationOwner owner = reconciliationOwner item := by
  rcases enqueue_item queue item with stored | ⟨owner, stored, same⟩
  · exact ⟨item, stored, rfl⟩
  · exact ⟨owner, stored, same⟩

/-- An item whose owner is queued moves no record out, but the one that it replaces. -/
theorem enqueue_matched {item record : DynValue}
    (known : reconciliationOwner item ∈ reconciliationOwners queue)
    (member : record ∈ setPendingCloseReconciliations (.list queue)) :
    record ∈ enqueuePendingCloseReconciliation (.list queue) item ∨
      reconciliationOwner record = reconciliationOwner item := by
  cases matched : matchedOwner (setPendingCloseReconciliations (.list queue)) item with
  | none =>
    obtain ⟨owner, stored, same⟩ := List.mem_map.mp known
    rw [matchedOwner, List.find?_eq_none] at matched
    exact absurd (decide_eq_true same) (matched owner stored)
  | some owner =>
    rw [enqueuePendingCloseReconciliation,
      newest_of_short ((place_matched_length matched).trans_le (set_length queue))]
    rcases place_keeps member with kept | ⟨replaced, -⟩
    · exact .inl kept
    · exact .inr (matchedOwner_spec replaced).2

end Queue

theorem SameHoldings.refl (runtime : RuntimeState) : SameHoldings runtime runtime :=
  ⟨fun _ => rfl, fun _ => rfl, fun _ => Iff.rfl⟩

theorem contains_erase {κ ν : Type} [DecidableEq κ] (dict : OrderedDict κ ν) (key : κ) :
    (∀ id, (dict.erase key).contains id = dict.contains id) ↔ dict.contains key = false := by
  constructor
  · intro same
    rw [← same key, OrderedDict.contains, OrderedDict.find_erase, if_pos rfl]
    rfl
  · intro absent id
    rw [OrderedDict.contains, OrderedDict.find_erase]
    split_ifs with same
    · rw [← same, absent]
      rfl
    · rfl

theorem contains_filter {κ ν : Type} [DecidableEq κ] (dict : OrderedDict κ ν)
    (keep : κ → ν → Bool) :
    (∀ id, (dict.filter keep).contains id = dict.contains id) ↔
      ∀ id value, dict.find? id = some value → keep id value = true := by
  constructor
  · intro same id value found
    have held := same id
    rw [OrderedDict.contains, OrderedDict.contains, OrderedDict.find_filter, found,
      Option.filter_some] at held
    by_contra dropped
    rw [if_neg dropped] at held
    cases held
  · intro kept id
    rw [OrderedDict.contains, OrderedDict.contains, OrderedDict.find_filter]
    cases found : dict.find? id with
    | none => rfl
    | some value => rw [Option.filter_some, if_pos (kept id value found)]

/-- Taking the owners of an id changes nothing of the positions and passive closes exactly when
nothing is held under it. -/
theorem unheld_iff (runtime : RuntimeState) (positionId : String) :
    Unheld runtime positionId ↔
      (∀ id, (runtime.clearTerminalCloseOwners positionId).engine.openPositions.contains id =
        runtime.engine.openPositions.contains id) ∧
      ∀ id, (runtime.clearTerminalCloseOwners positionId).engine.pendingPassiveCloses.contains id =
        runtime.engine.pendingPassiveCloses.contains id := by
  have positions := contains_erase runtime.engine.openPositions positionId
  have passives := contains_filter runtime.engine.pendingPassiveCloses (fun id pending =>
    !RuntimeState.ownedBy positionId id pending.positionId)
  constructor
  · intro unheld
    refine ⟨positions.mpr unheld.closed, passives.mpr fun id pending found => ?_⟩
    rw [unheld.passive id pending found]
    rfl
  · rintro ⟨open', passive⟩
    refine ⟨positions.mp open', fun id pending found => ?_⟩
    rw [← Bool.not_eq_true']
    exact passives.mp passive id pending found

/-- Dropping a position's records leaves the owners exactly when it has none stored. -/
theorem othersOf_owners (queue : List DynValue) (positionId : String) :
    (∀ owner, owner ∈ reconciliationOwners (RuntimeState.othersOf queue positionId) ↔
      owner ∈ reconciliationOwners queue) ↔
      ∀ item ∈ setPendingCloseReconciliations (.list queue),
        textOf (item.get "position_id") ≠ positionId := by
  set normal := normalizePendingCloseReconciliations (.list queue) with normalIs
  set keep : DynValue → Bool := fun item =>
    Decidable.decide (textOf (item.get "position_id") ≠ positionId)
  have others : RuntimeState.othersOf queue positionId = newest (normal.filter keep) := by
    have mapping : ∀ record ∈ normal.filter keep, normalizeItem record = id record :=
      fun record member => if_pos (normalize_mapping (List.mem_of_mem_filter member))
    rw [RuntimeState.othersOf, setPendingCloseReconciliations,
      normalizePendingCloseReconciliations, List.map_congr_left mapping, List.map_id]
  have stored : reconciliationOwners (newest (normal.filter keep)) =
      (newest (normal.filter keep)).map reconciliationOwner :=
    owners_stored (newest_length _) (fun record member =>
      normalize_mapping (List.mem_of_mem_filter (mem_newest member)))
  rw [others, stored, reconciliationOwners, setPendingCloseReconciliations, ← normalIs]
  constructor
  · intro same item member named
    obtain ⟨kept, inside, owner⟩ := List.mem_map.mp ((same _).mpr (List.mem_map_of_mem member))
    have other := of_decide_eq_true (List.mem_filter.mp (mem_newest inside)).2
    exact other ((congrArg Prod.fst owner).trans named)
  · intro others
    -- The dropped records are older than all stored ones.
    have split : normal.filter keep =
        (normal.take (normal.length - maxPendingCloseReconciliations)).filter keep ++
          newest normal := by
      have kept : (newest normal).filter keep = newest normal :=
        List.filter_eq_self.mpr (fun item member => decide_eq_true (others item member))
      rw [newest] at kept
      conv_lhs => rw [← List.take_append_drop
        (normal.length - maxPendingCloseReconciliations) normal, List.filter_append, kept]
      rw [newest]
    have same : newest (normal.filter keep) = newest normal := by
      rw [split, newest, List.length_append]
      rcases Nat.le_total normal.length maxPendingCloseReconciliations with short | long
      · rw [Nat.sub_eq_zero_of_le short, List.take_zero, List.filter_nil, List.nil_append,
          newest_of_short short, List.length_nil, Nat.zero_add, Nat.sub_eq_zero_of_le short,
          List.drop_zero]
      · have full : (newest normal).length = maxPendingCloseReconciliations := by
          rw [newest, List.length_drop]
          omega
        rw [full, Nat.add_sub_cancel, List.drop_left']
        rfl
    rw [same]
    exact fun owner => Iff.rfl

section Handover

variable [TextCase] (record : LiveFlatRecord)

omit [TextCase] in
theorem absorbedTasks_toDyn :
    absorbedTasks record.toDyn = (record.absorbed.map (fun closedAtMs =>
      .dict [("position_id", .str record.positionId), ("kind", .str "partial"),
        ("closed_at_ms", .int closedAtMs)])).toList := by
  have read : record.toDyn.get "absorbed_partial_reconciliations" (.list []) =
      match record.absorbed with
      | none => .list []
      | some closedAtMs =>
        .list [.dict [("kind", .str "partial"), ("closed_at_ms", .int closedAtMs)]] := by
    rw [LiveFlatRecord.toDyn]
    cases record.missingIdentityLegs.isEmpty <;> cases record.absorbed <;> rfl
  rw [absorbedTasks, read]
  cases record.absorbed with
  | none => rfl
  | some closedAtMs => rfl

/-- The queue after the replay of a registration. -/
theorem replayHandover_queue (runtime : RuntimeState) (named : record.positionId ≠ "") :
    (runtime.replayHandover record.toDyn).pendingCloseReconciliations =
      (enqueuePendingCloseReconciliation (.list runtime.pendingCloseReconciliations)
        record.toDyn).filter (fun item => !record.takes item) := by
  have truthy : (record.toDyn.get "position_id").truthy = true := decide_eq_true named
  set queued := enqueuePendingCloseReconciliation (.list runtime.pendingCloseReconciliations)
    record.toDyn with queuedIs
  have mapping : ∀ item ∈ queued, item.isMapping = true := by
    intro item member
    rcases mem_enqueue member with stored | rfl
    · exact set_mapping stored
    · rfl
  have short : queued.length ≤ maxPendingCloseReconciliations := enqueue_length _ _
  have queue : (runtime.replayHandover record.toDyn).pendingCloseReconciliations =
      (absorbedTasks record.toDyn).foldl removePendingCloseReconciliation queued := by
    rw [RuntimeState.replayHandover, if_pos truthy, RuntimeState.clearTerminalCloseOwners,
      RuntimeState.enqueue]
  rw [queue, absorbedTasks_toDyn]
  unfold LiveFlatRecord.takes
  cases record.absorbed with
  | none =>
    rw [Option.map_none, Option.toList_none, List.foldl_nil]
    symm
    exact List.filter_eq_self.mpr (fun item member => rfl)
  | some closedAtMs =>
    rw [Option.map_some, Option.toList_some, List.foldl_cons, List.foldl_nil,
      removePendingCloseReconciliation, set_stored short mapping]
    apply List.filter_congr
    intro item member
    have key : removalKey (.dict [("position_id", .str record.positionId),
        ("kind", .str "partial"), ("closed_at_ms", .int closedAtMs)]) =
          (record.positionId, "partial", closedAtMs) := by
      rw [removalKey]
      exact Prod.ext (textOf_str record.positionId) rfl
    rw [key, decide_not]

theorem takes_owner {item : DynValue} (taken : record.takes item = true) :
    reconciliationOwner item = (record.positionId, "partial") := by
  unfold LiveFlatRecord.takes at taken
  cases absorbed : record.absorbed with
  | none =>
    rw [absorbed] at taken
    cases taken
  | some closedAtMs =>
    rw [absorbed] at taken
    have key := of_decide_eq_true taken
    rw [removalKey, Prod.mk.injEq, Prod.mk.injEq] at key
    exact Prod.ext key.1 key.2.1

/-- A final record is not taken. -/
theorem final_kept {item : DynValue}
    (final : reconciliationOwner item = (record.positionId, "final")) :
    record.takes item = false := by
  rw [← Bool.not_eq_true]
  intro taken
  have kinds := (takes_owner record taken).symm.trans final
  rw [Prod.mk.injEq] at kinds
  exact absurd kinds.2 (by decide)

/-- The replay of a registration leaves the owners exactly when they are kept. -/
theorem replayHandover_owners (runtime : RuntimeState) (named : record.positionId ≠ "") :
    (∀ owner, owner ∈ reconciliationOwners
        (runtime.replayHandover record.toDyn).pendingCloseReconciliations ↔
      owner ∈ reconciliationOwners runtime.pendingCloseReconciliations) ↔
      OwnersKept record runtime.pendingCloseReconciliations := by
  rw [replayHandover_queue record runtime named]
  set queued := enqueuePendingCloseReconciliation (.list runtime.pendingCloseReconciliations)
    record.toDyn
  have mapping : ∀ item ∈ queued.filter (fun item => !record.takes item),
      item.isMapping = true := by
    intro item member
    rcases mem_enqueue (List.mem_of_mem_filter member) with stored | rfl
    · exact set_mapping stored
    · rfl
  have short : (queued.filter (fun item => !record.takes item)).length ≤
      maxPendingCloseReconciliations := (List.length_filter_le _ _).trans (enqueue_length _ _)
  rw [owners_stored short mapping]
  have left {item : DynValue} : item ∈ queued.filter (fun item => !record.takes item) ↔
      item ∈ queued ∧ record.takes item = false := by
    rw [List.mem_filter, Bool.not_eq_true']
  obtain ⟨final, stored, finalOwner⟩ := enqueue_owner runtime.pendingCloseReconciliations
    record.toDyn
  rw [record.owner] at finalOwner
  have finalKept := left.mpr ⟨stored, final_kept record finalOwner⟩
  constructor
  · intro same
    refine ⟨(same _).mp (List.mem_map.mpr ⟨final, finalKept, finalOwner⟩), ?_⟩
    intro item member
    obtain ⟨kept, inside, owner⟩ := List.mem_map.mp ((same _).mpr (List.mem_map_of_mem member))
    obtain ⟨among, untaken⟩ := left.mp inside
    rcases mem_enqueue among with before | rfl
    · exact ⟨kept, before, owner, untaken⟩
    · exact ⟨item, member, rfl, final_kept record (owner.symm.trans record.owner)⟩
  · rintro ⟨queuedFinal, others⟩ owner
    constructor
    · intro member
      obtain ⟨item, inside, rfl⟩ := List.mem_map.mp member
      rcases mem_enqueue (left.mp inside).1 with before | rfl
      · exact List.mem_map_of_mem before
      · rw [record.owner]
        exact queuedFinal
    · intro member
      obtain ⟨item, inside, rfl⟩ := List.mem_map.mp member
      obtain ⟨kept, before, same, untaken⟩ := others item inside
      rw [← record.owner] at queuedFinal
      rcases enqueue_matched queuedFinal before with among | replaced
      · exact List.mem_map.mpr ⟨kept, left.mpr ⟨among, untaken⟩, same⟩
      · exact List.mem_map.mpr
          ⟨final, finalKept, finalOwner.trans (record.owner.symm.trans (replaced.symm.trans same))⟩

end Handover

/-! ## A failed cleanup -/

section Failure

variable [TextCase]

/-- A record replays to the same owners exactly when it has none to take. -/
theorem harmless_iff (runtime : RuntimeState) (record : CleanupRecord) :
    SameHoldings (runtime.replayCleanupRecord record) runtime ↔ record.Harmless runtime := by
  cases record with
  | pendingCloseReconciliationRegistered record =>
    change SameHoldings (runtime.replayHandover record.toDyn) runtime ↔ _ ∨ _
    by_cases unnamed : record.positionId = ""
    · have falsy : (record.toDyn.get "position_id").truthy = false :=
        decide_eq_false (not_not.mpr unnamed)
      rw [RuntimeState.replayHandover, falsy, if_neg Bool.false_ne_true]
      exact iff_of_true (SameHoldings.refl runtime) (.inl unnamed)
    · have truthy : (record.toDyn.get "position_id").truthy = true := decide_eq_true unnamed
      have engine : (runtime.replayHandover record.toDyn).engine =
          (runtime.clearTerminalCloseOwners record.positionId).engine := by
        rw [RuntimeState.replayHandover, if_pos truthy]
        rfl
      rw [or_iff_right unnamed, unheld_iff, ← replayHandover_owners record runtime unnamed,
        ← engine]
      exact ⟨fun same => ⟨⟨same.openPositions, same.passiveCloses⟩, same.owners⟩,
        fun held => ⟨held.1.1, held.1.2, held.2⟩⟩
  | billingEvidenceUnavailable positionId =>
    change SameHoldings (if positionId = "" then runtime
      else runtime.clearTerminalCloseState positionId) runtime ↔ _ ∨ _
    by_cases unnamed : positionId = ""
    · rw [if_pos unnamed]
      exact iff_of_true (SameHoldings.refl runtime) (.inl unnamed)
    · have engine : (runtime.clearTerminalCloseState positionId).engine =
          (runtime.clearTerminalCloseOwners positionId).engine := by
        rw [RuntimeState.clearTerminalCloseState]
      have queue : (runtime.clearTerminalCloseState positionId).pendingCloseReconciliations =
          RuntimeState.othersOf runtime.pendingCloseReconciliations positionId := by
        rw [RuntimeState.clearTerminalCloseState, RuntimeState.clearTerminalCloseOwners]
      rw [if_neg unnamed, or_iff_right unnamed, unheld_iff, ← engine,
        ← othersOf_owners runtime.pendingCloseReconciliations positionId, ← queue]
      exact ⟨fun same => ⟨⟨same.openPositions, same.passiveCloses⟩, same.owners⟩,
        fun held => ⟨held.1.1, held.1.2, held.2⟩⟩
  | legacyBlockCleared => exact iff_of_true (SameHoldings.refl runtime) trivial
  | passiveCloseResolved positionId => exact iff_of_true (SameHoldings.refl runtime) trivial
  | passiveCloseLiveFlatCleanupFailed positionId =>
    exact iff_of_true (SameHoldings.refl runtime) trivial

omit [TextCase] in
/-- The restored state holds what the state before held. -/
theorem sameHoldings_restored {before after : CleanupState} (memory : Restored before after)
    (replayed : RuntimeState) :
    SameHoldings replayed after.runtime ↔ SameHoldings replayed before.runtime := by
  have positions (id : String) : after.runtime.engine.openPositions.contains id =
      before.runtime.engine.openPositions.contains id :=
    congrArg Option.isSome (memory.openPositions id)
  have passives (id : String) : after.runtime.engine.pendingPassiveCloses.contains id =
      before.runtime.engine.pendingPassiveCloses.contains id :=
    congrArg Option.isSome (memory.passiveCloses id)
  have owners : reconciliationOwners after.runtime.pendingCloseReconciliations =
      reconciliationOwners before.runtime.pendingCloseReconciliations := by
    rw [memory.queue, owners_set]
  constructor
  · rintro ⟨openPositions, passiveCloses, held⟩
    refine ⟨fun id => ?_, fun id => ?_, fun owner => ?_⟩
    · rw [openPositions, positions]
    · rw [passiveCloses, passives]
    · rw [held, owners]
  · rintro ⟨openPositions, passiveCloses, held⟩
    refine ⟨fun id => ?_, fun id => ?_, fun owner => ?_⟩
    · rw [openPositions, positions]
    · rw [passiveCloses, passives]
    · rw [held, owners]

variable (state : CleanupState) (pending : PendingPassiveClose) (position : OpenPosition)
  (call : HandoverCall) (core : RecoveryDecision) (point : Nat)

theorem failedCleanup_restored :
    Restored state (failedCleanup state pending position call core point) :=
  CleanupState.rollback_restored state _

/-- The replay of a failed cleanup sees the records that take owners only. -/
theorem failedCleanup_replay :
    state.runtime.replayCleanup ((failedCleanup state pending position call core point).journal.drop
        state.journal.length) =
      state.runtime.replayCleanup (clearing
        ((cleanupSteps state.normalized pending position call core).take point)) := by
  set steps := (cleanupSteps state.normalized pending position call core).take point with stepsIs
  have journal : (failedCleanup state pending position call core point).journal =
      state.journal ++ (CleanupStep.appended steps ++
        [.passiveCloseLiveFlatCleanupFailed pending.positionId]) := by
    rw [failedCleanup, ← stepsIs, CleanupState.rollback, CleanupState.append,
      CleanupState.run_journal, ← List.append_assoc, CleanupState.normalized,
      CleanupState.setQueue]
  rw [journal, List.drop_left, RuntimeState.replayCleanup_clears, List.filter_append,
    List.filter_singleton, clearing]
  rw [show CleanupRecord.clears (.passiveCloseLiveFlatCleanupFailed pending.positionId) = false
    from rfl, cond_false, List.append_nil]

/-- A failed cleanup replays to the state before exactly when no step before the exception
appended a record that takes an owner of it. -/
theorem failedCleanup_owners :
    SameHoldings (state.runtime.replayCleanup
        ((failedCleanup state pending position call core point).journal.drop
          state.journal.length)) state.runtime ↔
      ∀ record, CleanupStep.append record ∈
          (cleanupSteps state.normalized pending position call core).take point →
        record.Harmless state.runtime := by
  rw [failedCleanup_replay]
  set all := cleanupSteps state.normalized pending position call core with allIs
  have taken : (clearing (all.take point)).Sublist (clearing all) := by
    rw [clearing, clearing, CleanupStep.appended, CleanupStep.appended]
    exact ((List.take_sublist point all).filterMap _).filter _
  have once : (clearing (all.take point)).length ≤ 1 := by
    rw [allIs] at taken
    exact taken.length_le.trans (cleanupSteps_once ..)
  have harmless (record : CleanupRecord) : CleanupStep.append record ∈ all.take point →
      record.Harmless state.runtime ∨ record ∈ clearing (all.take point) := by
    intro member
    cases clears : record.clears with
    | true =>
      exact .inr (List.mem_filter.mpr ⟨CleanupStep.mem_appended.mpr member, clears⟩)
    | false =>
      refine .inl ((harmless_iff state.runtime record).mp ?_)
      rw [state.runtime.replayCleanupRecord_silent clears]
      exact SameHoldings.refl _
  match known : clearing (all.take point), once with
  | [], _ =>
    refine iff_of_true (SameHoldings.refl _) (fun record member => ?_)
    rcases harmless record member with holds | among
    · exact holds
    · rw [known] at among
      cases among
  | [only], _ =>
    change SameHoldings (state.runtime.replayCleanupRecord only) state.runtime ↔ _
    rw [harmless_iff]
    constructor
    · intro holds record member
      rcases harmless record member with here | among
      · exact here
      · rw [known] at among
        rw [List.mem_singleton.mp among]
        exact holds
    · intro holds
      have member : only ∈ clearing (all.take point) := by
        rw [known]
        exact List.mem_singleton_self only
      exact holds only (CleanupStep.mem_appended.mp (List.mem_of_mem_filter member))

/-- A failed cleanup leaves no trace exactly when no step before the exception appended a
record that takes an owner: the memory is always restored. -/
theorem failedCleanup_traceless :
    Traceless state (failedCleanup state pending position call core point) ↔
      ∀ record, CleanupStep.append record ∈
          (cleanupSteps state.normalized pending position call core).take point →
        record.Harmless state.runtime := by
  have memory := failedCleanup_restored state pending position call core point
  rw [← failedCleanup_owners, ← sameHoldings_restored memory]
  exact ⟨fun traceless => traceless.replay, fun replay => ⟨memory, replay⟩⟩

end Failure

section Example

local instance cleanupCase : TextCase := .ascii

/-- An open pair whose close has filled both legs. -/
def heldState : CleanupState where
  runtime :=
    { engine :=
        { openPositions := OrderedDict.empty.insert "p1" closedPair
          pendingPassiveCloses := OrderedDict.empty.insert "p1" (closedBy [1]) } }

def cleanDecision : RecoveryDecision where
  kind := .runningClean
  evidenceClass := .completeFlat
  entryAllowed := true

/-- The record that the pair's close registers. -/
def heldRecord : LiveFlatRecord :=
  liveFlatRecord heldState.normalized.runtime (closedBy [1]) closedPair flatCall

theorem heldState_registers :
    planHandover heldState.normalized.runtime (closedBy [1]) closedPair flatCall =
      some (.register heldRecord none) := by
  have absorbs : absorbedPartial heldState.normalized.runtime (closedBy [1]) closedPair flatCall =
      none := by
    rw [absorbedPartial]
    split_ifs <;> rfl
  change some (HandoverPlan.register _ ((absorbedPartial _ _ _ _).map AbsorbedPartial.task)) = _
  rw [absorbs]
  rfl

theorem heldState_steps :
    (cleanupSteps heldState.normalized (closedBy [1]) closedPair flatCall cleanDecision).take 6 =
      [.append (.pendingCloseReconciliationRegistered heldRecord), .enqueue heldRecord,
        .popPassive, .popOpen, .clearLastError, .decideRecovery] := by
  have internal : externalRecoveryObservation (closedBy [1]) closedPair flatCall = false := by
    decide +kernel
  unfold cleanupSteps
  rw [internal]
  dsimp only
  rw [if_neg Bool.false_ne_true, heldState_registers]
  rfl

/-- The core raises: the pair is open again, but a replay of the registration closes it. -/
theorem raised_decision_loses_pair :
    (cleanupSteps heldState.normalized (closedBy [1]) closedPair flatCall cleanDecision)[5]? =
        some .decideRecovery ∧
      ¬ Traceless heldState
        (failedCleanup heldState (closedBy [1]) closedPair flatCall cleanDecision 5) := by
  have steps := heldState_steps
  constructor
  · rw [← List.getElem?_take_of_lt (show 5 < 6 by decide), steps]
    rfl
  · intro traceless
    have memory := failedCleanup_restored heldState (closedBy [1]) closedPair flatCall cleanDecision 5
    have replay := (sameHoldings_restored memory _).mp traceless.replay
    have taken : CleanupStep.append (.pendingCloseReconciliationRegistered heldRecord) ∈
        (cleanupSteps heldState.normalized (closedBy [1]) closedPair flatCall cleanDecision).take
          5 := by
      rw [show (5 : Nat) = min 5 6 from rfl, ← List.take_take, steps]
      exact List.mem_cons_self
    rcases (failedCleanup_owners ..).mp replay _ taken with unnamed | ⟨unheld, -⟩
    · exact absurd unnamed (by decide)
    · exact absurd unheld.closed (by decide)

end Example

end LightFee.Engine
