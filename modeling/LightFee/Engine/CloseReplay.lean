import LightFee.Engine.CloseQuiet

/-!
# Replaying a close

After a restart the records that a close appended are applied to the state before it.
The write-back and the replay are compared by their positions, their pending closes and
the owners of their close reconciliations.

A terminal record removes every owner of its position, and so does the registration of a
reconciliation; the record of a partial close is read under a key that no close writes.
So the replay is right for closes that announce nothing, and for those that end the
position and leave no other owner of it behind.
-/

namespace LightFee.Engine

open LightFee.Venues DynValue

/-! ## Replaying records -/

namespace CloseRecord

/-- `payload.get(key, "")`. -/
def text (record : CloseRecord) (key : String) (default : String := "") : String :=
  match record.get? key with
  | some (.text value) => value
  | _ => default

def flag (record : CloseRecord) (key : String) (default : Bool) : Bool :=
  match record.get? key with
  | some (.bool value) => value
  | _ => default

def integer (record : CloseRecord) (key : String) (default : Int) : Int :=
  match record.get? key with
  | some (.int value) => value
  | _ => default

def number (record : CloseRecord) (key : String) : ExactFloat :=
  match record.get? key with
  | some (.number value) => value
  | _ => .finite 0

end CloseRecord

namespace RuntimeState

def ownedBy (positionId key owner : String) : Bool :=
  decide (key = positionId) || decide (owner = positionId)

/-- `_clear_terminal_close_owners`. -/
def clearTerminalCloseOwners (runtime : RuntimeState) (positionId : String) : RuntimeState :=
  let engine := runtime.engine
  let cleared := { engine with
    openPositions := engine.openPositions.erase positionId
    pendingCloses := engine.pendingCloses.filter (fun id pending =>
      !ownedBy positionId id pending.positionId)
    pendingPassiveCloses := engine.pendingPassiveCloses.filter (fun id pending =>
      !ownedBy positionId id pending.positionId)
    pendingResidualRepairs := engine.pendingResidualRepairs.filter (fun repair =>
      !(repair.isMapping && decide (textOf (repair.get "position_id") = positionId))) }
  { runtime with engine := cleared }

/-- The reconciliations of other positions. -/
def othersOf (queue : List DynValue) (positionId : String) : List DynValue :=
  setPendingCloseReconciliations (.list
    ((normalizePendingCloseReconciliations (.list queue)).filter (fun item =>
      decide (textOf (item.get "position_id") ≠ positionId))))

/-- `_clear_terminal_close_state`. -/
def clearTerminalCloseState (runtime : RuntimeState) (positionId : String) : RuntimeState :=
  let cleared := runtime.clearTerminalCloseOwners positionId
  { cleared with
    pendingCloseReconciliations := othersOf cleared.pendingCloseReconciliations positionId }

def enqueue (runtime : RuntimeState) (reconciliation : DynValue) : RuntimeState :=
  { runtime with
    pendingCloseReconciliations := enqueuePendingCloseReconciliation
      (.list runtime.pendingCloseReconciliations) reconciliation }

/-- A registered reconciliation is queued, and owns its position from then on. -/
def replayRegistration (runtime : RuntimeState) (reconciliation : DynValue) : RuntimeState :=
  if (reconciliation.get "position_id").truthy then
    (runtime.enqueue reconciliation).clearTerminalCloseOwners
      (reconciliation.get "position_id").text
  else runtime

def restoredPendingClose (record : CloseRecord) : PendingClose where
  closeId := record.text "close_id"
  positionId := record.text "position_id"
  reason := record.text "reason" "recovery_replay"
  createdAtMs := record.integer "created_at_ms" 0
  longOrderId := record.text "long_order_id"
  shortOrderId := record.text "short_order_id"
  longClientOrderId := record.text "long_client_order_id"
  shortClientOrderId := record.text "short_client_order_id"
  longClosed := record.number "long_closed"
  shortClosed := record.number "short_closed"
  longUncertain := record.flag "long_uncertain" false
  shortUncertain := record.flag "short_uncertain" true
  chunkIndex := record.integer "chunk_index" 0
  totalChunks := record.integer "chunk_count" (record.integer "total_chunks" 1)

/-- A pending close is restored unless the state has one of its id. -/
def replayPendingClose (runtime : RuntimeState) (record : CloseRecord) : RuntimeState :=
  let closeId := record.text "close_id"
  if closeId ≠ "" ∧ runtime.engine.pendingCloses.contains closeId = false then
    { runtime with
      engine := { runtime.engine with
        pendingCloses := runtime.engine.pendingCloses.insert closeId
          (restoredPendingClose record) } }
  else runtime

/-- A partial close reduces both legs by what both closed. -/
def replayPartialClose (runtime : RuntimeState) (record : CloseRecord) : RuntimeState :=
  let positionId := record.text "position_id"
  let matchedClosed := record.number "matched_closed"
  match runtime.engine.openPositions.find? positionId with
  | none => runtime
  | some position =>
    if positionId ≠ "" ∧ (ExactFloat.finite 0).lt matchedClosed = true then
      let reduced := { position with
        longQuantity := (position.longQuantity.sub matchedClosed).max (.finite 0)
        shortQuantity := (position.shortQuantity.sub matchedClosed).max (.finite 0)
        matchedQuantity := (position.matchedQuantity.sub matchedClosed).max (.finite 0) }
      { runtime with
        engine := { runtime.engine with
          openPositions := runtime.engine.openPositions.insert positionId reduced } }
    else runtime

/-- `_apply_journal_replay_to_state` on a record of a close. Summaries of older versions,
and the other kinds of the journal, are appended by no close. -/
def replayRecord (runtime : RuntimeState) (record : CloseRecord) : RuntimeState :=
  if record.kind = "exit.closed" then
    if record.text "position_id" = "" then runtime
    else runtime.clearTerminalCloseState (record.text "position_id")
  else if record.kind = "exit.pending_close_reconciliation_registered" then
    match record.get? "reconciliation" with
    | some (.record reconciliation) => runtime.replayRegistration reconciliation
    | _ => runtime
  else if record.kind = "exit.pending_close_registered" then runtime.replayPendingClose record
  else if record.kind = "exit.partial_closed" then runtime.replayPartialClose record
  else runtime

def replay (runtime : RuntimeState) (records : List CloseRecord) : RuntimeState :=
  records.foldl replayRecord runtime

theorem replay_append (runtime : RuntimeState) (early late : List CloseRecord) :
    runtime.replay (early ++ late) = (runtime.replay early).replay late :=
  List.foldl_append ..

theorem replayRecord_other (runtime : RuntimeState) {kind : String}
    (payload : List (String × PayloadValue)) (other : kind ∉ replayedKinds) :
    runtime.replayRecord ⟨kind, payload⟩ = runtime := by
  simp only [replayedKinds, List.mem_cons, List.not_mem_nil, or_false, not_or] at other
  rw [replayRecord, if_neg other.1, if_neg other.2.1, if_neg other.2.2.1, if_neg other.2.2.2]

theorem replayRecord_partial (runtime : RuntimeState) (payload : List (String × PayloadValue)) :
    runtime.replayRecord ⟨"exit.partial_closed", payload⟩ =
      runtime.replayPartialClose ⟨"exit.partial_closed", payload⟩ := by
  rw [replayRecord]
  rfl

theorem replay_quiet (runtime : RuntimeState) {records : List CloseRecord}
    (quiet : ∀ record ∈ records, record.kind ∉ replayedKinds) :
    runtime.replay records = runtime := by
  induction records with
  | nil => rfl
  | cons record rest ih =>
    rw [replay, List.foldl_cons, replayRecord_other runtime record.payload (quiet record List.mem_cons_self)]
    exact ih (fun other member => quiet other (List.mem_cons_of_mem _ member))

end RuntimeState

/-! ## The records of each step -/

namespace CloseState

/-- The replay of what the state's journal holds. -/
def replayed (state : CloseState) (base : RuntimeState) : RuntimeState := base.replay state.journal

variable (base : RuntimeState)

theorem replayed_quiet {before after : CloseState} (quiet : Quiet before after) :
    after.replayed base = before.replayed base := by
  obtain ⟨records, appended, silent⟩ := quiet.journal
  rw [replayed, appended, RuntimeState.replay_append, RuntimeState.replay_quiet _ silent, replayed]

theorem replayed_append (state : CloseState) (kind : String)
    (payload : List (String × PayloadValue)) :
    (state.append kind payload).replayed base =
      (state.replayed base).replayRecord ⟨kind, payload⟩ := by
  rw [replayed, append_journal, RuntimeState.replay_append]
  rfl

@[simp] theorem replayed_enqueue (state : CloseState) (item : DynValue) :
    (state.enqueueReconciliation item).replayed base = state.replayed base := by
  rw [enqueueReconciliation, replayed, replayed]

/-- A registration replays as one. -/
theorem replayed_register (state : CloseState) (position : OpenPosition)
    (collected : CollectedClose) (call : CloseCall) (source : String) (gaps : List String) :
    (registerCloseAccountingReconciliation state position collected call source gaps).replayed
        base =
      (state.replayed base).replayRegistration
        (closeReconciliation position collected call state.runtime.tickCount source) := by
  rw [registerCloseAccountingReconciliation, replayed_enqueue, replayed_append]
  rfl

theorem replayed_registerGaps (state : CloseState) (position : OpenPosition)
    (collected : CollectedClose) (call : CloseCall) (gaps : List String) :
    (state.registerGaps position collected call gaps).replayed base =
      if gaps.isEmpty then state.replayed base
      else (state.replayed base).replayRegistration (closeReconciliation position collected call
        state.runtime.tickCount "aggressive_close_execution") := by
  rw [registerGaps]
  split_ifs
  · rfl
  · exact replayed_register ..

theorem replayed_recordResidual [TextCase] (state : CloseState) (position : OpenPosition)
    (collected : CollectedClose) (call : CloseCall) :
    (state.recordResidual position collected call).replayed base = state.replayed base := by
  rw [recordResidual]
  split
  · rfl
  · rw [recordRepair, replayed]
    exact (replayed_append base state _ _).trans
      (RuntimeState.replayRecord_other _ _ (by decide))

theorem replayed_putPosition (state : CloseState) (position : OpenPosition) :
    (state.putPosition position).replayed base = state.replayed base := by
  rw [putPosition]
  split_ifs <;> rfl

theorem replayed_registerUncertain (state : CloseState) (position : OpenPosition)
    (collected : CollectedClose) (call : CloseCall) :
    (state.registerUncertain position collected call).replayed base =
      if collected.anyLongUncertain || collected.anyShortUncertain then
        (state.replayed base).replayPendingClose ⟨"exit.pending_close_registered",
          pendingClosePayload (pendingCloseOf position collected call)⟩
      else state.replayed base := by
  rw [registerUncertain]
  split_ifs
  · rw [registerPendingClose, replayed_append]
    rfl
  · rfl

/-- The record of a partial close replays as nothing: it does not carry the quantity that
the replay reads. -/
theorem replayed_announcePartial (state : CloseState) (written : OpenPosition)
    (collected : CollectedClose) (call : CloseCall) (gaps : List String) :
    (state.announcePartial written collected call gaps).replayed base = state.replayed base := by
  rw [announcePartial]
  split_ifs
  · have nothing : (CloseRecord.mk "exit.partial_closed"
        (partialClosedPayload written collected call (call.closeId written) gaps)).number
          "matched_closed" = .finite 0 := rfl
    rw [replayed_append, RuntimeState.replayRecord_partial, RuntimeState.replayPartialClose]
    dsimp only
    rw [nothing]
    split
    · rfl
    · rw [if_neg (by simp)]
  · rfl

theorem replayed_retire (state : CloseState) (written : OpenPosition) :
    (state.retire written).replayed base = state.replayed base := by
  rw [retire]
  split_ifs
  · rfl
  · exact (replayed_append base state _ _).trans (RuntimeState.replayRecord_other _ _ (by decide))
  · rfl

theorem replayed_announceClosed (state : CloseState) (position : OpenPosition)
    (close : CloseExecution) (collected : CollectedClose) (call : CloseCall) (gaps : List String) :
    (state.announceClosed position close collected call gaps).replayed base =
      if (fillDust.lt (closedQuantity collected.longLegs) ||
          fillDust.lt (closedQuantity collected.shortLegs)) && gaps.isEmpty then
        (if position.positionId = "" then state.replayed base
          else (state.replayed base).clearTerminalCloseState position.positionId)
      else state.replayed base := by
  rw [announceClosed]
  split_ifs with announced unnamed
  · rw [replayed_append, RuntimeState.replayRecord, if_pos rfl]
    exact if_pos unnamed
  · rw [replayed_append, RuntimeState.replayRecord, if_pos rfl]
    exact if_neg unnamed
  · rfl

end CloseState

/-! ## The state after a write-back -/

namespace CloseState

theorem registerGaps_pendingCloses (state : CloseState) (position : OpenPosition)
    (collected : CollectedClose) (call : CloseCall) (gaps : List String) :
    (state.registerGaps position collected call gaps).runtime.engine.pendingCloses =
      state.runtime.engine.pendingCloses := by
  rw [registerGaps]
  split_ifs
  · rfl
  · rw [registerCloseAccountingReconciliation, enqueueReconciliation]
    rfl

theorem registerGaps_reconciliations (state : CloseState) (position : OpenPosition)
    (collected : CollectedClose) (call : CloseCall) (gaps : List String) :
    (state.registerGaps position collected call gaps).runtime.pendingCloseReconciliations =
      if gaps.isEmpty then state.runtime.pendingCloseReconciliations
      else enqueuePendingCloseReconciliation (.list state.runtime.pendingCloseReconciliations)
        (closeReconciliation position collected call state.runtime.tickCount
          "aggressive_close_execution") := by
  rw [registerGaps]
  split_ifs
  · rfl
  · rw [registerCloseAccountingReconciliation, enqueueReconciliation, append_runtime]

theorem recordResidual_pendingCloses [TextCase] (state : CloseState) (position : OpenPosition)
    (collected : CollectedClose) (call : CloseCall) :
    (state.recordResidual position collected call).runtime.engine.pendingCloses =
      state.runtime.engine.pendingCloses := by
  rw [recordResidual]
  split <;> rfl

theorem recordResidual_reconciliations [TextCase] (state : CloseState) (position : OpenPosition)
    (collected : CollectedClose) (call : CloseCall) :
    (state.recordResidual position collected call).runtime.pendingCloseReconciliations =
      state.runtime.pendingCloseReconciliations := by
  rw [recordResidual]
  split <;> rfl

theorem putPosition_others (state : CloseState) (position : OpenPosition) :
    (state.putPosition position).runtime.engine.pendingCloses =
        state.runtime.engine.pendingCloses ∧
      (state.putPosition position).runtime.pendingCloseReconciliations =
        state.runtime.pendingCloseReconciliations := by
  rw [putPosition]
  split_ifs <;> exact ⟨rfl, rfl⟩

theorem retire_others (state : CloseState) (written : OpenPosition) :
    (state.retire written).runtime.engine.pendingCloses = state.runtime.engine.pendingCloses ∧
      (state.retire written).runtime.pendingCloseReconciliations =
        state.runtime.pendingCloseReconciliations := by
  rw [retire]
  split_ifs <;> exact ⟨rfl, rfl⟩

theorem registerUncertain_others (state : CloseState) (position : OpenPosition)
    (collected : CollectedClose) (call : CloseCall) :
    (state.registerUncertain position collected call).runtime.engine.pendingCloses =
        (if collected.anyLongUncertain || collected.anyShortUncertain then
          state.runtime.engine.pendingCloses.insert (call.closeId position)
            (pendingCloseOf position collected call)
        else state.runtime.engine.pendingCloses) ∧
      (state.registerUncertain position collected call).runtime.pendingCloseReconciliations =
        state.runtime.pendingCloseReconciliations := by
  rw [registerUncertain]
  split_ifs <;> exact ⟨rfl, rfl⟩

end CloseState

section Finish

variable [TextCase] (state : CloseState) (position : OpenPosition) (collected : CollectedClose)
  (call : CloseCall)

omit [TextCase] in
theorem writeback_others (close : CloseExecution) (gaps : List String) :
    (writebackToState state position close collected call gaps).runtime.engine.pendingCloses =
        (if collected.anyLongUncertain || collected.anyShortUncertain then
          state.runtime.engine.pendingCloses.insert (call.closeId position)
            (pendingCloseOf position collected call)
        else state.runtime.engine.pendingCloses) ∧
      (writebackToState state position close collected call
        gaps).runtime.pendingCloseReconciliations = state.runtime.pendingCloseReconciliations := by
  rw [writebackToState, (CloseState.retire_others _ _).1, (CloseState.retire_others _ _).2,
    CloseState.announcePartial_runtime, (CloseState.registerUncertain_others _ _ _ _).1,
    (CloseState.registerUncertain_others _ _ _ _).2, (CloseState.putPosition_others _ _).1,
    (CloseState.putPosition_others _ _).2]
  exact ⟨rfl, rfl⟩

theorem finishClose_pendingCloses (something : collected.settle.isEmpty = false) :
    (finishClose state position collected call).2.1.runtime.engine.pendingCloses =
      if collected.settle.anyLongUncertain || collected.settle.anyShortUncertain then
        state.runtime.engine.pendingCloses.insert (call.closeId position)
          (pendingCloseOf position collected.settle call)
      else state.runtime.engine.pendingCloses := by
  rw [finishClose, if_neg (by rw [something]; decide), CloseState.announceClosed_runtime,
    (writeback_others _ _ _ _ _ _).1, CloseState.recordResidual_pendingCloses,
    CloseState.registerGaps_pendingCloses]

theorem finishClose_reconciliations (something : collected.settle.isEmpty = false) :
    (finishClose state position collected call).2.1.runtime.pendingCloseReconciliations =
      if (collected.settle.evidenceGaps position).isEmpty then
        state.runtime.pendingCloseReconciliations
      else enqueuePendingCloseReconciliation (.list state.runtime.pendingCloseReconciliations)
        (closeReconciliation position collected.settle call state.runtime.tickCount
          "aggressive_close_execution") := by
  rw [finishClose, if_neg (by rw [something]; decide), CloseState.announceClosed_runtime,
    (writeback_others _ _ _ _ _ _).2, CloseState.recordResidual_reconciliations,
    CloseState.registerGaps_reconciliations]

/-- The replay of a close: its registration, its pending close and its terminal record. -/
theorem finishClose_replayed (base : RuntimeState)
    (something : collected.settle.isEmpty = false) :
    let gaps := collected.settle.evidenceGaps position
    let registered := if gaps.isEmpty then state.replayed base
      else (state.replayed base).replayRegistration (closeReconciliation position
        collected.settle call state.runtime.tickCount "aggressive_close_execution")
    let pending := if collected.settle.anyLongUncertain || collected.settle.anyShortUncertain then
        registered.replayPendingClose ⟨"exit.pending_close_registered",
          pendingClosePayload (pendingCloseOf position collected.settle call)⟩
      else registered
    (finishClose state position collected call).2.1.replayed base =
      if (fillDust.lt (closedQuantity collected.longLegs) ||
          fillDust.lt (closedQuantity collected.shortLegs)) && gaps.isEmpty then
        (if position.positionId = "" then pending
          else pending.clearTerminalCloseState position.positionId)
      else pending := by
  intro gaps registered pending
  rw [finishClose, if_neg (by rw [something]; decide)]
  apply (CloseState.replayed_announceClosed base _ _ _ _ _ _).trans
  have written (close : CloseExecution) : (writebackToState
      ((state.registerGaps position collected.settle call gaps).recordResidual position
        collected.settle call) position close collected.settle call gaps).replayed base =
      pending := by
    rw [writebackToState, CloseState.replayed_retire, CloseState.replayed_announcePartial,
      CloseState.replayed_registerUncertain, CloseState.replayed_putPosition,
      CloseState.replayed_recordResidual, CloseState.replayed_registerGaps]
  rw [written]
  rfl

end Finish

/-! ## Comparing both states -/

/-- The quantities of a position. -/
def OpenPosition.sizes (position : OpenPosition) : ExactFloat × ExactFloat × ExactFloat :=
  (position.longQuantity, position.shortQuantity, position.matchedQuantity)

/-- A reconciliation's position and kind, its time, and the order identities of its legs. -/
def closeOwner (item : DynValue) :
    (String × String) × DynValue × List (String × String) × List (String × String) :=
  (reconciliationOwner item, item.get "closed_at_ms",
    (legGroup item "long_legs").filterMap legIdentity,
    (legGroup item "short_legs").filterMap legIdentity)

def SameOwners (left right : List DynValue) : Prop :=
  ∀ owner, owner ∈ left.map closeOwner ↔ owner ∈ right.map closeOwner

structure SameClose (live replayed : RuntimeState) : Prop where
  positions : ∀ id, (live.engine.openPositions.find? id).map OpenPosition.sizes =
    (replayed.engine.openPositions.find? id).map OpenPosition.sizes
  pendingCloses : ∀ id, live.engine.pendingCloses.contains id =
    replayed.engine.pendingCloses.contains id
  reconciliations :
    SameOwners live.pendingCloseReconciliations replayed.pendingCloseReconciliations

theorem SameOwners.refl (queue : List DynValue) : SameOwners queue queue := fun _ => .rfl

theorem closeId_ne_empty (call : CloseCall) (position : OpenPosition) :
    call.closeId position ≠ "" := by
  rw [CloseCall.closeId, String.append_assoc, String.append_assoc]
  intro empty
  have texts := congrArg String.toList empty
  simp at texts

namespace RuntimeState

/-- A pending close that is replayed is there afterwards. -/
theorem replayPendingClose_contains (runtime : RuntimeState) (pending : PendingClose)
    (named : pending.closeId ≠ "") (id : String) :
    (runtime.replayPendingClose ⟨"exit.pending_close_registered",
      pendingClosePayload pending⟩).engine.pendingCloses.contains id =
      (decide (pending.closeId = id) || runtime.engine.pendingCloses.contains id) := by
  have closeId : (CloseRecord.mk "exit.pending_close_registered"
      (pendingClosePayload pending)).text "close_id" = pending.closeId := rfl
  rw [replayPendingClose]
  dsimp only
  rw [closeId]
  split_ifs with fresh
  · simp only [OrderedDict.contains, OrderedDict.find_insert]
    split_ifs with same
    · simp [same]
    · simp [same]
  · have known : runtime.engine.pendingCloses.contains pending.closeId = true := by
      by_contra absent
      exact fresh ⟨named, Bool.not_eq_true _ ▸ absent⟩
    by_cases same : pending.closeId = id
    · rw [← same, known]
      simp
    · simp [same]

theorem replayPendingClose_positions (runtime : RuntimeState) (record : CloseRecord) :
    (runtime.replayPendingClose record).engine.openPositions = runtime.engine.openPositions := by
  rw [replayPendingClose]
  split_ifs <;> rfl

theorem replayPendingClose_reconciliations (runtime : RuntimeState) (record : CloseRecord) :
    (runtime.replayPendingClose record).pendingCloseReconciliations =
      runtime.pendingCloseReconciliations := by
  rw [replayPendingClose]
  split_ifs <;> rfl

/-- The pending closes that a terminal record leaves. -/
theorem cleared_pendingCloses (runtime : RuntimeState) (positionId id : String) :
    (runtime.clearTerminalCloseOwners positionId).engine.pendingCloses.contains id = true ↔
      ∃ pending, runtime.engine.pendingCloses.find? id = some pending ∧
        ownedBy positionId id pending.positionId = false := by
  have filtered : (runtime.clearTerminalCloseOwners positionId).engine.pendingCloses =
      runtime.engine.pendingCloses.filter (fun id pending =>
        !ownedBy positionId id pending.positionId) := rfl
  rw [filtered, OrderedDict.contains, OrderedDict.find_filter, Option.isSome_iff_exists]
  simp only [Option.filter_eq_some_iff, Bool.not_eq_true']

theorem cleared_reconciliations (runtime : RuntimeState) (positionId : String) :
    (runtime.clearTerminalCloseOwners positionId).pendingCloseReconciliations =
      runtime.pendingCloseReconciliations := by
  rw [clearTerminalCloseOwners]

theorem enqueue_engine (runtime : RuntimeState) (item : DynValue) :
    (runtime.enqueue item).engine = runtime.engine := by
  rw [enqueue]

theorem cleared_positions (runtime : RuntimeState) (positionId id : String) :
    (runtime.clearTerminalCloseOwners positionId).engine.openPositions.find? id =
      if positionId = id then none else runtime.engine.openPositions.find? id := by
  have erased : (runtime.clearTerminalCloseOwners positionId).engine.openPositions =
      runtime.engine.openPositions.erase positionId := rfl
  rw [erased, OrderedDict.find_erase]

end RuntimeState

section Condition

variable (runtime : RuntimeState) (position : OpenPosition) (collected : CollectedClose)
  (call : CloseCall)

/-- The close tells recovery that its position is over: it is billed, or a reconciliation
is registered for it. -/
def announcesEnd : Bool :=
  decide (position.positionId ≠ "") && (!(collected.evidenceGaps position).isEmpty ||
    fillDust.lt (closedQuantity collected.longLegs) ||
    fillDust.lt (closedQuantity collected.shortLegs))

/-- No pending close of the position but the one that this close registers. -/
def OnlyPendingClose : Prop :=
  ∀ id pending, runtime.engine.pendingCloses.find? id = some pending →
    RuntimeState.ownedBy position.positionId id pending.positionId = true →
    (collected.anyLongUncertain || collected.anyShortUncertain) = true ∧
      call.closeId position = id

/-- The position after the fills of a close. -/
def reducedBy : OpenPosition :=
  reduceQuantities position (closedQuantity collected.longLegs)
    (closedQuantity collected.shortLegs)

/-- A close that announces the end ends the position, and nothing else of it is left
behind; any other one leaves everything as it was. -/
def FinishReplays (source : String) : Prop :=
  let queue := runtime.pendingCloseReconciliations
  if announcesEnd position collected then
    (reducedBy position collected).matchedQuantity.lt fillDust = true ∧
      OnlyPendingClose runtime position collected call ∧
      (collected.evidenceGaps position = [] →
        SameOwners queue (RuntimeState.othersOf queue position.positionId))
  else
    (reducedBy position collected).matchedQuantity.lt fillDust = false ∧
      (reducedBy position collected).sizes = position.sizes ∧
      (collected.evidenceGaps position ≠ [] →
        SameOwners (enqueuePendingCloseReconciliation (.list queue)
          (closeReconciliation position collected call runtime.tickCount source)) queue)

end Condition

section FinishCompared

variable {runtime : RuntimeState} {state : CloseState} {position : OpenPosition}
  {collected : CollectedClose} (call : CloseCall)

theorem written_sizes : (collected.settle.written position call).sizes =
    (reducedBy position collected.settle).sizes := by
  have quantities := writtenPosition_quantities position
    (collected.settle.execution position call.reason) collected.settle call
    (collected.settle.evidenceGaps position)
  rw [OpenPosition.sizes, OpenPosition.sizes, CollectedClose.written, quantities.1,
    quantities.2.1, quantities.2.2]
  rfl

theorem written_matched : (collected.settle.written position call).matchedQuantity =
    (reducedBy position collected.settle).matchedQuantity :=
  congrArg (fun sizes => sizes.2.2) (written_sizes call)

/-- The replay before the terminal record. -/
def pendingReplayed (runtime : RuntimeState) (position : OpenPosition)
    (collected : CollectedClose) (call : CloseCall) : RuntimeState :=
  let registered := if (collected.evidenceGaps position).isEmpty then runtime
    else runtime.replayRegistration (closeReconciliation position collected call
      runtime.tickCount "aggressive_close_execution")
  if collected.anyLongUncertain || collected.anyShortUncertain then
    registered.replayPendingClose ⟨"exit.pending_close_registered",
      pendingClosePayload (pendingCloseOf position collected call)⟩
  else registered

/-- What the records of a close replay to, from the state before it. -/
def closeReplayed (runtime : RuntimeState) (position : OpenPosition)
    (collected : CollectedClose) (call : CloseCall) : RuntimeState :=
  let pending := pendingReplayed runtime position collected call
  if (fillDust.lt (closedQuantity collected.longLegs) ||
      fillDust.lt (closedQuantity collected.shortLegs)) &&
      (collected.evidenceGaps position).isEmpty then
    (if position.positionId = "" then pending
      else pending.clearTerminalCloseState position.positionId)
  else pending

theorem finishClose_replay [TextCase] (quiet : Quiet (.start runtime) state)
    (something : collected.settle.isEmpty = false) :
    runtime.replay (finishClose state position collected call).2.1.journal =
      closeReplayed runtime position collected.settle call := by
  have before : state.replayed runtime = runtime := CloseState.replayed_quiet runtime quiet
  have ticks : state.runtime.tickCount = runtime.tickCount := quiet.tickCount
  have replayed := finishClose_replayed state position collected call runtime something
  rw [before, ticks] at replayed
  exact replayed

theorem certain_of_evidence (evidence : collected.evidenceGaps position = []) :
    (collected.anyLongUncertain || collected.anyShortUncertain) = false := by
  have resolved := (evidenceGaps_nil_iff collected position).mp evidence
  obtain ⟨long, -, short, -⟩ := (unresolved_nil_iff collected).mp resolved.1
  rw [long, short]
  rfl

/-- The registration of an unnamed position is skipped. -/
theorem replayRegistration_unnamed (unnamed : position.positionId = "") (source : String) :
    runtime.replayRegistration (closeReconciliation position collected call runtime.tickCount
      source) = runtime := by
  have id : (closeReconciliation position collected call runtime.tickCount source).get
      "position_id" = .str position.positionId := rfl
  rw [RuntimeState.replayRegistration, id, unnamed, if_neg (by decide)]

theorem replayRegistration_named (named : position.positionId ≠ "") (source : String) :
    runtime.replayRegistration (closeReconciliation position collected call runtime.tickCount
        source) =
      (runtime.enqueue (closeReconciliation position collected call runtime.tickCount
        source)).clearTerminalCloseOwners position.positionId := by
  have id : (closeReconciliation position collected call runtime.tickCount source).get
      "position_id" = .str position.positionId := rfl
  have truthy : (DynValue.str position.positionId).truthy = true := decide_eq_true named
  rw [RuntimeState.replayRegistration, id, truthy, if_pos rfl]
  rfl

variable (runtime) in
/-- A close that announces no end leaves the replay with its pending close only. -/
theorem closeReplayed_unannounced (silent : announcesEnd position collected = false) :
    (closeReplayed runtime position collected call).engine.openPositions =
        runtime.engine.openPositions ∧
      (closeReplayed runtime position collected call).pendingCloseReconciliations =
        runtime.pendingCloseReconciliations ∧
      ∀ id, (closeReplayed runtime position collected call).engine.pendingCloses.contains id =
        ((collected.anyLongUncertain || collected.anyShortUncertain) &&
          decide (call.closeId position = id) || runtime.engine.pendingCloses.contains id) := by
  have pending : closeReplayed runtime position collected call =
      if collected.anyLongUncertain || collected.anyShortUncertain then
        runtime.replayPendingClose ⟨"exit.pending_close_registered",
          pendingClosePayload (pendingCloseOf position collected call)⟩
      else runtime := by
    by_cases unnamed : position.positionId = ""
    · rw [closeReplayed, if_pos unnamed, ite_self, pendingReplayed,
        replayRegistration_unnamed call unnamed, ite_self]
    · simp only [announcesEnd, ne_eq, unnamed, not_false_eq_true, decide_true, Bool.true_and,
        Bool.or_eq_false_iff, Bool.not_eq_false'] at silent
      obtain ⟨⟨evidence, longEmpty⟩, shortEmpty⟩ := silent
      rw [closeReplayed, longEmpty, shortEmpty, if_neg (by simp), pendingReplayed, if_pos evidence]
  rw [pending]
  cases collected.anyLongUncertain || collected.anyShortUncertain with
  | true =>
    refine ⟨RuntimeState.replayPendingClose_positions ..,
      RuntimeState.replayPendingClose_reconciliations .., fun id => ?_⟩
    rw [Bool.true_and]
    exact RuntimeState.replayPendingClose_contains _ _ (closeId_ne_empty call position) id
  | false => exact ⟨rfl, rfl, fun id => rfl⟩

variable (runtime) in
/-- A terminal record clears the owners of its position, and its reconciliations. -/
theorem clearTerminalCloseState_eq (positionId : String) :
    (runtime.clearTerminalCloseState positionId).engine =
        (runtime.clearTerminalCloseOwners positionId).engine ∧
      (runtime.clearTerminalCloseState positionId).pendingCloseReconciliations =
        RuntimeState.othersOf runtime.pendingCloseReconciliations positionId := by
  constructor
  · rw [RuntimeState.clearTerminalCloseState]
  · rw [RuntimeState.clearTerminalCloseState]
    dsimp only
    rw [RuntimeState.cleared_reconciliations]

/-- A billed close clears the owners of its position, and its reconciliations. -/
theorem closeReplayed_billed (named : position.positionId ≠ "")
    (evidence : collected.evidenceGaps position = [])
    (filled : (fillDust.lt (closedQuantity collected.longLegs) ||
      fillDust.lt (closedQuantity collected.shortLegs)) = true) :
    closeReplayed runtime position collected call =
      runtime.clearTerminalCloseState position.positionId := by
  rw [closeReplayed, filled, evidence, List.isEmpty_nil, Bool.and_self, if_pos rfl,
    if_neg named, pendingReplayed, evidence, List.isEmpty_nil, if_pos rfl,
    certain_of_evidence evidence, if_neg (by decide)]

/-- The registration of a close, as it is replayed. -/
def registrationReplayed (runtime : RuntimeState) (position : OpenPosition)
    (collected : CollectedClose) (call : CloseCall) : RuntimeState :=
  (runtime.enqueue (closeReconciliation position collected call runtime.tickCount
    "aggressive_close_execution")).clearTerminalCloseOwners position.positionId

/-- A close whose bill is left to a reconciliation clears the owners of its position, before
its pending close is restored. -/
theorem closeReplayed_registered (named : position.positionId ≠ "")
    (evidence : (collected.evidenceGaps position).isEmpty = false) :
    closeReplayed runtime position collected call =
      if collected.anyLongUncertain || collected.anyShortUncertain then
        (registrationReplayed runtime position collected call).replayPendingClose
          ⟨"exit.pending_close_registered",
            pendingClosePayload (pendingCloseOf position collected call)⟩
      else registrationReplayed runtime position collected call := by
  rw [closeReplayed, evidence, Bool.and_false, if_neg (by decide), pendingReplayed, evidence,
    replayRegistration_named call named, registrationReplayed]
  rfl

theorem registrationReplayed_positions (id : String) :
    (registrationReplayed runtime position collected call).engine.openPositions.find? id =
      if position.positionId = id then none else runtime.engine.openPositions.find? id := by
  rw [registrationReplayed, RuntimeState.cleared_positions, RuntimeState.enqueue_engine]

theorem registrationReplayed_reconciliations :
    (registrationReplayed runtime position collected call).pendingCloseReconciliations =
      enqueuePendingCloseReconciliation (.list runtime.pendingCloseReconciliations)
        (closeReconciliation position collected call runtime.tickCount
          "aggressive_close_execution") := by
  rw [registrationReplayed, RuntimeState.cleared_reconciliations, RuntimeState.enqueue]

theorem registrationReplayed_pendingCloses (id : String) :
    (registrationReplayed runtime position collected call).engine.pendingCloses.contains id =
        true ↔
      ∃ pending, runtime.engine.pendingCloses.find? id = some pending ∧
        RuntimeState.ownedBy position.positionId id pending.positionId = false := by
  rw [registrationReplayed, RuntimeState.cleared_pendingCloses, RuntimeState.enqueue_engine]

variable (runtime) in
/-- A close that announces the end of its position clears the replay of its owners. -/
theorem closeReplayed_announced (announced : announcesEnd position collected = true) :
    (∀ id, (closeReplayed runtime position collected call).engine.openPositions.find? id =
        if position.positionId = id then none else runtime.engine.openPositions.find? id) ∧
      (closeReplayed runtime position collected call).pendingCloseReconciliations =
        (if (collected.evidenceGaps position).isEmpty then
          RuntimeState.othersOf runtime.pendingCloseReconciliations position.positionId
        else enqueuePendingCloseReconciliation (.list runtime.pendingCloseReconciliations)
          (closeReconciliation position collected call runtime.tickCount
            "aggressive_close_execution")) ∧
      ∀ id, (closeReplayed runtime position collected call).engine.pendingCloses.contains id =
          true ↔
        ((collected.anyLongUncertain || collected.anyShortUncertain) = true ∧
            call.closeId position = id) ∨
          ∃ pending, runtime.engine.pendingCloses.find? id = some pending ∧
            RuntimeState.ownedBy position.positionId id pending.positionId = false := by
  simp only [announcesEnd, Bool.and_eq_true, decide_eq_true_iff] at announced
  obtain ⟨named, ended⟩ := announced
  cases evidence : (collected.evidenceGaps position).isEmpty with
  | true =>
    have nothing := List.isEmpty_iff.mp evidence
    rw [evidence, Bool.not_true, Bool.false_or] at ended
    obtain ⟨engine, queue⟩ := clearTerminalCloseState_eq runtime position.positionId
    rw [closeReplayed_billed call named nothing ended, engine, queue,
      certain_of_evidence nothing, if_pos rfl]
    refine ⟨RuntimeState.cleared_positions runtime position.positionId, rfl, fun id => ?_⟩
    simp only [Bool.false_eq_true, false_and, false_or]
    exact RuntimeState.cleared_pendingCloses runtime position.positionId id
  | false =>
    rw [closeReplayed_registered call named evidence]
    cases collected.anyLongUncertain || collected.anyShortUncertain with
    | true =>
      refine ⟨fun id => ?_, ?_, fun id => ?_⟩
      · rw [if_pos rfl, RuntimeState.replayPendingClose_positions, registrationReplayed_positions]
      · rw [if_pos rfl, RuntimeState.replayPendingClose_reconciliations,
          registrationReplayed_reconciliations, if_neg Bool.false_ne_true]
      · rw [if_pos rfl, RuntimeState.replayPendingClose_contains _ _
          (closeId_ne_empty call position), Bool.or_eq_true, decide_eq_true_iff,
          registrationReplayed_pendingCloses, eq_self_iff_true, true_and]
        exact .rfl
    | false =>
      refine ⟨fun id => registrationReplayed_positions call id,
        (registrationReplayed_reconciliations call).trans (if_neg Bool.false_ne_true).symm,
        fun id => ?_⟩
      simp only [Bool.false_eq_true, false_and, false_or, if_false]
      exact registrationReplayed_pendingCloses call id

/-! ## The end of a close -/

section LiveState

variable [TextCase]

/-- The position under every id, after a close that started from a quiet chunk loop. -/
theorem finishClose_live_find (quiet : Quiet (.start runtime) state)
    (held : runtime.engine.openPositions.find? position.positionId = some position)
    (something : collected.settle.isEmpty = false) (id : String) :
    (finishClose state position collected call).2.1.positions.find? id =
      if position.positionId = id then
        (if (reducedBy position collected.settle).matchedQuantity.lt fillDust then none
          else some (collected.settle.written position call))
      else runtime.engine.openPositions.find? id := by
  have positions : state.positions = runtime.engine.openPositions := quiet.openPositions
  have contained : state.positions.contains position.positionId = true := by
    rw [positions, OrderedDict.contains, held]
    rfl
  rw [finishClose_find state position collected call something contained, written_matched,
    positions]

variable (position) in
theorem finishClose_live_pending (quiet : Quiet (.start runtime) state)
    (something : collected.settle.isEmpty = false) (id : String) :
    (finishClose state position collected call).2.1.runtime.engine.pendingCloses.contains id =
      ((collected.settle.anyLongUncertain || collected.settle.anyShortUncertain) &&
        decide (call.closeId position = id) || runtime.engine.pendingCloses.contains id) := by
  have pending : state.runtime.engine.pendingCloses = runtime.engine.pendingCloses :=
    quiet.pendingCloses
  rw [finishClose_pendingCloses state position collected call something, pending]
  cases collected.settle.anyLongUncertain || collected.settle.anyShortUncertain with
  | true =>
    simp only [if_true, Bool.true_and, OrderedDict.contains, OrderedDict.find_insert]
    split_ifs with same <;> simp [same]
  | false => simp

variable (position) in
theorem finishClose_live_reconciliations (quiet : Quiet (.start runtime) state)
    (something : collected.settle.isEmpty = false) :
    (finishClose state position collected call).2.1.runtime.pendingCloseReconciliations =
      if (collected.settle.evidenceGaps position).isEmpty then
        runtime.pendingCloseReconciliations
      else enqueuePendingCloseReconciliation (.list runtime.pendingCloseReconciliations)
        (closeReconciliation position collected.settle call runtime.tickCount
          "aggressive_close_execution") := by
  have queue : state.runtime.pendingCloseReconciliations =
    runtime.pendingCloseReconciliations := quiet.reconciliations
  have ticks : state.runtime.tickCount = runtime.tickCount := quiet.tickCount
  rw [finishClose_reconciliations state position collected call something, queue, ticks]

/-- Where the end is not announced, the replay must have nothing to do. -/
theorem unannounced_same_iff (quiet : Quiet (.start runtime) state)
    (held : runtime.engine.openPositions.find? position.positionId = some position)
    (something : collected.settle.isEmpty = false)
    (silent : announcesEnd position collected.settle = false) :
    SameClose (finishClose state position collected call).2.1.runtime
        (closeReplayed runtime position collected.settle call) ↔
      FinishReplays runtime position collected.settle call "aggressive_close_execution" := by
  obtain ⟨positions, queue, pending⟩ := closeReplayed_unannounced runtime call silent
  have live := finishClose_live_find call quiet held something
  have liveQueue := finishClose_live_reconciliations position call quiet something
  rw [FinishReplays, silent, if_neg Bool.false_ne_true]
  constructor
  · intro same
    have here := same.positions position.positionId
    rw [positions, held] at here
    have found := live position.positionId
    rw [if_pos rfl] at found
    have retained : (reducedBy position collected.settle).matchedQuantity.lt fillDust = false := by
      by_contra removed
      rw [if_pos (Bool.eq_true_of_not_eq_false removed)] at found
      exact absurd ((congrArg (Option.map OpenPosition.sizes) found).symm.trans here) (by simp)
    rw [retained, if_neg Bool.false_ne_true] at found
    refine ⟨retained, ?_, fun gaps => ?_⟩
    · have sizes := (congrArg (Option.map OpenPosition.sizes) found).symm.trans here
      rw [Option.map_some, Option.map_some, Option.some_inj, written_sizes] at sizes
      exact sizes
    · have owners := same.reconciliations
      rw [liveQueue, queue, if_neg (fun empty => gaps (List.isEmpty_iff.mp empty))] at owners
      exact owners
  · rintro ⟨retained, sizes, owners⟩
    constructor
    case positions =>
      intro id
      have found := live id
      rw [retained, if_neg Bool.false_ne_true] at found
      refine (congrArg (Option.map OpenPosition.sizes) found).trans ?_
      rw [positions]
      split_ifs with here
      · rw [← here, held, Option.map_some, Option.map_some, written_sizes, sizes]
      · rfl
    case pendingCloses =>
      intro id
      rw [pending, finishClose_live_pending position call quiet something]
    case reconciliations =>
      rw [liveQueue, queue]
      split_ifs with gaps
      · exact .refl _
      · exact owners (fun empty => gaps (List.isEmpty_iff.mpr empty))

/-- Where the end is announced, the replay clears what the close must have cleared. -/
theorem announced_same_iff (quiet : Quiet (.start runtime) state)
    (held : runtime.engine.openPositions.find? position.positionId = some position)
    (something : collected.settle.isEmpty = false)
    (announced : announcesEnd position collected.settle = true) :
    SameClose (finishClose state position collected call).2.1.runtime
        (closeReplayed runtime position collected.settle call) ↔
      FinishReplays runtime position collected.settle call "aggressive_close_execution" := by
  obtain ⟨positions, queue, pending⟩ :=
    closeReplayed_announced runtime call announced
  have live := finishClose_live_find call quiet held something
  have livePending := finishClose_live_pending position call quiet something
  have liveQueue := finishClose_live_reconciliations position call quiet something
  rw [FinishReplays, announced, if_pos rfl]
  constructor
  · intro same
    refine ⟨?_, fun id other found owned => ?_, fun evidence => ?_⟩
    · by_contra retained
      have here := same.positions position.positionId
      rw [positions, if_pos rfl] at here
      have found := live position.positionId
      rw [if_pos rfl, if_neg retained] at found
      exact absurd ((congrArg (Option.map OpenPosition.sizes) found).symm.trans here) (by simp)
    · have here := same.pendingCloses id
      rw [livePending id, OrderedDict.contains, found, Option.isSome_some, Bool.or_true] at here
      obtain registered | ⟨kept, known, others⟩ := (pending id).mp here.symm
      · exact registered
      · rw [Option.some_inj.mp (found.symm.trans known)] at owned
        rw [others] at owned
        cases owned
    · have owners := same.reconciliations
      rw [liveQueue, queue, evidence, List.isEmpty_nil, if_pos rfl, if_pos rfl] at owners
      exact owners
  · rintro ⟨removed, only, owners⟩
    constructor
    case positions =>
      intro id
      have found := live id
      rw [removed, if_pos rfl] at found
      exact (congrArg (Option.map OpenPosition.sizes) found).trans
        (congrArg (Option.map OpenPosition.sizes) (positions id)).symm
    case pendingCloses =>
      intro id
      rw [Bool.eq_iff_iff, livePending id, pending id, Bool.or_eq_true, Bool.and_eq_true,
        decide_eq_true_iff]
      constructor
      · rintro (registered | kept)
        · exact .inl registered
        · rw [OrderedDict.contains, Option.isSome_iff_exists] at kept
          obtain ⟨other, found⟩ := kept
          cases owned : RuntimeState.ownedBy position.positionId id other.positionId with
          | true => exact .inl (only id other found owned)
          | false => exact .inr ⟨other, found, owned⟩
      · rintro (registered | ⟨other, found, -⟩)
        · exact .inl registered
        · right
          rw [OrderedDict.contains, found]
          rfl
    case reconciliations =>
      rw [liveQueue, queue]
      split_ifs with evidence
      · exact owners (List.isEmpty_iff.mp evidence)
      · exact .refl _

end LiveState

end FinishCompared

/-! ## The whole call -/

/-- A quiet state owns what it did before. -/
theorem Quiet.sameClose {runtime : RuntimeState} {state : CloseState}
    (quiet : Quiet (.start runtime) state) : SameClose state.runtime runtime where
  positions id := congrArg (fun positions : OrderedDict String OpenPosition =>
    (positions.find? id).map OpenPosition.sizes) quiet.openPositions
  pendingCloses id := congrArg (fun pending : OrderedDict String PendingClose =>
    pending.contains id) quiet.pendingCloses
  reconciliations := by
    have queue : state.runtime.pendingCloseReconciliations =
      runtime.pendingCloseReconciliations := quiet.reconciliations
    rw [queue]
    exact .refl _

section WholeCall

variable [TextCase] {World : Type} (env : CloseEnvironment World) (position : OpenPosition)
  (request : CloseRequest) (runtime : RuntimeState) (world : World)

/-- A call begins with nothing appended and nothing asked. -/
def beginClose : CloseRun World := { world := world, state := .start runtime }

/-- What each exit of the chunk loop needs for its records to replay: a rejected close
appends none, and a failed compensation registers a reconciliation for a position that it
does not touch. -/
def ChunksReplay (chunks : List ExactFloat) : Prop :=
  let call := closeCall env request chunks.length
  let queue := runtime.pendingCloseReconciliations
  match runChunks env position request chunks.length 0 chunks {} (beginClose runtime world) with
  | (.rejected, _, _) => True
  | (.compensationFailed, collected, _) =>
    position.positionId = "" ∧
      SameOwners (enqueuePendingCloseReconciliation (.list queue)
        (closeReconciliation position collected call runtime.tickCount
          "aggressive_close_compensation_truth_unavailable")) queue
  | (.finished, collected, _) =>
    collected.settle.isEmpty = true ∨
      FinishReplays runtime position collected.settle call "aggressive_close_execution"

omit [TextCase] in
/-- The registration after a failed compensation replays as the end of the position. -/
theorem registered_same_iff {state : CloseState} {collected : CollectedClose} (call : CloseCall)
    (source : String) (gaps : List String) (quiet : Quiet (.start runtime) state)
    (held : runtime.engine.openPositions.find? position.positionId = some position) :
    let after := registerCloseAccountingReconciliation state position collected call source gaps
    SameClose after.runtime (runtime.replay after.journal) ↔
      position.positionId = "" ∧
        SameOwners (enqueuePendingCloseReconciliation
          (.list runtime.pendingCloseReconciliations)
          (closeReconciliation position collected call runtime.tickCount source))
          runtime.pendingCloseReconciliations := by
  intro after
  have before : state.replayed runtime = runtime := CloseState.replayed_quiet runtime quiet
  have ticks : state.runtime.tickCount = runtime.tickCount := quiet.tickCount
  have positions : after.runtime.engine.openPositions = runtime.engine.openPositions :=
    quiet.openPositions
  have pending : after.runtime.engine.pendingCloses = runtime.engine.pendingCloses :=
    quiet.pendingCloses
  have queue : after.runtime.pendingCloseReconciliations =
      enqueuePendingCloseReconciliation (.list runtime.pendingCloseReconciliations)
        (closeReconciliation position collected call runtime.tickCount source) := by
    have kept : state.runtime.pendingCloseReconciliations =
      runtime.pendingCloseReconciliations := quiet.reconciliations
    rw [← kept, ← ticks]
    simp only [after, registerCloseAccountingReconciliation, CloseState.enqueueReconciliation,
      CloseState.append_runtime]
  have replayed : runtime.replay after.journal = runtime.replayRegistration
      (closeReconciliation position collected call runtime.tickCount source) := by
    have registered := CloseState.replayed_register runtime state position collected call source
      gaps
    rw [before, ticks] at registered
    exact registered
  rw [replayed]
  by_cases unnamed : position.positionId = ""
  · rw [replayRegistration_unnamed call unnamed]
    constructor
    · intro same
      have owners := same.reconciliations
      rw [queue] at owners
      exact ⟨unnamed, owners⟩
    · rintro ⟨-, owners⟩
      constructor
      case positions => exact fun id => by rw [positions]
      case pendingCloses => exact fun id => by rw [pending]
      case reconciliations =>
        rw [queue]
        exact owners
  · rw [replayRegistration_named call unnamed]
    constructor
    · intro same
      have here := same.positions position.positionId
      rw [positions, held, RuntimeState.cleared_positions, if_pos rfl] at here
      cases here
    · rintro ⟨empty, -⟩
      exact absurd empty unnamed

/-- The chunks of a close, and its end, replay exactly where their exit allows it. -/
theorem executeChunks_same_iff (chunks : List ExactFloat)
    (held : runtime.engine.openPositions.find? position.positionId = some position) :
    let after := (executeChunks env position request chunks (beginClose runtime world)).run.state
    SameClose after.runtime (runtime.replay after.journal) ↔
      ChunksReplay env position request runtime world chunks := by
  intro after
  have quiet := runChunks_quiet env position request chunks.length 0 chunks {}
    (beginClose runtime world)
  rcases result : runChunks env position request chunks.length 0 chunks {}
    (beginClose runtime world) with ⟨how, collected, run⟩
  rw [result] at quiet
  have ended : after =
      (endClose env position request chunks.length how collected run).run.state := by
    simp only [after, executeChunks, result]
  rw [ChunksReplay, result, ended]
  cases how with
  | rejected =>
    have replayed : runtime.replay run.state.journal = runtime :=
      CloseState.replayed_quiet runtime quiet
    refine iff_of_true ?_ trivial
    rw [endClose]
    dsimp only
    rw [replayed]
    exact quiet.sameClose
  | compensationFailed => exact registered_same_iff position runtime _ _ _ quiet held
  | finished =>
    rw [endClose]
    dsimp only
    cases something : collected.settle.isEmpty with
    | true =>
      refine iff_of_true ?_ (.inl rfl)
      rw [finishClose, if_pos something]
      have refused := quiet.append [("position_id", .text position.positionId),
        ("symbol", .text position.symbol),
        ("reason", .text (closeCall env request chunks.length).reason),
        ("error", .text "close produced no confirmed fills")]
        (by decide : "execution.close_failed" ∉ replayedKinds)
      have replayed := CloseState.replayed_quiet runtime refused
      rw [CloseState.replayed] at replayed
      dsimp only
      rw [replayed]
      exact refused.sameClose
    | false =>
      rw [finishClose_replay _ quiet something]
      rw [Bool.false_eq_true, false_or]
      cases announced : announcesEnd position collected.settle with
      | true => exact announced_same_iff _ quiet held something announced
      | false => exact unannounced_same_iff _ quiet held something announced

/-- **A call that returns replays to what it left behind exactly where the exit of its chunk
loop allows it.** -/
theorem close_replays_iff (maxNotionalQuote : ExactFloat) {returned : CloseReturn World}
    (held : runtime.engine.openPositions.find? position.positionId = some position)
    (returns : executeClose env position request maxNotionalQuote (beginClose runtime world) =
      some returned) :
    SameClose returned.run.state.runtime (runtime.replay returned.run.state.journal) ↔
      ∀ chunks ∈ closeChunks position request maxNotionalQuote,
        ChunksReplay env position request runtime world chunks := by
  cases planned : closeChunks position request maxNotionalQuote with
  | none =>
    rw [executeClose, planned] at returns
    cases returns
  | some chunks =>
    have only : (∀ planned ∈ some chunks,
        ChunksReplay env position request runtime world planned) ↔
        ChunksReplay env position request runtime world chunks := by simp
    rw [executeClose, planned, Option.bind_eq_bind, Option.bind_some] at returns
    rw [only]
    split_ifs at returns with nothing
    · obtain rfl := List.isEmpty_iff.mp nothing
      obtain rfl := Option.some.inj returns
      refine iff_of_true ?_ (.inl (by rfl))
      have begun : Quiet (.start runtime) (beginClose runtime world).state := .refl _
      have replayed : runtime.replay (beginClose runtime world).state.journal = runtime := rfl
      dsimp only
      rw [replayed]
      exact begun.sameClose
    · obtain rfl := Option.some.inj returns
      exact executeChunks_same_iff env position request runtime world chunks held

end WholeCall

section Example

local instance replayCase : TextCase := .ascii

/-- A venue that fills every order at once. -/
def fillingAdapter : CloseAdapter Unit where
  placeOrder request world :=
    (.ok { venue := request.venue, symbol := request.symbol, side := request.side
           quantity := request.quantity, price := .finite 10, orderId := request.clientOrderId
           feeQuote := some (.finite 0) }, world)
  fetchPosition _ world := (.ok none, world)
  fetchOrderFillReconciliation _ _ world := (.ok none, world)

def fillingVenues : CloseEnvironment Unit where
  adapters _ := some fillingAdapter
  compactClientOrderId positionId stage := positionId ++ ":" ++ stage
  wallClockNowMs _ := 0

/-- Two units on each leg. -/
def replayedPosition : OpenPosition :=
  { positionId := "p1", symbol := "BTCUSDT", longVenue := .binance, shortVenue := .okx
    longQuantity := .finite 2, shortQuantity := .finite 2, matchedQuantity := .finite 2
    longEntryPrice := .finite 10, shortEntryPrice := .finite 10, openedAtMs := 0
    entryFeeEvidenceComplete := true }

def replayedState : RuntimeState :=
  { engine := { openPositions := OrderedDict.empty.insert "p1" replayedPosition } }

/-- A close of this quantity at market. -/
def marketClose (quantity : ℚ) : CloseRequest where
  reason := "exit"
  nowMs := 1
  totalQuantity := some (.finite quantity)

def filledChunks (quantity : ℚ) : ChunksEnd × CollectedClose × CloseRun Unit :=
  runChunks fillingVenues replayedPosition (marketClose quantity)
    [ExactFloat.finite quantity].length 0 [.finite quantity] {} (beginClose replayedState ())

theorem full_close_chunks :
    ChunksReplay fillingVenues replayedPosition (marketClose 2) replayedState () [.finite 2] := by
  have finished : (filledChunks 2).1 = .finished := by decide +kernel
  have announced : announcesEnd replayedPosition (filledChunks 2).2.1.settle = true := by
    decide +kernel
  have removed : (reducedBy replayedPosition
      (filledChunks 2).2.1.settle).matchedQuantity.lt fillDust = true := by
    decide +kernel
  have cleared : RuntimeState.othersOf [] "p1" = [] := by rfl
  rcases result : filledChunks 2 with ⟨how, collected, run⟩
  rw [result] at finished announced removed
  obtain rfl : how = .finished := finished
  rw [filledChunks] at result
  rw [ChunksReplay, result]
  right
  rw [FinishReplays, announced, if_pos rfl]
  refine ⟨removed, fun id pending found => ?_, fun _ => ?_⟩
  · cases found
  · exact cleared ▸ .refl _

theorem full_close_replays : ∃ returned,
    executeClose fillingVenues replayedPosition (marketClose 2) (.finite 0)
        (beginClose replayedState ()) = some returned ∧
      SameClose returned.run.state.runtime
        (replayedState.replay returned.run.state.journal) := by
  refine ⟨_, rfl, (close_replays_iff fillingVenues replayedPosition (marketClose 2)
    replayedState () (.finite 0) rfl rfl).mpr ?_⟩
  intro chunks planned
  obtain rfl : [ExactFloat.finite 2] = chunks := Option.some.inj planned
  exact full_close_chunks

/-- A close of half the position replays as the end of it. -/
theorem half_close_loses_position : ∃ returned,
    executeClose fillingVenues replayedPosition (marketClose 1) (.finite 0)
        (beginClose replayedState ()) = some returned ∧
      ¬ SameClose returned.run.state.runtime
        (replayedState.replay returned.run.state.journal) := by
  refine ⟨_, rfl, fun same => ?_⟩
  have allowed := (executeChunks_same_iff fillingVenues replayedPosition (marketClose 1)
    replayedState () [.finite 1] rfl).mp same
  have finished : (filledChunks 1).1 = .finished := by decide +kernel
  have something : (filledChunks 1).2.1.settle.isEmpty = false := by decide +kernel
  have announced : announcesEnd replayedPosition (filledChunks 1).2.1.settle = true := by
    decide +kernel
  have retained : (reducedBy replayedPosition
      (filledChunks 1).2.1.settle).matchedQuantity.lt fillDust = false := by
    decide +kernel
  rcases result : filledChunks 1 with ⟨how, collected, run⟩
  rw [result] at finished something announced retained
  obtain rfl : how = .finished := finished
  rw [filledChunks] at result
  rw [ChunksReplay, result] at allowed
  obtain nothing | replays := allowed
  · exact absurd (something.symm.trans nothing) Bool.false_ne_true
  · rw [FinishReplays, announced, if_pos rfl] at replays
    exact absurd (retained.symm.trans replays.1) Bool.false_ne_true

end Example

end LightFee.Engine
