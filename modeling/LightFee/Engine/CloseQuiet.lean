import LightFee.Engine.CloseExecutor

/-!
# What the chunk loop leaves alone

Submitting and compensating ask the venues, append to the journal and may latch the
engine fail-closed. The collections of the state change in the write-back only, and so do
the records that a replay of the journal reads.
-/

namespace LightFee.Engine

open LightFee.Venues

/-- The kinds of a close's records that recovery replays. -/
def replayedKinds : List String :=
  ["exit.closed", "exit.pending_close_reconciliation_registered", "exit.pending_close_registered",
    "exit.partial_closed"]

/-- The collections stay, and no appended record is replayed. -/
structure Quiet (before after : CloseState) : Prop where
  openPositions : after.runtime.engine.openPositions = before.runtime.engine.openPositions
  pendingCloses : after.runtime.engine.pendingCloses = before.runtime.engine.pendingCloses
  reconciliations :
    after.runtime.pendingCloseReconciliations = before.runtime.pendingCloseReconciliations
  newRepairs : after.newRepairs = before.newRepairs
  tickCount : after.runtime.tickCount = before.runtime.tickCount
  journal : ∃ records, after.journal = before.journal ++ records ∧
    ∀ record ∈ records, record.kind ∉ replayedKinds

namespace Quiet

/-- Nothing happened. -/
theorem refl (state : CloseState) : Quiet state state :=
  ⟨rfl, rfl, rfl, rfl, rfl, [], (List.append_nil _).symm,
    fun _ member => absurd member List.not_mem_nil⟩

/-- One quiet stretch after another; their records stand in order. -/
theorem trans {first second third : CloseState} (left : Quiet first second)
    (right : Quiet second third) : Quiet first third := by
  obtain ⟨early, earlyAppended, earlyQuiet⟩ := left.journal
  obtain ⟨late, lateAppended, lateQuiet⟩ := right.journal
  constructor
  case openPositions => exact right.openPositions.trans left.openPositions
  case pendingCloses => exact right.pendingCloses.trans left.pendingCloses
  case reconciliations => exact right.reconciliations.trans left.reconciliations
  case newRepairs => exact right.newRepairs.trans left.newRepairs
  case tickCount => exact right.tickCount.trans left.tickCount
  case journal =>
    refine ⟨early ++ late, ?_, ?_⟩
    · rw [lateAppended, earlyAppended, List.append_assoc]
    · intro record member
      exact (List.mem_append.mp member).elim (earlyQuiet record) (lateQuiet record)

/-- A record of another kind. -/
theorem append {before after : CloseState} (quiet : Quiet before after) {kind : String}
    (payload : List (String × PayloadValue)) (other : kind ∉ replayedKinds) :
    Quiet before (after.append kind payload) := by
  apply quiet.trans
  refine ⟨rfl, rfl, rfl, rfl, rfl, [⟨kind, payload⟩], rfl, ?_⟩
  intro record member
  rw [List.mem_singleton.mp member]
  exact other

end Quiet

section Venues

variable {World : Type}

/-- The venues' answers do not change the state. -/
theorem placeOrder_quiet (run : CloseRun World) (adapter : CloseAdapter World)
    (request : OrderRequest) : Quiet run.state (run.placeOrder adapter request).2.state :=
  .refl _

/-- A position is asked for, whatever the venue answers. -/
theorem fetchPosition_quiet (run : CloseRun World) (adapter : CloseAdapter World)
    (venue : Venue) (symbol : String) :
    Quiet run.state (run.fetchPosition adapter venue symbol).2.state :=
  .refl _

/-- A used client order id is looked up, whatever the venue answers. -/
theorem reconcileDuplicate_quiet (run : CloseRun World) (adapter : CloseAdapter World)
    (venue : Venue) (symbol clientOrderId : String) (targetQty : ExactFloat) :
    Quiet run.state
      (reconcileDuplicateClientOrder run adapter venue symbol clientOrderId targetQty).2.state :=
  .refl _

/-- A record that no replay reads. -/
theorem log_quiet (run : CloseRun World) {kind : String} (payload : List (String × PayloadValue))
    (other : kind ∉ replayedKinds) : Quiet run.state (run.log kind payload).state :=
  (Quiet.refl _).append payload other

end Venues

section Submission

variable [TextCase] {World : Type} (env : CloseEnvironment World)

omit [TextCase] in
/-- One submission, with its record of the answer or of the missing adapter. -/
theorem submitCloseLeg_quiet (request : OrderRequest) (positionId leg : String)
    (run : CloseRun World) :
    Quiet run.state (submitCloseLeg env request positionId leg run).2.state := by
  rw [submitCloseLeg]
  split
  · exact log_quiet _ _ (by decide)
  · next adapter _ =>
    have asked := placeOrder_quiet run adapter request
    split
    · next answered =>
      rw [answered] at asked
      split_ifs
      · exact asked.trans (log_quiet _ _ (by decide))
      · exact asked.trans (log_quiet _ _ (by decide))
    · next answered =>
      rw [answered] at asked
      split
      · exact asked.trans (log_quiet _ _ (by decide))
      · exact asked.trans (log_quiet _ _ (by decide))
      · exact asked.trans (log_quiet _ _ (by decide))

/-- The run of a step. -/
def LegStep.run : LegStep World → CloseRun World
  | .done _ run => run
  | .again _ run => run

omit [TextCase] in
/-- Every answer to a used client order id: found, missing or unclear. -/
theorem duplicateAnswer_quiet (request : OrderRequest) (positionId leg : String) (nowMs : Int)
    (attempt : Nat) (more : Bool) (reason : String) (found : Option DuplicateReconcile)
    (run : CloseRun World) : Quiet run.state
      (duplicateAnswer env request positionId leg nowMs attempt more reason found run).run.state := by
  rw [duplicateAnswer.eq_def]
  dsimp only
  split
  · exact log_quiet _ _ (by decide)
  · split_ifs
    · exact log_quiet _ _ (by decide)
    · exact log_quiet _ _ (by decide)
    · exact log_quiet _ _ (by decide)
    · exact .refl _
    · exact .refl _
    · exact log_quiet _ _ (by decide)

omit [TextCase] in
/-- The lookup and what is made of it. -/
theorem afterDuplicate_quiet (request : OrderRequest) (positionId leg : String) (nowMs : Int)
    (attempt : Nat) (more : Bool) (reason : String) (run : CloseRun World) : Quiet run.state
      (afterDuplicate env request positionId leg nowMs attempt more reason run).run.state := by
  rw [afterDuplicate]
  split
  · exact duplicateAnswer_quiet env ..
  · next adapter _ =>
    have asked := reconcileDuplicate_quiet run adapter request.venue request.symbol
      request.clientOrderId request.quantity
    exact (asked.trans (log_quiet _ _ (by decide))).trans (duplicateAnswer_quiet env ..)

omit [TextCase] in
/-- A look at the position that a reduce-only refusal speaks of. -/
theorem verifyFlat_quiet (request : OrderRequest) (run : CloseRun World) :
    Quiet run.state (verifyFlat env request run).2.state := by
  rw [verifyFlat]
  split
  · exact .refl _
  · next adapter _ =>
    have asked := fetchPosition_quiet run adapter request.venue request.symbol
    split
    · next answered =>
      rw [answered] at asked
      exact asked
    · next answered =>
      rw [answered] at asked
      exact asked

omit [TextCase] in
/-- A reduce-only refusal, confirmed flat or not. -/
theorem afterConflict_quiet (request : OrderRequest) (positionId leg : String) (more : Bool)
    (result : LegResult) (errorClass : CloseLegErrorClass) (run : CloseRun World) :
    Quiet run.state
      (afterConflict request positionId leg more result errorClass run).run.state := by
  rw [afterConflict]
  split_ifs
  · exact (log_quiet _ _ (by decide)).trans (log_quiet _ _ (by decide))
  · exact log_quiet _ _ (by decide)
  · exact .refl _

/-- A refused attempt, the last one or not. -/
theorem afterRejection_quiet (request : OrderRequest) (positionId leg : String) (more : Bool)
    (result : LegResult) (run : CloseRun World) :
    Quiet run.state (afterRejection env request positionId leg more result run).run.state := by
  rw [afterRejection]
  dsimp only
  have verified := verifyFlat_quiet env request run
  split_ifs
  · exact verified.trans (log_quiet _ _ (by decide))
  · exact verified.trans (afterConflict_quiet ..)
  · exact afterConflict_quiet ..

/-- Each class of answer to an attempt. -/
theorem afterAttempt_quiet (request : OrderRequest) (positionId leg : String) (nowMs : Int)
    (attempt : Nat) (more : Bool) (result : LegResult) (run : CloseRun World) : Quiet run.state
      (afterAttempt env request positionId leg nowMs attempt more result run).run.state := by
  rw [afterAttempt]
  split
  · exact .refl _
  · split_ifs
    · exact afterDuplicate_quiet env ..
    · exact afterRejection_quiet env ..
  · split_ifs
    · exact log_quiet _ _ (by decide)
    · exact .refl _

/-- The loop of attempts, for any number of them. -/
theorem submitAttempts_quiet (positionId leg : String) (nowMs : Int) (left attempt : Nat)
    (request : OrderRequest) (identities : List (String × String)) (run : CloseRun World) :
    Quiet run.state
      (submitAttempts env positionId leg nowMs left attempt request identities run).2.state := by
  induction left generalizing attempt request identities run with
  | zero => exact .refl _
  | succ left ih =>
    rw [submitAttempts]
    have submitted := submitCloseLeg_quiet env request positionId leg run
    have followed := afterAttempt_quiet env request positionId leg nowMs attempt
      (decide (0 < left)) (submitCloseLeg env request positionId leg run).1
      (submitCloseLeg env request positionId leg run).2
    dsimp only
    split
    · next step =>
      rw [step] at followed
      exact submitted.trans followed
    · next step =>
      rw [step] at followed
      exact (submitted.trans followed).trans (ih ..)

/-- A leg is submitted with its retries. -/
theorem submitCloseLegWithRetry_quiet (request : OrderRequest) (positionId leg : String)
    (nowMs : Int) (run : CloseRun World) : Quiet run.state
      (submitCloseLegWithRetry env request positionId leg nowMs run).2.state :=
  submitAttempts_quiet env ..

end Submission

section Compensation

variable [TextCase] {World : Type} (env : CloseEnvironment World)

omit [TextCase] in
/-- A tier looks whether the venue is flat already. -/
theorem verifyExchangeFlat_quiet (tier : FlattenStage) (adapter : CloseAdapter World)
    (outcome : CompensationCloseOutcome) (run : CloseRun World) :
    Quiet run.state (verifyExchangeFlat tier adapter outcome run).2.state := by
  rw [verifyExchangeFlat]
  have asked := fetchPosition_quiet run adapter tier.venue tier.symbol
  split
  · next answered =>
    rw [answered] at asked
    exact asked
  · next answered =>
    rw [answered] at asked
    exact asked

omit [TextCase] in
/-- A flatten under a fresh client order id. -/
theorem retryDuplicate_quiet (tier : FlattenStage) (adapter : CloseAdapter World)
    (request : OrderRequest) (found : DuplicateReconcile) (submitMs : Int)
    (outcome : CompensationCloseOutcome) (run : CloseRun World) : Quiet run.state
      (retryDuplicate env tier adapter request found submitMs outcome run).2.state := by
  rw [retryDuplicate]
  dsimp only
  split
  · exact (placeOrder_quiet ..).trans (verifyExchangeFlat_quiet ..)
  · split_ifs
    · exact placeOrder_quiet ..
    · exact (placeOrder_quiet ..).trans (verifyExchangeFlat_quiet ..)
    · exact ((placeOrder_quiet ..).trans (verifyExchangeFlat_quiet ..)).trans
        (verifyExchangeFlat_quiet ..)

omit [TextCase] in
/-- A flatten that meets a used client order id. -/
theorem flattenDuplicate_quiet (tier : FlattenStage) (adapter : CloseAdapter World)
    (request : OrderRequest) (submitMs : Int) (outcome : CompensationCloseOutcome)
    (run : CloseRun World) : Quiet run.state
      (flattenDuplicate env tier adapter request submitMs outcome run).2.state := by
  rw [flattenDuplicate]
  dsimp only
  have logged (run : CloseRun World) (payload other : List (String × PayloadValue)) :
      Quiet run.state ((run.log "order.reconcile_result" payload).log
        "exit.compensation_duplicate_client_order_reconcile_result" other).state :=
    (log_quiet _ _ (by decide)).trans (log_quiet _ _ (by decide))
  have asked := reconcileDuplicate_quiet run adapter tier.venue tier.symbol
    request.clientOrderId request.quantity
  split_ifs
  · exact asked.trans (logged _ _ _)
  · exact (asked.trans (logged _ _ _)).trans (retryDuplicate_quiet env ..)
  · exact (asked.trans (logged _ _ _)).trans (verifyExchangeFlat_quiet ..)

/-- One order of a tier. -/
theorem compensateCloseLegExposure_quiet (tier : FlattenStage) (quantity : ExactFloat)
    (side : Side) (run : CloseRun World) :
    Quiet run.state (compensateCloseLegExposure env tier quantity side run).2.state := by
  rw [compensateCloseLegExposure]
  split
  · exact .refl _
  · dsimp only
    split
    · split_ifs
      · exact (placeOrder_quiet ..).trans (flattenDuplicate_quiet env ..)
      · exact (placeOrder_quiet ..).trans (verifyExchangeFlat_quiet ..)
    · split_ifs
      · exact placeOrder_quiet ..
      · exact (placeOrder_quiet ..).trans (verifyExchangeFlat_quiet ..)

/-- The attempts of a tier, for any number of them. -/
theorem flattenAttempts_quiet (adapter : CloseAdapter World) (tier : FlattenStage)
    (left attempt : Nat) (quantity : ExactFloat) (side : Side)
    (outcome : CompensationCloseOutcome) (run : CloseRun World) : Quiet run.state
      (flattenAttempts env adapter tier left attempt quantity side outcome run).2.state := by
  induction left generalizing attempt quantity side outcome run with
  | zero => exact .refl _
  | succ left ih =>
    have attempted := compensateCloseLegExposure_quiet env
      { tier with stage := tier.stage ++ "_attempt_" ++ toString attempt } quantity side run
    rw [flattenAttempts]
    dsimp only
    split_ifs
    · exact attempted
    · exact attempted
    · have asked := attempted.trans (fetchPosition_quiet _ adapter tier.venue tier.symbol)
      split
      · next answered =>
        rw [answered] at asked
        exact asked.trans (ih ..)
      · next answered =>
        rw [answered] at asked
        exact asked
      · next answered =>
        rw [answered] at asked
        split_ifs
        · exact asked
        · exact asked.trans (ih ..)

/-- A tier with its retries. -/
theorem flattenCloseLegWithRetries_quiet (tier : FlattenStage) (quantity : ExactFloat)
    (side : Side) (run : CloseRun World) :
    Quiet run.state (flattenCloseLegWithRetries env tier quantity side run).2.state := by
  rw [flattenCloseLegWithRetries]
  split
  · exact .refl _
  · exact flattenAttempts_quiet env ..

/-- The engine is latched fail-closed; its collections stay. -/
theorem compensationHardStop_quiet (tier : FlattenStage) (run : CloseRun World) :
    Quiet run.state (compensationHardStopCloseLeg env tier run).2.state := by
  rw [compensationHardStopCloseLeg]
  split
  · exact .refl _
  · next adapter _ =>
    have asked := fetchPosition_quiet run adapter tier.venue tier.symbol
    split
    · next answered =>
      rw [answered] at asked
      exact asked
    · next answered =>
      rw [answered] at asked
      exact asked
    · next answered =>
      rw [answered] at asked
      split_ifs
      · exact asked
      · exact asked.trans (compensateCloseLegExposure_quiet env ..)

/-- Tier after tier, until one flattens. -/
theorem flattenTiers_quiet (tier : FlattenStage) (quantity : ExactFloat) (side : Side)
    (run : CloseRun World) :
    Quiet run.state (flattenTiers env tier quantity side run).2.state := by
  rw [flattenTiers]
  dsimp only
  have flattened := flattenCloseLegWithRetries_quiet env tier quantity side run
  split_ifs
  · exact flattened
  · exact flattened.trans (compensationHardStop_quiet env ..)

omit [TextCase] in
/-- A failure is latched and recorded. -/
theorem compensationFailed_quiet (run : CloseRun World) (position : OpenPosition) (venue : Venue)
    (report : CompensationReport) (text : String) :
    Quiet run.state (run.compensationFailed position venue report text).state := by
  have latched (text : String) : Quiet run.state (run.failClosed text).state :=
    ⟨rfl, rfl, rfl, rfl, rfl, [], (List.append_nil _).symm,
      fun _ member => absurd member List.not_mem_nil⟩
  exact (latched _).trans (log_quiet _ _ (by decide))

/-- A venue with exposure is flattened or given up. -/
theorem flattenVenue_quiet (position : OpenPosition) (report : CompensationReport) (venue : Venue)
    (stage : String) (adapter : CloseAdapter World) (shown : PositionSnapshot)
    (collected : CollectedClose) (run : CloseRun World) : Quiet run.state
      (flattenVenue env position report venue stage adapter shown collected run).2.2.state := by
  rw [flattenVenue]
  dsimp only
  have tiers := flattenTiers_quiet env
    { venue := venue, symbol := position.symbol, positionId := position.positionId, stage := stage }
    shown.quantity.abs shown.side.opposite run
  split
  · exact tiers
  · have asked := tiers.trans (fetchPosition_quiet _ adapter venue position.symbol)
    split
    · next answered =>
      rw [answered] at asked
      split_ifs
      · exact asked.trans (log_quiet _ _ (by decide))
      · exact asked.trans (compensationFailed_quiet ..)
    · next answered =>
      rw [answered] at asked
      exact asked.trans (compensationFailed_quiet ..)

/-- The exposure of a venue is read and flattened. -/
theorem compensateVenue_quiet (position : OpenPosition) (report : CompensationReport)
    (venue : Venue) (stage : String) (collected : CollectedClose) (run : CloseRun World) :
    Quiet run.state
      (compensateVenue env position report venue stage collected run).2.2.state := by
  rw [compensateVenue]
  split
  · exact .refl _
  · next adapter _ =>
    have asked := fetchPosition_quiet run adapter venue position.symbol
    split
    · next answered =>
      rw [answered] at asked
      exact asked.trans (compensationFailed_quiet ..)
    · next answered =>
      rw [answered] at asked
      exact asked
    · next answered =>
      rw [answered] at asked
      split_ifs
      · exact asked
      · exact asked.trans (flattenVenue_quiet env ..)

/-- A compensation of both venues, failed or not. -/
theorem compensateFailedFullClose_quiet (position : OpenPosition) (report : CompensationReport)
    (collected : CollectedClose) (run : CloseRun World) :
    Quiet run.state
      (compensateFailedFullClose env position report collected run).2.2.state := by
  rw [compensateFailedFullClose]
  have short := compensateVenue_quiet env position report position.shortVenue
    "exit_compensate_short" collected run
  split
  · next failed =>
    rw [failed] at short
    exact short
  · next collected run compensated =>
    rw [compensated] at short
    have both := short.trans (compensateVenue_quiet env position report position.longVenue
      "exit_compensate_long" collected run)
    split
    · next failed =>
      rw [failed] at both
      exact both
    · next done =>
      rw [done] at both
      exact both.trans (log_quiet _ _ (by decide))

end Compensation

/-! ## The chunk loop -/

section Chunks

variable [TextCase] {World : Type} (env : CloseEnvironment World) (position : OpenPosition)
  (request : CloseRequest) (totalChunks : Nat)

/-- A leg without a counterpart is compensated; what was collected is not written back. -/
theorem compensateLeg_quiet (collected : CollectedClose) (stage : String) (venue : Venue)
    (error : String) (run : CloseRun World) : Quiet run.state
      (compensateLeg env position request collected stage venue error run).2.2.state := by
  rw [compensateLeg]
  have compensated := compensateFailedFullClose_quiet env position
    { reason := request.reason, failedStage := stage, failedVenue := venue, error := error }
    collected run
  split
  · next done =>
    rw [done] at compensated
    exact compensated
  · next failed =>
    rw [failed] at compensated
    exact compensated

/-- The run of a step. -/
def ChunkStep.run : ChunkStep World → CloseRun World
  | .next _ run => run
  | .stop _ _ run => run

/-- The short leg of a chunk. -/
theorem shortStep_quiet (ids : ChunkIds) (quantity : ExactFloat) (collected : CollectedClose)
    (run : CloseRun World) : Quiet run.state
      (shortStep env position request totalChunks ids quantity collected run).2.run.state := by
  rw [shortStep]
  dsimp only
  have submitted := submitCloseLegWithRetry_quiet env (shortRequest position request ids quantity)
    position.positionId "short" request.nowMs run
  split
  · exact (submitted.trans (log_quiet _ _ (by decide))).trans (log_quiet _ _ (by decide))
  · split_ifs
    · exact submitted
    · exact (submitted.trans (log_quiet _ _ (by decide))).trans (compensateLeg_quiet env ..)
  · exact submitted

/-- The long leg of a chunk, after any outcome of the short one. -/
theorem longStep_quiet (ids : ChunkIds) (quantity : ExactFloat) (shortOutcome : String)
    (collected : CollectedClose) (run : CloseRun World) : Quiet run.state
      (longStep env position request totalChunks ids quantity shortOutcome collected
        run).run.state := by
  rw [longStep]
  dsimp only
  have submitted := submitCloseLegWithRetry_quiet env (longRequest position request ids quantity)
    position.positionId "long" request.nowMs run
  split_ifs
  · exact submitted.trans (log_quiet _ _ (by decide))
  · split
    · exact (submitted.trans (log_quiet _ _ (by decide))).trans (compensateLeg_quiet env ..)
    · exact (submitted.trans (log_quiet _ _ (by decide))).trans (compensateLeg_quiet env ..)
    · exact submitted.trans (log_quiet _ _ (by decide))

/-- A chunk, however it ends. -/
theorem chunkStep_quiet (ids : ChunkIds) (quantity : ExactFloat) (collected : CollectedClose)
    (run : CloseRun World) : Quiet run.state
      (chunkStep env position request totalChunks ids quantity collected run).run.state := by
  rw [chunkStep]
  have short := shortStep_quiet env position request totalChunks ids quantity collected run
  split
  · next stopped =>
    rw [stopped] at short
    exact short
  · next goesOn =>
    rw [goesOn] at short
    exact short.trans (longStep_quiet env ..)

/-- The loop as a whole. -/
theorem runChunks_quiet (index : Nat) (chunks : List ExactFloat) (collected : CollectedClose)
    (run : CloseRun World) : Quiet run.state
      (runChunks env position request totalChunks index chunks collected run).2.2.state := by
  induction chunks generalizing index collected run with
  | nil => exact .refl _
  | cons quantity rest ih =>
    rw [runChunks]
    have step := chunkStep_quiet env position request totalChunks
      (chunkClientOrderIds env position request totalChunks index) quantity collected run
    split
    · next stopped =>
      rw [stopped] at step
      exact step
    · next goesOn =>
      rw [goesOn] at step
      exact step.trans (ih ..)

end Chunks

end LightFee.Engine
