import LightFee.Engine.CloseReplay
import LightFee.Engine.PassiveOrders
import LightFee.Engine.SnapshotRoundTrip

/-!
# Replaying a passive close

A registration, a claimed intent and an acknowledged order carry the whole owner in their
journal record. A replay over a snapshot takes a record's owner when the record names an
order that the restored owner does not know; otherwise it keeps the restored owner and adds
the order's identity to it.

Everything else that changes an owner is in memory only, until a snapshot or the next such
record shows it.
-/

namespace LightFee.Engine

open LightFee.Venues

/-! ## The owner in a record -/

/-- `_position_snapshot_for_close_reconciliation`. -/
def reconciliationSnapshot (position : OpenPosition) : SnapshotValue :=
  .fields fun
  | .positionId => some (.str position.positionId)
  | .symbol => some (.str position.symbol)
  | .longVenue => some (.str position.longVenue.value)
  | .shortVenue => some (.str position.shortVenue.value)
  | .longQuantity => some (.float position.longQuantity)
  | .shortQuantity => some (.float position.shortQuantity)
  | .matchedQuantity => some (.float position.matchedQuantity)
  | .longEntryPrice => some (.float position.longEntryPrice)
  | .shortEntryPrice => some (.float position.shortEntryPrice)
  | .longEntryFeeQuote => some (.float position.longEntryFeeQuote)
  | .shortEntryFeeQuote => some (.float position.shortEntryFeeQuote)
  | .totalEntryFeeQuote => some (.float position.totalEntryFeeQuote)
  | .entryFeeEvidenceComplete => some (.bool position.entryFeeEvidenceComplete)
  | .capturedFundingQuote => some (.float position.capturedFundingQuote)
  | .secondStageFundingQuote => some (.float position.secondStageFundingQuote)
  | .openedAtMs => some (.int position.openedAtMs)
  | _ => none

/-- `_pending_passive_close_recovery_payload`: the owner as a snapshot stores it, with the
accounting part of its position. -/
def recoveryPayload (pending : PendingPassiveClose) (position : OpenPosition) : SnapshotFields
  | .positionSnapshot => some (reconciliationSnapshot (pending.positionSnapshot.getD position))
  | key => (serializePendingPassiveClose pending).fields?.bind (fun data => data key)

/-- The records that a replay of a passive close reads. -/
inductive PassiveCloseRecord where
  /-- `exit.passive_close_registered`. -/
  | registered (positionId : String) (payload : SnapshotFields)
  /-- `exit.close_order_intent_claimed`. -/
  | intentClaimed (positionId : String) (leg : ActiveMakerLeg) (clientOrderId operation : String)
      (submitStartedAtMs : Int) (payload : SnapshotFields)
  /-- `exit.close_order_identity_acknowledged`. -/
  | identityAcknowledged (positionId : String) (leg : ActiveMakerLeg)
      (orderId clientOrderId : String) (payload : SnapshotFields)
  /-- A record that takes the owners of a position. -/
  | terminal (positionId : String)

/-! ## Replay -/

namespace EngineState

def passiveClose (engine : EngineState) (positionId : String) : Option PendingPassiveClose :=
  engine.pendingPassiveCloses.find? positionId

def putPassiveClose (engine : EngineState) (positionId : String) (pending : PendingPassiveClose) :
    EngineState :=
  { engine with
    pendingPassiveCloses := engine.pendingPassiveCloses.insert positionId pending }

section Replay

variable [TextCase]

/-- `_restore_pending_passive_close_from_journal`: the state, and the owner that a record goes on
with. -/
def restorePassiveCloseFromJournal (engine : EngineState) (positionId : String)
    (payload : SnapshotFields) (replaceExisting : Bool) :
    EngineState × Option PendingPassiveClose :=
  let existing := engine.passiveClose positionId
  if positionId = "" ∨ (existing.isSome = true ∧ replaceExisting = false) then (engine, existing)
  else
    match restorePendingPassiveClose .empty positionId payload with
    | none => (engine, none)
    | some recovered =>
      let pending := { recovered with
        positionSnapshot :=
          (engine.openPositions.find? positionId).or recovered.positionSnapshot }
      (engine.putPassiveClose positionId pending, some pending)

def knownLegs (engine : EngineState) (positionId : String) (leg : ActiveMakerLeg) :
    List PersistedCloseExecutionLeg :=
  ((engine.passiveClose positionId).map (fun pending => pending.legsOn leg)).getD []

/-- `_apply_journal_replay_to_state` on a record of a passive close. What it adds to the owner
of a record is what a claim or an acknowledgement adds to a live one. -/
def replayPassiveClose (engine : EngineState) : PassiveCloseRecord → EngineState
  | .registered positionId payload =>
    (engine.restorePassiveCloseFromJournal positionId payload false).1
  | .intentClaimed positionId leg clientOrderId operation submitStartedAtMs payload =>
    if clientOrderId = "" then engine
    else
      let known := (engine.knownLegs positionId leg).any (fun known =>
        decide (known.clientOrderId = clientOrderId))
      let (restored, owner) := engine.restorePassiveCloseFromJournal positionId payload (!known)
      match owner with
      | none => restored
      | some pending => restored.putPassiveClose positionId
          (claimCloseOrderIntent pending leg clientOrderId operation submitStartedAtMs)
  | .identityAcknowledged positionId leg orderId clientOrderId payload =>
    if orderId = "" ∨ positionId = "" then engine
    else
      let known := (engine.knownLegs positionId leg).any (fun known =>
        decide (known.clientOrderId = clientOrderId) || decide (known.orderId = orderId))
      let (restored, owner) := engine.restorePassiveCloseFromJournal positionId payload (!known)
      match owner with
      | none => restored
      | some pending => restored.putPassiveClose positionId
          (acknowledgeCloseOrderIdentity pending leg orderId clientOrderId 0)
  | .terminal positionId =>
    if positionId = "" then engine
    else (RuntimeState.clearTerminalCloseOwners { engine := engine } positionId).engine

def replayPassiveCloses (engine : EngineState) (records : List PassiveCloseRecord) : EngineState :=
  records.foldl replayPassiveClose engine

end Replay

end EngineState

/-! ## What an owner shows -/

/-- Chunks, phase and confirmed fills of an owner. -/
structure CloseProgress where
  activeChunkIndex : Int
  chunkQuantities : List ExactFloat
  phase : PassiveExecutionPhase
  activeMakerLeg : ActiveMakerLeg
  longFills : List OrderFill
  shortFills : List OrderFill

namespace PendingPassiveClose

def progress (pending : PendingPassiveClose) : CloseProgress where
  activeChunkIndex := pending.activeChunkIndex
  chunkQuantities := pending.chunkQuantities
  phase := pending.phaseState.phase
  activeMakerLeg := pending.phaseState.activeMakerLeg
  longFills := pending.fillsOn .long
  shortFills := pending.fillsOn .short

/-- The order that the maker's handle names: by its client order id when it has one. -/
def makerOrder (pending : PendingPassiveClose) : String × String :=
  (if pending.phaseState.makerClientOrderId = "" then pending.phaseState.makerOrderId else "",
    pending.phaseState.makerClientOrderId)

def clientOrderIds (pending : PendingPassiveClose) (leg : ActiveMakerLeg) : List String :=
  (pending.legsOn leg).map PersistedCloseExecutionLeg.clientOrderId

def orderIds (pending : PendingPassiveClose) (leg : ActiveMakerLeg) : List String :=
  (pending.legsOn leg).map PersistedCloseExecutionLeg.orderId

/-- Two owners that show the same. -/
structure SameView (left right : PendingPassiveClose) : Prop where
  progress : left.progress = right.progress
  makerOrder : left.makerOrder = right.makerOrder
  clientOrderIds : ∀ leg, left.clientOrderIds leg = right.clientOrderIds leg
  orderIds : ∀ leg, left.orderIds leg = right.orderIds leg

/-- The legs keep their identities. -/
structure KeepsIdentities (before after : PendingPassiveClose) : Prop where
  clientOrderIds : ∀ leg, ∀ id ∈ before.clientOrderIds leg, id ∈ after.clientOrderIds leg
  orderIds : ∀ leg, ∀ id ∈ before.orderIds leg, id ≠ "" → id ∈ after.orderIds leg

end PendingPassiveClose

/-! ## Runs -/

/-- What a step of a close writes. -/
inductive PassiveCloseEvent where
  /-- Nothing: the change is in memory. -/
  | memory
  /-- The engine's state is stored. -/
  | snapshot
  | register (position : OpenPosition)
  | claim (position : OpenPosition) (leg : ActiveMakerLeg) (clientOrderId operation : String)
      (nowMs : Int)
  | acknowledge (position : OpenPosition) (leg : ActiveMakerLeg) (orderId clientOrderId : String)
      (nowMs : Int)
  /-- A terminal record is written and the state keeps what it has. An aggressive close whose
  compensation has no truth registers a reconciliation, and so does a cleanup that fails later;
  in both the owner stays and is driven again. -/
  | terminal
  /-- The owner leaves the state, with or without a terminal record. -/
  | resolve (announced : Bool)

/-- A change of the engine's state, and the event that follows in the same block. -/
structure PassiveCloseStep where
  engine : EngineState
  event : PassiveCloseEvent

/-- A run of the closes of one position: the live state, the last snapshot as a restart finds
it, and the records since. -/
structure PassiveCloseRun where
  engine : EngineState
  restored : EngineState
  records : List PassiveCloseRecord := []
  /-- Ids of the live owner. -/
  claimed : ActiveMakerLeg → List String := fun _ => []
  acknowledged : ActiveMakerLeg → List String := fun _ => []
  /-- The live owner at the last event or snapshot. -/
  marked : Option CloseProgress := none

namespace PassiveCloseRun

def begin (engine : EngineState) : PassiveCloseRun where
  engine := engine
  restored := engine.afterRestart

def noted (known : ActiveMakerLeg → List String) (leg : ActiveMakerLeg) (id : String) :
    ActiveMakerLeg → List String :=
  fun side => if side = leg then known side ++ [id] else known side

def record (run : PassiveCloseRun) (record : PassiveCloseRecord) (pending : PendingPassiveClose) :
    PassiveCloseRun :=
  { run with records := run.records ++ [record], marked := some pending.progress }

section Steps

variable (positionId : String)

/-- An event of the owner that the changed state has. -/
def owned (run : PassiveCloseRun) (pending : PendingPassiveClose) :
    PassiveCloseEvent → PassiveCloseRun
  | .memory => run
  | .snapshot =>
    { run with restored := run.engine.afterRestart, records := [], marked := some pending.progress }
  | .register position =>
    ({ run with claimed := fun _ => [], acknowledged := fun _ => [] }).record
      (.registered position.positionId (recoveryPayload pending position)) pending
  | .claim position leg clientOrderId operation nowMs =>
    let claimed := claimCloseOrderIntent pending leg clientOrderId operation nowMs
    ({ run with
      engine := run.engine.putPassiveClose positionId claimed
      claimed := noted run.claimed leg clientOrderId }).record
        (.intentClaimed position.positionId leg clientOrderId operation nowMs
          (recoveryPayload claimed position)) claimed
  | .acknowledge position leg orderId clientOrderId nowMs =>
    let ids := if orderId = "" then run.acknowledged else noted run.acknowledged leg orderId
    if acknowledgesNew (pending.legsOn leg) orderId clientOrderId then
      let acknowledged := acknowledgeCloseOrderIdentity pending leg orderId clientOrderId nowMs
      ({ run with
        engine := run.engine.putPassiveClose positionId acknowledged
        acknowledged := ids }).record
          (.identityAcknowledged position.positionId leg orderId clientOrderId
            (recoveryPayload acknowledged position)) acknowledged
    else { run with acknowledged := ids }
  | .terminal => { run with records := run.records ++ [.terminal positionId] }
  | .resolve _ => run

/-- An event without an owner. -/
def ownerless (run : PassiveCloseRun) : PassiveCloseEvent → PassiveCloseRun
  | .snapshot =>
    { run with restored := run.engine.afterRestart, records := [], marked := none }
  | .terminal => { run with records := run.records ++ [.terminal positionId] }
  | .resolve announced =>
    { run with
      records := if announced then run.records ++ [.terminal positionId] else run.records
      claimed := fun _ => []
      acknowledged := fun _ => []
      marked := none }
  | _ => run

def advance (run : PassiveCloseRun) (step : PassiveCloseStep) : PassiveCloseRun :=
  let changed := { run with engine := step.engine }
  match step.engine.passiveClose positionId with
  | some pending => changed.owned positionId pending step.event
  | none => changed.ownerless positionId step.event

/-- The steps that a close can take. A change keeps the identities of the owner's legs; an event
belongs to the position. -/
inductive Follows : Option PendingPassiveClose → Option PendingPassiveClose →
    PassiveCloseEvent → Prop
  | absent (event : PassiveCloseEvent) (quiet : event = .memory ∨ event = .snapshot) :
      Follows none none event
  | kept {before after : PendingPassiveClose} (event : PassiveCloseEvent)
      (quiet : event = .memory ∨ event = .snapshot) (keeps : before.KeepsIdentities after) :
      Follows (some before) (some after) event
  | register {after : PendingPassiveClose} (position : OpenPosition)
      (named : position.positionId = positionId) : Follows none (some after) (.register position)
  | claim {before after : PendingPassiveClose} (position : OpenPosition) (leg : ActiveMakerLeg)
      {clientOrderId : String} (operation : String) (nowMs : Int)
      (named : position.positionId = positionId) (filled : clientOrderId ≠ "")
      (keeps : before.KeepsIdentities after) :
      Follows (some before) (some after) (.claim position leg clientOrderId operation nowMs)
  | acknowledge {before after : PendingPassiveClose} (position : OpenPosition)
      (leg : ActiveMakerLeg) (orderId clientOrderId : String) (nowMs : Int)
      (named : position.positionId = positionId) (keeps : before.KeepsIdentities after) :
      Follows (some before) (some after) (.acknowledge position leg orderId clientOrderId nowMs)
  /-- A close of the position that has no passive owner. -/
  | closed : Follows none none .terminal
  | registered {before after : PendingPassiveClose} (keeps : before.KeepsIdentities after) :
      Follows (some before) (some after) .terminal
  | resolve {before : PendingPassiveClose} (announced : Bool) :
      Follows (some before) none (.resolve announced)

/-- Runs whose steps are all allowed. -/
inductive RunOf (allowed : PassiveCloseRun → PassiveCloseStep → Prop) : PassiveCloseRun → Prop
  | begin (engine : EngineState) (absent : engine.passiveClose positionId = none) :
      RunOf allowed (begin engine)
  | step {run : PassiveCloseRun} (step : PassiveCloseStep) (reached : RunOf allowed run)
      (follows : Follows positionId (run.engine.passiveClose positionId)
        (step.engine.passiveClose positionId) step.event)
      (may : allowed run step) : RunOf allowed (run.advance positionId step)

variable [TextCase]

/-- What a restart makes of the last snapshot and the records since. -/
def replayed (run : PassiveCloseRun) : EngineState :=
  run.restored.replayPassiveCloses run.records

/-- A restored owner shows every identity, the live handle, and the live progress as of the last
event. -/
structure Shows (run : PassiveCloseRun) (live restored : PendingPassiveClose) : Prop where
  claimed : ∀ leg, ∀ id ∈ run.claimed leg, id ∈ restored.clientOrderIds leg
  acknowledged : ∀ leg, ∀ id ∈ run.acknowledged leg, id ∈ restored.orderIds leg
  makerOrder : restored.makerOrder = live.makerOrder
  progress : run.marked = some restored.progress

/-- The replay has an owner exactly when the live state has one, and the owner shows it. -/
structure Rebuilt (run : PassiveCloseRun) : Prop where
  owner : (run.replayed.passiveClose positionId).isSome = (run.engine.passiveClose positionId).isSome
  shows : ∀ live restored, run.engine.passiveClose positionId = some live →
    run.replayed.passiveClose positionId = some restored → run.Shows live restored

end Steps

end PassiveCloseRun

/-! ## Sound steps -/

namespace PassiveCloseRun

section Sound

variable (positionId : String)

/-- The change before the event leaves the maker's handle on its order. -/
def SameMaker (run : PassiveCloseRun) (step : PassiveCloseStep) : Prop :=
  ∀ before after, run.engine.passiveClose positionId = some before →
    step.engine.passiveClose positionId = some after → after.makerOrder = before.makerOrder

/-- Nothing that a replay would have to show changed since the last event. -/
def Unchanged (run : PassiveCloseRun) (step : PassiveCloseStep) : Prop :=
  run.marked = (step.engine.passiveClose positionId).map PendingPassiveClose.progress

/-- The handle changes with an event only; an event names a new order, or nothing changed since
the one before; an owner leaves with a terminal record, and none is written while it stays. -/
def Sound (run : PassiveCloseRun) (step : PassiveCloseStep) : Prop :=
  match step.event with
  | .memory => run.SameMaker positionId step
  | .snapshot | .register _ => True
  | .claim _ leg clientOrderId operation _ =>
    (∀ pending, step.engine.passiveClose positionId = some pending →
      clientOrderId ∉ pending.clientOrderIds leg) ∨
    (run.Unchanged positionId step ∧
      (operation = "submit_passive_order" ∨ run.SameMaker positionId step))
  | .acknowledge _ leg orderId clientOrderId _ =>
    ∀ pending, step.engine.passiveClose positionId = some pending →
      if acknowledgesNew (pending.legsOn leg) orderId clientOrderId then
        (clientOrderId ∉ pending.clientOrderIds leg ∧ orderId ∉ pending.orderIds leg) ∨
          (run.Unchanged positionId step ∧ run.SameMaker positionId step)
      else (orderId = "" ∨ orderId ∈ run.acknowledged leg) ∧ run.SameMaker positionId step
  | .terminal => step.engine.passiveClose positionId = none
  | .resolve announced => announced = true

end Sound

end PassiveCloseRun

/-! ## Views -/

namespace PendingPassiveClose

theorem SameView.trans {first second third : PendingPassiveClose} (left : first.SameView second)
    (right : second.SameView third) : first.SameView third :=
  ⟨left.progress.trans right.progress, left.makerOrder.trans right.makerOrder,
    fun leg => (left.clientOrderIds leg).trans (right.clientOrderIds leg),
    fun leg => (left.orderIds leg).trans (right.orderIds leg)⟩

/-- A restart keeps what an owner shows. -/
theorem afterRestart_view (positions : OrderedDict String OpenPosition) (id : String)
    (pending : PendingPassiveClose) : (pending.afterRestart positions id).SameView pending := by
  have fills (legs : List PersistedCloseExecutionLeg) :
      (legs.map PersistedCloseExecutionLeg.afterRestart).filterMap PersistedCloseExecutionLeg.fill =
        legs.filterMap PersistedCloseExecutionLeg.fill := by
    rw [List.filterMap_map]
    rfl
  have clientIds (legs : List PersistedCloseExecutionLeg) :
      (legs.map PersistedCloseExecutionLeg.afterRestart).map
        PersistedCloseExecutionLeg.clientOrderId =
          legs.map PersistedCloseExecutionLeg.clientOrderId := by
    rw [List.map_map]
    rfl
  have ids (legs : List PersistedCloseExecutionLeg) :
      (legs.map PersistedCloseExecutionLeg.afterRestart).map PersistedCloseExecutionLeg.orderId =
        legs.map PersistedCloseExecutionLeg.orderId := by
    rw [List.map_map]
    rfl
  refine ⟨?_, rfl, fun leg => ?_, fun leg => ?_⟩
  · rw [progress, progress, CloseProgress.mk.injEq]
    exact ⟨rfl, rfl, rfl, rfl, fills pending.longLegs, fills pending.shortLegs⟩
  · cases leg
    · exact clientIds pending.longLegs
    · exact clientIds pending.shortLegs
  · cases leg
    · exact ids pending.longLegs
    · exact ids pending.shortLegs

section Legs

variable (pending : PendingPassiveClose) (side : ActiveMakerLeg)

/-- New legs of one side that show the same fills. -/
theorem progress_setLegs {legs : List PersistedCloseExecutionLeg}
    (same : legs.filterMap PersistedCloseExecutionLeg.fill = pending.fillsOn side) :
    (pending.setLegs side legs).progress = pending.progress := by
  cases side
  · rw [progress, progress, CloseProgress.mk.injEq]
    exact ⟨rfl, rfl, rfl, rfl, same, rfl⟩
  · rw [progress, progress, CloseProgress.mk.injEq]
    exact ⟨rfl, rfl, rfl, rfl, rfl, same⟩

theorem makerOrder_setLegs (legs : List PersistedCloseExecutionLeg) :
    (pending.setLegs side legs).makerOrder = pending.makerOrder := by
  cases side <;> rfl

theorem clientOrderIds_setLegs (legs : List PersistedCloseExecutionLeg) (leg : ActiveMakerLeg) :
    (pending.setLegs side legs).clientOrderIds leg =
      if side = leg then legs.map PersistedCloseExecutionLeg.clientOrderId
      else pending.clientOrderIds leg := by
  rw [clientOrderIds, legsOn_setLegs]
  split_ifs <;> rfl

theorem orderIds_setLegs (legs : List PersistedCloseExecutionLeg) (leg : ActiveMakerLeg) :
    (pending.setLegs side legs).orderIds leg =
      if side = leg then legs.map PersistedCloseExecutionLeg.orderId
      else pending.orderIds leg := by
  rw [orderIds, legsOn_setLegs]
  split_ifs <;> rfl

end Legs

section Claim

variable (pending : PendingPassiveClose) (side : ActiveMakerLeg)
  (clientOrderId operation : String) (nowMs : Int)

/-- A claim without its handle. -/
def claimedLegs : PendingPassiveClose :=
  if (pending.legsOn side).any (fun leg => decide (leg.clientOrderId = clientOrderId)) then pending
  else pending.setLegs side
    (pending.legsOn side ++ [{ clientOrderId := clientOrderId, submitStartedAtMs := nowMs }])

theorem claim_eq : claimCloseOrderIntent pending side clientOrderId operation nowMs =
    if operation = "submit_passive_order" then
      { pending.claimedLegs side clientOrderId nowMs with
        phaseState :=
          { (pending.claimedLegs side clientOrderId nowMs).phaseState with
            makerClientOrderId := clientOrderId } }
    else pending.claimedLegs side clientOrderId nowMs := rfl

theorem known_clientOrderId :
    (pending.legsOn side).any (fun leg => decide (leg.clientOrderId = clientOrderId)) = true ↔
      clientOrderId ∈ pending.clientOrderIds side := by
  rw [List.any_eq_true, clientOrderIds, List.mem_map]
  exact ⟨fun ⟨leg, member, same⟩ => ⟨leg, member, of_decide_eq_true same⟩,
    fun ⟨leg, member, same⟩ => ⟨leg, member, decide_eq_true same⟩⟩

theorem claim_progress :
    (claimCloseOrderIntent pending side clientOrderId operation nowMs).progress =
      pending.progress := by
  have legs : (pending.claimedLegs side clientOrderId nowMs).progress = pending.progress := by
    rw [claimedLegs]
    split_ifs
    · rfl
    · apply progress_setLegs
      rw [List.filterMap_append]
      exact List.append_nil _
  rw [claim_eq]
  split_ifs
  · exact legs
  · exact legs

theorem claim_makerOrder (filled : clientOrderId ≠ "") :
    (claimCloseOrderIntent pending side clientOrderId operation nowMs).makerOrder =
      if operation = "submit_passive_order" then ("", clientOrderId) else pending.makerOrder := by
  have legs : (pending.claimedLegs side clientOrderId nowMs).makerOrder = pending.makerOrder := by
    rw [claimedLegs]
    split_ifs
    · rfl
    · exact makerOrder_setLegs _ _ _
  rw [claim_eq]
  split_ifs
  · exact Prod.ext (if_neg filled) rfl
  · exact legs

theorem mem_claim_clientOrderIds (leg : ActiveMakerLeg) (id : String) :
    id ∈ (claimCloseOrderIntent pending side clientOrderId operation nowMs).clientOrderIds leg ↔
      id ∈ pending.clientOrderIds leg ∨ (leg = side ∧ id = clientOrderId) := by
  have legs : id ∈ (pending.claimedLegs side clientOrderId nowMs).clientOrderIds leg ↔
      id ∈ pending.clientOrderIds leg ∨ (leg = side ∧ id = clientOrderId) := by
    rw [claimedLegs]
    split_ifs with known
    · rw [known_clientOrderId] at known
      constructor
      · exact .inl
      · rintro (member | ⟨rfl, rfl⟩)
        · exact member
        · exact known
    · rw [clientOrderIds_setLegs]
      split_ifs with here
      · rw [List.map_append, List.mem_append, ← here, List.map_singleton, List.mem_singleton,
          clientOrderIds]
        simp
      · rw [or_iff_left]
        rintro ⟨rfl, -⟩
        exact here rfl
  rw [claim_eq]
  split_ifs
  · exact legs
  · exact legs

theorem mem_claim_orderIds (leg : ActiveMakerLeg) {id : String} (filled : id ≠ "") :
    id ∈ (claimCloseOrderIntent pending side clientOrderId operation nowMs).orderIds leg ↔
      id ∈ pending.orderIds leg := by
  have legs : id ∈ (pending.claimedLegs side clientOrderId nowMs).orderIds leg ↔
      id ∈ pending.orderIds leg := by
    rw [claimedLegs]
    split_ifs
    · exact Iff.rfl
    · rw [orderIds_setLegs]
      split_ifs with here
      · rw [List.map_append, List.mem_append, ← here, List.map_singleton, List.mem_singleton,
          orderIds, or_iff_left filled]
      · exact Iff.rfl
  rw [claim_eq]
  split_ifs
  · exact legs
  · exact legs

end Claim

end PendingPassiveClose

namespace PendingPassiveClose

section Acknowledge

/-- Binding the first intent that waits keeps every id and adds one order id. -/
theorem changeFirst_bound {orderId clientOrderId : String}
    {legs bound : List PersistedCloseExecutionLeg}
    (found : changeFirst (awaitsOrderId clientOrderId)
      (fun leg => { leg with orderId := orderId }) legs = some bound) :
    bound.map PersistedCloseExecutionLeg.clientOrderId =
        legs.map PersistedCloseExecutionLeg.clientOrderId ∧
      clientOrderId ∈ legs.map PersistedCloseExecutionLeg.clientOrderId ∧
      ∀ id ≠ "", id ∈ bound.map PersistedCloseExecutionLeg.orderId ↔
        id ∈ legs.map PersistedCloseExecutionLeg.orderId ∨ id = orderId := by
  induction legs generalizing bound with
  | nil => cases found
  | cons leg rest hyp =>
    rw [changeFirst] at found
    split_ifs at found with waits
    · obtain rfl := Option.some.inj found
      rw [awaitsOrderId, Bool.and_eq_true, decide_eq_true_iff, decide_eq_true_iff] at waits
      refine ⟨rfl, List.mem_cons.mpr (.inl waits.1.symm), fun id named => ?_⟩
      rw [List.map_cons, List.map_cons, List.mem_cons, List.mem_cons, waits.2, or_iff_right named]
      exact or_comm
    · obtain ⟨tail, later, rfl⟩ := Option.map_eq_some_iff.mp found
      obtain ⟨same, known, ids⟩ := hyp later
      refine ⟨?_, List.mem_cons_of_mem _ known, fun id named => ?_⟩
      · rw [List.map_cons, List.map_cons, same]
      · rw [List.map_cons, List.map_cons, List.mem_cons, List.mem_cons, ids id named, or_assoc]

variable (pending : PendingPassiveClose) (side : ActiveMakerLeg) {orderId : String}
  (clientOrderId : String) (nowMs : Int)

theorem acknowledge_progress (orderId : String) :
    (acknowledgeCloseOrderIdentity pending side orderId clientOrderId nowMs).progress =
      pending.progress := by
  rw [acknowledgeCloseOrderIdentity]
  split_ifs
  · exact progress_setLegs _ _ (acknowledgedLegs_fills _ _ _ _)
  · rfl

theorem acknowledge_makerOrder (orderId : String) :
    (acknowledgeCloseOrderIdentity pending side orderId clientOrderId nowMs).makerOrder =
      pending.makerOrder := by
  rw [acknowledgeCloseOrderIdentity]
  split_ifs
  · exact makerOrder_setLegs _ _ _
  · rfl

/-- An order that is not new is the one of a leg. -/
theorem known_order (filled : orderId ≠ "")
    (known : acknowledgesNew (pending.legsOn side) orderId clientOrderId = false) :
    orderId ∈ pending.orderIds side ∧ clientOrderId ∈ pending.clientOrderIds side := by
  rw [acknowledgesNew, decide_eq_true filled, Bool.true_and, Bool.not_eq_false',
    List.any_eq_true] at known
  obtain ⟨leg, member, same⟩ := known
  rw [Bool.and_eq_true, decide_eq_true_iff, decide_eq_true_iff] at same
  exact ⟨List.mem_map.mpr ⟨leg, member, same.1⟩, List.mem_map.mpr ⟨leg, member, same.2⟩⟩

theorem acknowledgedLegs_ids (orderId : String) (legs : List PersistedCloseExecutionLeg) :
    (∀ id, id ∈ (acknowledgedLegs legs orderId clientOrderId nowMs).map
        PersistedCloseExecutionLeg.clientOrderId ↔
      id ∈ legs.map PersistedCloseExecutionLeg.clientOrderId ∨ id = clientOrderId) ∧
    ∀ id ≠ "", id ∈ (acknowledgedLegs legs orderId clientOrderId nowMs).map
        PersistedCloseExecutionLeg.orderId ↔
      id ∈ legs.map PersistedCloseExecutionLeg.orderId ∨ id = orderId := by
  rw [acknowledgedLegs]
  split
  · next bound found =>
    obtain ⟨same, known, ids⟩ := changeFirst_bound found
    refine ⟨fun id => ?_, ids⟩
    rw [same, iff_self_or]
    rintro rfl
    exact known
  · rw [List.map_append, List.map_append]
    refine ⟨fun id => ?_, fun id _ => ?_⟩
    · rw [List.mem_append, List.map_singleton, List.mem_singleton]
    · rw [List.mem_append, List.map_singleton, List.mem_singleton]

theorem mem_acknowledge_clientOrderIds (filled : orderId ≠ "") (leg : ActiveMakerLeg)
    (id : String) :
    id ∈ (acknowledgeCloseOrderIdentity pending side orderId clientOrderId nowMs).clientOrderIds
        leg ↔ id ∈ pending.clientOrderIds leg ∨ (leg = side ∧ id = clientOrderId) := by
  rw [acknowledgeCloseOrderIdentity]
  split_ifs with new
  · rw [clientOrderIds_setLegs]
    split_ifs with here
    · rw [(acknowledgedLegs_ids clientOrderId nowMs orderId _).1 id, ← here, clientOrderIds]
      simp
    · rw [or_iff_left]
      rintro ⟨rfl, -⟩
      exact here rfl
  · rw [iff_self_or]
    rintro ⟨rfl, rfl⟩
    exact (known_order pending leg id filled (Bool.eq_false_iff.mpr new)).2

theorem mem_acknowledge_orderIds (filled : orderId ≠ "") (leg : ActiveMakerLeg) {id : String}
    (named : id ≠ "") :
    id ∈ (acknowledgeCloseOrderIdentity pending side orderId clientOrderId nowMs).orderIds leg ↔
      id ∈ pending.orderIds leg ∨ (leg = side ∧ id = orderId) := by
  rw [acknowledgeCloseOrderIdentity]
  split_ifs with new
  · rw [orderIds_setLegs]
    split_ifs with here
    · rw [(acknowledgedLegs_ids clientOrderId nowMs orderId _).2 id named, ← here, orderIds]
      simp
    · rw [or_iff_left]
      rintro ⟨rfl, -⟩
      exact here rfl
  · rw [iff_self_or]
    rintro ⟨rfl, rfl⟩
    exact (known_order pending leg clientOrderId filled (Bool.eq_false_iff.mpr new)).1

end Acknowledge

end PendingPassiveClose

/-! ## A record's owner -/

section Recovery

variable [TextCase]

/-- The accounting part of a position is read back. -/
theorem reconciliationSnapshot_restored (positionId : String) (position : OpenPosition) :
    ∃ restored, restorePositionSnapshot .empty positionId (reconciliationSnapshot position) =
      some (some restored) := by
  have entered := SnapshotValue.int_orElse_zero position.openedAtMs
  have decoded : (reconciliationSnapshot position).fields?.bind OpenPosition.ofFields =
      ((SnapshotValue.int position.openedAtMs).orElse (.int 0)).int?.bind (fun enteredAtMs =>
        some
          { positionId := position.positionId
            symbol := position.symbol
            longVenue := venueOr .binance (.str position.longVenue.value)
            shortVenue := venueOr .okx (.str position.shortVenue.value)
            longQuantity := position.longQuantity
            shortQuantity := position.shortQuantity
            longEntryPrice := position.longEntryPrice
            shortEntryPrice := position.shortEntryPrice
            openedAtMs := position.openedAtMs
            matchedQuantity := position.matchedQuantity
            enteredAtMs := enteredAtMs
            capturedFundingQuote := position.capturedFundingQuote
            longEntryFeeQuote := position.longEntryFeeQuote
            shortEntryFeeQuote := position.shortEntryFeeQuote
            totalEntryFeeQuote := position.totalEntryFeeQuote
            entryFeeEvidenceComplete := position.entryFeeEvidenceComplete
            secondStageFundingQuote := position.secondStageFundingQuote }) := rfl
  rw [entered, Option.bind_some] at decoded
  have built : (reconciliationSnapshot position).fields?.bind deserializeOpenPosition =
      ((reconciliationSnapshot position).fields?.bind OpenPosition.ofFields).map
        OpenPosition.postInit := bind_build
  rw [decoded, Option.map_some] at built
  have record : restorePositionSnapshot .empty positionId (reconciliationSnapshot position) =
      ((reconciliationSnapshot position).fields?.bind deserializeOpenPosition).map some := by
    rw [restorePositionSnapshot, OrderedDict.find_empty, reconciliationSnapshot]
    rfl
  rw [built] at record
  exact ⟨_, record⟩

omit [TextCase] in
/-- Two owners with the same progress, handle and legs show the same. -/
theorem PendingPassiveClose.view_of_snapshot (pending : PendingPassiveClose)
    (snapshot : Option OpenPosition) :
    { pending with positionSnapshot := snapshot }.SameView pending :=
  ⟨rfl, rfl, fun leg => by cases leg <;> rfl, fun leg => by cases leg <;> rfl⟩

theorem recoveryPayload_decoded (id : String) (pending : PendingPassiveClose)
    (position : OpenPosition) :
    restorePendingPassiveClose .empty id (recoveryPayload pending position) =
      ((SnapshotValue.str pending.positionId).orElse (.str id)).text?.bind fun positionId =>
      (restorePositionSnapshot .empty positionId
        (reconciliationSnapshot (pending.positionSnapshot.getD position))).bind
          fun positionSnapshot =>
      ((SnapshotValue.str pending.shortStage).orElse (.str "exit_short")).text?.bind
        fun shortStage =>
      ((SnapshotValue.str pending.longStage).orElse (.str "exit_long")).text?.bind fun longStage =>
      (SnapshotValue.floatOrNull pending.maxSlippageBps).optionalFloat?.bind
        fun maxSlippageBps =>
      ((serializePhaseState pending.phaseState).fields?.bind PassivePhaseState.ofFields).bind
        fun phaseState =>
      (restoreRecords restorePersistedCloseExecutionLeg
        (pending.longLegs.map serializePersistedCloseExecutionLeg)).bind fun longLegs =>
      (restoreRecords restorePersistedCloseExecutionLeg
        (pending.shortLegs.map serializePersistedCloseExecutionLeg)).bind fun shortLegs =>
      (restoreTable (fun _ data => PassiveOrderManagerRuntime.ofFields data)
        (serializeTable PassiveOrderManagerRuntime.toFields pending.passiveManagerRuntimes)).bind
        fun runtimes =>
      ((SnapshotValue.int pending.smallFillMinNotionalAttempts).orElse (.int 0)).int?.bind
        fun attempts =>
      ((SnapshotValue.float pending.lastSmallFillMissingQuantity).orElse (.float 0)).float?.bind
        fun missingQuantity =>
      (SnapshotValue.intOrNull pending.smallFillBufferStartedAtMs).optionalInt?.bind
        fun bufferStartedAtMs =>
      ((SnapshotValue.int pending.opsCountThisWindow).orElse (.int 0)).int?.bind fun opsCount =>
      ((SnapshotValue.int pending.opsWindowStartedAtMs).orElse (.int 0)).int?.bind
        fun opsStartedAtMs =>
      some { pending with
        positionId := positionId
        positionSnapshot := positionSnapshot
        shortStage := shortStage
        longStage := longStage
        maxSlippageBps := maxSlippageBps
        phaseState := phaseState
        longLegs := longLegs
        shortLegs := shortLegs
        passiveManagerRuntimes := runtimes
        smallFillMinNotionalAttempts := attempts
        lastSmallFillMissingQuantity := missingQuantity
        smallFillBufferStartedAtMs := bufferStartedAtMs
        opsCountThisWindow := opsCount
        opsWindowStartedAtMs := opsStartedAtMs } := rfl

/-- A record's owner comes back with everything that it shows. -/
theorem recoveryPayload_view (id : String) (pending : PendingPassiveClose)
    (position : OpenPosition) :
    ∃ recovered, restorePendingPassiveClose .empty id (recoveryPayload pending position) =
      some recovered ∧ recovered.SameView pending := by
  obtain ⟨snapshot, read⟩ := reconciliationSnapshot_restored
    (if pending.positionId = "" then id else pending.positionId)
    (pending.positionSnapshot.getD position)
  refine ⟨{ pending.afterRestart .empty id with positionSnapshot := some snapshot }, ?_,
    (PendingPassiveClose.view_of_snapshot _ _).trans (pending.afterRestart_view .empty id)⟩
  rw [recoveryPayload_decoded, SnapshotValue.text_orElse, Option.bind_some, read,
    SnapshotValue.text_orElse, SnapshotValue.text_orElse, SnapshotValue.optionalFloat_floatOrNull,
    phaseState_restored, restoreRecords_map _ fun leg _ => closeLeg_restored leg,
    restoreRecords_map _ fun leg _ => closeLeg_restored leg, runtimes_restored, SnapshotValue.int_orElse_zero,
    SnapshotValue.float_orElse_zero, optionalInt_intOrNull,
    SnapshotValue.int_orElse_zero, SnapshotValue.int_orElse_zero]
  rfl

end Recovery

/-! ## Steps of a replay -/

namespace EngineState

theorem passiveClose_put (engine : EngineState) (positionId : String)
    (pending : PendingPassiveClose) :
    (engine.putPassiveClose positionId pending).passiveClose positionId = some pending :=
  (OrderedDict.find_insert _ _ _ _).trans (if_pos rfl)

theorem knownLegs_some {engine : EngineState} {positionId : String} {pending : PendingPassiveClose}
    (held : engine.passiveClose positionId = some pending) (leg : ActiveMakerLeg) :
    engine.knownLegs positionId leg = pending.legsOn leg := by
  rw [knownLegs, held]
  rfl

section Replay

variable [TextCase] {engine : EngineState} {positionId : String}

/-- A known owner stays. -/
theorem restore_known {existing : PendingPassiveClose}
    (held : engine.passiveClose positionId = some existing) (payload : SnapshotFields) :
    engine.restorePassiveCloseFromJournal positionId payload false = (engine, some existing) := by
  rw [restorePassiveCloseFromJournal, held]
  exact if_pos (.inr ⟨rfl, rfl⟩)

/-- A record's owner is taken with everything that it shows. -/
theorem restore_taken (named : positionId ≠ "") {replaceExisting : Bool}
    (new : engine.passiveClose positionId = none ∨ replaceExisting = true)
    (pending : PendingPassiveClose) (position : OpenPosition) :
    ∃ taken, taken.SameView pending ∧
      engine.restorePassiveCloseFromJournal positionId (recoveryPayload pending position)
        replaceExisting = (engine.putPassiveClose positionId taken, some taken) := by
  obtain ⟨recovered, read, view⟩ := recoveryPayload_view positionId pending position
  refine ⟨{ recovered with positionSnapshot :=
      (engine.openPositions.find? positionId).or recovered.positionSnapshot },
    (PendingPassiveClose.view_of_snapshot _ _).trans view, ?_⟩
  have open' : ¬ (positionId = "" ∨ ((engine.passiveClose positionId).isSome = true ∧
      replaceExisting = false)) := by
    rintro (unnamed | ⟨existing, kept⟩)
    · exact named unnamed
    · rcases new with absent | replaced
      · rw [absent] at existing
        cases existing
      · rw [replaced] at kept
        cases kept
  rw [restorePassiveCloseFromJournal, if_neg open', read]

variable {restored : PendingPassiveClose} (held : engine.passiveClose positionId = some restored)
  (leg : ActiveMakerLeg) {clientOrderId : String}

include held

/-- A claimed id that the restored owner knows is added to it. -/
theorem replay_claim_known (filled : clientOrderId ≠ "")
    (known : clientOrderId ∈ restored.clientOrderIds leg) (operation : String) (nowMs : Int)
    (payload : SnapshotFields) :
    (engine.replayPassiveClose (.intentClaimed positionId leg clientOrderId operation nowMs
        payload)).passiveClose positionId =
      some (claimCloseOrderIntent restored leg clientOrderId operation nowMs) := by
  rw [← restored.known_clientOrderId] at known
  rw [replayPassiveClose, if_neg filled, knownLegs_some held, known]
  dsimp only
  rw [Bool.not_true, restore_known held]
  exact passiveClose_put ..

/-- A claimed id that the restored owner does not know brings the record's owner. -/
theorem replay_claim_new (named : positionId ≠ "") (filled : clientOrderId ≠ "")
    (new : clientOrderId ∉ restored.clientOrderIds leg) (operation : String) (nowMs : Int)
    (pending : PendingPassiveClose) (position : OpenPosition) :
    ∃ taken, taken.SameView pending ∧
      (engine.replayPassiveClose (.intentClaimed positionId leg clientOrderId operation nowMs
        (recoveryPayload pending position))).passiveClose positionId =
          some (claimCloseOrderIntent taken leg clientOrderId operation nowMs) := by
  rw [← restored.known_clientOrderId, Bool.not_eq_true] at new
  obtain ⟨taken, view, taking⟩ := @restore_taken _ engine _ named _
    (.inr (rfl : (!false) = true)) pending position
  refine ⟨taken, view, ?_⟩
  rw [replayPassiveClose, if_neg filled, knownLegs_some held, new]
  dsimp only
  rw [taking]
  exact passiveClose_put ..

variable {orderId : String}

omit [TextCase] held in
theorem known_identity :
    (restored.legsOn leg).any (fun known =>
      decide (known.clientOrderId = clientOrderId) || decide (known.orderId = orderId)) = true ↔
      clientOrderId ∈ restored.clientOrderIds leg ∨ orderId ∈ restored.orderIds leg := by
  rw [List.any_eq_true, PendingPassiveClose.clientOrderIds, PendingPassiveClose.orderIds,
    List.mem_map, List.mem_map]
  constructor
  · rintro ⟨known, member, same⟩
    rw [Bool.or_eq_true, decide_eq_true_iff, decide_eq_true_iff] at same
    exact same.imp (fun same => ⟨known, member, same⟩) (fun same => ⟨known, member, same⟩)
  · rintro (⟨known, member, same⟩ | ⟨known, member, same⟩)
    · exact ⟨known, member, by rw [decide_eq_true same, Bool.true_or]⟩
    · exact ⟨known, member, by rw [decide_eq_true same, Bool.or_true]⟩

/-- An acknowledged order of a known leg is added to the restored owner. -/
theorem replay_acknowledge_known (named : positionId ≠ "") (filled : orderId ≠ "")
    (known : clientOrderId ∈ restored.clientOrderIds leg ∨ orderId ∈ restored.orderIds leg)
    (payload : SnapshotFields) :
    (engine.replayPassiveClose (.identityAcknowledged positionId leg orderId clientOrderId
        payload)).passiveClose positionId =
      some (acknowledgeCloseOrderIdentity restored leg orderId clientOrderId 0) := by
  rw [← known_identity] at known
  rw [replayPassiveClose, if_neg (not_or.mpr ⟨filled, named⟩), knownLegs_some held, known]
  dsimp only
  rw [Bool.not_true, restore_known held]
  exact passiveClose_put ..

theorem replay_acknowledge_new (named : positionId ≠ "") (filled : orderId ≠ "")
    (new : ¬ (clientOrderId ∈ restored.clientOrderIds leg ∨ orderId ∈ restored.orderIds leg))
    (pending : PendingPassiveClose) (position : OpenPosition) :
    ∃ taken, taken.SameView pending ∧
      (engine.replayPassiveClose (.identityAcknowledged positionId leg orderId clientOrderId
        (recoveryPayload pending position))).passiveClose positionId =
          some (acknowledgeCloseOrderIdentity taken leg orderId clientOrderId 0) := by
  rw [← known_identity, Bool.not_eq_true] at new
  obtain ⟨taken, view, taking⟩ := @restore_taken _ engine _ named _
    (.inr (rfl : (!false) = true)) pending position
  refine ⟨taken, view, ?_⟩
  rw [replayPassiveClose, if_neg (not_or.mpr ⟨filled, named⟩), knownLegs_some held, new]
  dsimp only
  rw [taking]
  exact passiveClose_put ..

omit held in
/-- A terminal record leaves no owner. -/
theorem replay_terminal (named : positionId ≠ "") :
    (engine.replayPassiveClose (.terminal positionId)).passiveClose positionId = none := by
  rw [replayPassiveClose, if_neg named, passiveClose, RuntimeState.clearTerminalCloseOwners,
    OrderedDict.find_filter, Option.filter_eq_none_iff]
  intro pending _
  rw [RuntimeState.ownedBy, decide_eq_true rfl, Bool.true_or]
  decide

end Replay

end EngineState

/-! ## Sound runs -/

namespace PassiveCloseRun

section Agreement

variable {run : PassiveCloseRun}

/-- A restored owner that shows the live one and knows no order beyond it. -/
structure Agrees (run : PassiveCloseRun) (live restored : PendingPassiveClose) : Prop where
  shows : run.Shows live restored
  within : restored.KeepsIdentities live

/-- An owner that shows what the live one shows agrees with it. -/
theorem agrees_of_same {live restored : PendingPassiveClose}
    (progress : restored.progress = live.progress) (makerOrder : restored.makerOrder = live.makerOrder)
    (clientOrderIds : ∀ leg id, id ∈ restored.clientOrderIds leg ↔ id ∈ live.clientOrderIds leg)
    (orderIds : ∀ leg, ∀ id ≠ "", id ∈ restored.orderIds leg ↔ id ∈ live.orderIds leg)
    (claimed : ∀ leg, ∀ id ∈ run.claimed leg, id ∈ live.clientOrderIds leg)
    (acknowledged : ∀ leg, ∀ id ∈ run.acknowledged leg, id ≠ "" ∧ id ∈ live.orderIds leg)
    (marked : run.marked = some live.progress) : run.Agrees live restored where
  shows :=
    { claimed := fun leg id member => (clientOrderIds leg id).mpr (claimed leg id member)
      acknowledged := fun leg id member =>
        (orderIds leg id (acknowledged leg id member).1).mpr (acknowledged leg id member).2
      makerOrder := makerOrder
      progress := by rw [marked, progress] }
  within :=
    { clientOrderIds := fun leg id member => (clientOrderIds leg id).mp member
      orderIds := fun leg id member named => (orderIds leg id named).mp member }

/-- Ids that the restored owner shows are ids of the live one after a change. -/
theorem Agrees.live_ids {before after restored : PendingPassiveClose}
    (agrees : run.Agrees before restored) (keeps : before.KeepsIdentities after)
    (named : ∀ leg, ∀ id ∈ run.acknowledged leg, id ≠ "") :
    (∀ leg, ∀ id ∈ run.claimed leg, id ∈ after.clientOrderIds leg) ∧
      ∀ leg, ∀ id ∈ run.acknowledged leg, id ≠ "" ∧ id ∈ after.orderIds leg := by
  refine ⟨fun leg id member => ?_, fun leg id member => ?_⟩
  · exact keeps.clientOrderIds leg id
      (agrees.within.clientOrderIds leg id (agrees.shows.claimed leg id member))
  · have filled := named leg id member
    exact ⟨filled, keeps.orderIds leg id
      (agrees.within.orderIds leg id (agrees.shows.acknowledged leg id member) filled) filled⟩

theorem mem_noted {known : ActiveMakerLeg → List String} {side leg : ActiveMakerLeg}
    {id new : String} : id ∈ noted known side new leg ↔ id ∈ known leg ∨ (leg = side ∧ id = new) := by
  rw [noted]
  split_ifs with here
  · rw [List.mem_append, List.mem_singleton]
    exact or_congr_right ⟨fun same => ⟨here, same⟩, And.right⟩
  · rw [or_iff_left (fun both => here both.1)]

/-- A change in memory that leaves the handle on its order. -/
theorem agrees_memory {before after restored : PendingPassiveClose}
    (agrees : run.Agrees before restored) (keeps : before.KeepsIdentities after)
    (maker : after.makerOrder = before.makerOrder) : run.Agrees after restored where
  shows :=
    { claimed := agrees.shows.claimed
      acknowledged := agrees.shows.acknowledged
      makerOrder := agrees.shows.makerOrder.trans maker.symm
      progress := agrees.shows.progress }
  within :=
    { clientOrderIds := fun leg id member =>
        keeps.clientOrderIds leg id (agrees.within.clientOrderIds leg id member)
      orderIds := fun leg id member named =>
        keeps.orderIds leg id (agrees.within.orderIds leg id member named) named }

section Claim

variable {before after restored : PendingPassiveClose} (side : ActiveMakerLeg)
  {clientOrderId : String} (operation : String) (nowMs : Int)

/-- A claim of an id that the restored owner knows, with nothing else to show. -/
theorem agrees_claim_known {next : PassiveCloseRun} (agrees : run.Agrees before restored)
    (keeps : before.KeepsIdentities after) (filled : clientOrderId ≠ "")
    (named : ∀ leg, ∀ id ∈ run.acknowledged leg, id ≠ "")
    (unchanged : run.marked = some after.progress)
    (maker : operation = "submit_passive_order" ∨ after.makerOrder = before.makerOrder)
    (claimed : next.claimed = noted run.claimed side clientOrderId)
    (acknowledged : next.acknowledged = run.acknowledged)
    (marked : next.marked =
      some (claimCloseOrderIntent after side clientOrderId operation nowMs).progress) :
    next.Agrees (claimCloseOrderIntent after side clientOrderId operation nowMs)
      (claimCloseOrderIntent restored side clientOrderId operation nowMs) where
  shows :=
    { claimed := by
        intro leg id member
        rw [claimed, mem_noted] at member
        rw [PendingPassiveClose.mem_claim_clientOrderIds]
        exact member.imp_left (agrees.shows.claimed leg id)
      acknowledged := by
        intro leg id member
        rw [acknowledged] at member
        rw [PendingPassiveClose.mem_claim_orderIds _ _ _ _ _ _ (named leg id member)]
        exact agrees.shows.acknowledged leg id member
      makerOrder := by
        rw [PendingPassiveClose.claim_makerOrder _ _ _ _ _ filled,
          PendingPassiveClose.claim_makerOrder _ _ _ _ _ filled]
        split_ifs with submitted
        · rfl
        · rw [maker.resolve_left submitted]
          exact agrees.shows.makerOrder
      progress := by
        rw [marked, PendingPassiveClose.claim_progress, PendingPassiveClose.claim_progress,
          ← unchanged, agrees.shows.progress] }
  within :=
    { clientOrderIds := by
        intro leg id member
        rw [PendingPassiveClose.mem_claim_clientOrderIds] at member ⊢
        exact member.imp_left (fun member =>
          keeps.clientOrderIds leg id (agrees.within.clientOrderIds leg id member))
      orderIds := by
        intro leg id member filled
        rw [PendingPassiveClose.mem_claim_orderIds _ _ _ _ _ _ filled] at member ⊢
        exact keeps.orderIds leg id (agrees.within.orderIds leg id member filled) filled }

/-- A claim of a new id: the record's owner shows the live one. -/
theorem agrees_claim_new {next : PassiveCloseRun} {taken : PendingPassiveClose}
    (agrees : run.Agrees before restored) (keeps : before.KeepsIdentities after)
    (filled : clientOrderId ≠ "") (named : ∀ leg, ∀ id ∈ run.acknowledged leg, id ≠ "")
    (view : taken.SameView (claimCloseOrderIntent after side clientOrderId operation nowMs))
    (claimed : next.claimed = noted run.claimed side clientOrderId)
    (acknowledged : next.acknowledged = run.acknowledged)
    (marked : next.marked =
      some (claimCloseOrderIntent after side clientOrderId operation nowMs).progress) :
    next.Agrees (claimCloseOrderIntent after side clientOrderId operation nowMs)
      (claimCloseOrderIntent taken side clientOrderId operation nowMs) := by
  obtain ⟨liveClaimed, liveAcknowledged⟩ := agrees.live_ids keeps named
  refine agrees_of_same ?_ ?_ ?_ ?_ ?_ ?_ marked
  · rw [PendingPassiveClose.claim_progress, view.progress]
  · rw [PendingPassiveClose.claim_makerOrder _ _ _ _ _ filled, view.makerOrder,
      PendingPassiveClose.claim_makerOrder _ _ _ _ _ filled]
    split_ifs <;> rfl
  · intro leg id
    rw [PendingPassiveClose.mem_claim_clientOrderIds, view.clientOrderIds, or_iff_left_of_imp]
    rintro ⟨rfl, rfl⟩
    rw [PendingPassiveClose.mem_claim_clientOrderIds]
    exact .inr ⟨rfl, rfl⟩
  · intro leg id filled
    rw [PendingPassiveClose.mem_claim_orderIds _ _ _ _ _ _ filled, view.orderIds]
  · intro leg id member
    rw [claimed, mem_noted] at member
    rw [PendingPassiveClose.mem_claim_clientOrderIds]
    exact member.imp_left (liveClaimed leg id)
  · intro leg id member
    rw [acknowledged] at member
    obtain ⟨filled, known⟩ := liveAcknowledged leg id member
    rw [PendingPassiveClose.mem_claim_orderIds _ _ _ _ _ _ filled]
    exact ⟨filled, known⟩

end Claim

section Acknowledge

variable {before after restored : PendingPassiveClose} (side : ActiveMakerLeg)
  {orderId : String} (clientOrderId : String) (nowMs : Int)

/-- An acknowledgement for a leg that the restored owner knows, with nothing else to show. -/
theorem agrees_acknowledge_known {next : PassiveCloseRun} (agrees : run.Agrees before restored)
    (keeps : before.KeepsIdentities after) (filled : orderId ≠ "")
    (named : ∀ leg, ∀ id ∈ run.acknowledged leg, id ≠ "")
    (unchanged : run.marked = some after.progress) (maker : after.makerOrder = before.makerOrder)
    (claimed : next.claimed = run.claimed)
    (acknowledged : next.acknowledged = noted run.acknowledged side orderId)
    (marked : next.marked =
      some (acknowledgeCloseOrderIdentity after side orderId clientOrderId nowMs).progress) :
    next.Agrees (acknowledgeCloseOrderIdentity after side orderId clientOrderId nowMs)
      (acknowledgeCloseOrderIdentity restored side orderId clientOrderId 0) where
  shows :=
    { claimed := by
        intro leg id member
        rw [claimed] at member
        rw [PendingPassiveClose.mem_acknowledge_clientOrderIds _ _ _ _ filled]
        exact .inl (agrees.shows.claimed leg id member)
      acknowledged := by
        intro leg id member
        rw [acknowledged, mem_noted] at member
        have filledId : id ≠ "" := by
          rcases member with member | ⟨-, rfl⟩
          · exact named leg id member
          · exact filled
        rw [PendingPassiveClose.mem_acknowledge_orderIds _ _ _ _ filled leg filledId]
        exact member.imp_left (agrees.shows.acknowledged leg id)
      makerOrder := by
        rw [PendingPassiveClose.acknowledge_makerOrder,
          PendingPassiveClose.acknowledge_makerOrder, maker]
        exact agrees.shows.makerOrder
      progress := by
        rw [marked, PendingPassiveClose.acknowledge_progress,
          PendingPassiveClose.acknowledge_progress, ← unchanged, agrees.shows.progress] }
  within :=
    { clientOrderIds := by
        intro leg id member
        rw [PendingPassiveClose.mem_acknowledge_clientOrderIds _ _ _ _ filled] at member ⊢
        exact member.imp_left (fun member =>
          keeps.clientOrderIds leg id (agrees.within.clientOrderIds leg id member))
      orderIds := by
        intro leg id member filledId
        rw [PendingPassiveClose.mem_acknowledge_orderIds _ _ _ _ filled leg filledId] at member ⊢
        exact member.imp_left (fun member =>
          keeps.orderIds leg id (agrees.within.orderIds leg id member filledId) filledId) }

/-- An acknowledgement of a new order: the record's owner shows the live one. -/
theorem agrees_acknowledge_new {next : PassiveCloseRun} {taken : PendingPassiveClose}
    (agrees : run.Agrees before restored) (keeps : before.KeepsIdentities after)
    (filled : orderId ≠ "") (named : ∀ leg, ∀ id ∈ run.acknowledged leg, id ≠ "")
    (view : taken.SameView (acknowledgeCloseOrderIdentity after side orderId clientOrderId nowMs))
    (claimed : next.claimed = run.claimed)
    (acknowledged : next.acknowledged = noted run.acknowledged side orderId)
    (marked : next.marked =
      some (acknowledgeCloseOrderIdentity after side orderId clientOrderId nowMs).progress) :
    next.Agrees (acknowledgeCloseOrderIdentity after side orderId clientOrderId nowMs)
      (acknowledgeCloseOrderIdentity taken side orderId clientOrderId 0) := by
  obtain ⟨liveClaimed, liveAcknowledged⟩ := agrees.live_ids keeps named
  refine agrees_of_same ?_ ?_ ?_ ?_ ?_ ?_ marked
  · rw [PendingPassiveClose.acknowledge_progress, view.progress]
  · rw [PendingPassiveClose.acknowledge_makerOrder, view.makerOrder]
  · intro leg id
    rw [PendingPassiveClose.mem_acknowledge_clientOrderIds _ _ _ _ filled, view.clientOrderIds,
      or_iff_left_of_imp]
    rintro ⟨rfl, rfl⟩
    rw [PendingPassiveClose.mem_acknowledge_clientOrderIds _ _ _ _ filled]
    exact .inr ⟨rfl, rfl⟩
  · intro leg id filledId
    rw [PendingPassiveClose.mem_acknowledge_orderIds _ _ _ _ filled leg filledId, view.orderIds,
      or_iff_left_of_imp]
    rintro ⟨rfl, rfl⟩
    rw [PendingPassiveClose.mem_acknowledge_orderIds _ _ _ _ filled leg filledId]
    exact .inr ⟨rfl, rfl⟩
  · intro leg id member
    rw [claimed] at member
    rw [PendingPassiveClose.mem_acknowledge_clientOrderIds _ _ _ _ filled]
    exact .inl (liveClaimed leg id member)
  · intro leg id member
    rw [acknowledged, mem_noted] at member
    rcases member with member | ⟨here, rfl⟩
    · obtain ⟨filledId, known⟩ := liveAcknowledged leg id member
      rw [PendingPassiveClose.mem_acknowledge_orderIds _ _ _ _ filled leg filledId]
      exact ⟨filledId, .inl known⟩
    · rw [PendingPassiveClose.mem_acknowledge_orderIds _ _ _ _ filled leg filled]
      exact ⟨filled, .inr ⟨here, rfl⟩⟩

end Acknowledge

end Agreement

/-- Steps that a run can take one after the other. -/
def StepsOf (positionId : String) (allowed : PassiveCloseRun → PassiveCloseStep → Prop) :
    PassiveCloseRun → List PassiveCloseStep → Prop
  | _, [] => True
  | run, step :: rest =>
    Follows positionId (run.engine.passiveClose positionId)
        (step.engine.passiveClose positionId) step.event ∧
      allowed run step ∧ StepsOf positionId allowed (run.advance positionId step) rest

theorem RunOf.steps {positionId : String}
    {allowed : PassiveCloseRun → PassiveCloseStep → Prop} {run : PassiveCloseRun}
    (reached : RunOf positionId allowed run) {steps : List PassiveCloseStep}
    (taken : StepsOf positionId allowed run steps) :
    RunOf positionId allowed (steps.foldl (advance positionId) run) := by
  induction steps generalizing run with
  | nil => exact reached
  | cons step rest hyp =>
    obtain ⟨follows, may, later⟩ := taken
    exact hyp (.step step reached follows may) later

section Coherence

variable [TextCase] {positionId : String} {run : PassiveCloseRun}

/-- Both sides have an owner that agrees, or none. -/
inductive OwnersAgree (run : PassiveCloseRun) :
    Option PendingPassiveClose → Option PendingPassiveClose → Prop
  | absent : OwnersAgree run none none
  | present {live restored : PendingPassiveClose} (agrees : run.Agrees live restored) :
      OwnersAgree run (some live) (some restored)

omit [TextCase] in
theorem OwnersAgree.agrees {live : PendingPassiveClose} {restored : Option PendingPassiveClose}
    (owners : OwnersAgree run (some live) restored) :
    ∃ owner, restored = some owner ∧ run.Agrees live owner := by
  cases owners with
  | present agrees => exact ⟨_, rfl, agrees⟩

variable (positionId) in
structure Coherent (run : PassiveCloseRun) : Prop where
  named : ∀ leg, ∀ id ∈ run.acknowledged leg, id ≠ ""
  owners : OwnersAgree run (run.engine.passiveClose positionId)
    (run.replayed.passiveClose positionId)

theorem Coherent.rebuilt (coherent : run.Coherent positionId) : run.Rebuilt positionId := by
  have owners := coherent.owners
  constructor
  · generalize run.engine.passiveClose positionId = live at owners ⊢
    generalize run.replayed.passiveClose positionId = restored at owners ⊢
    cases owners with
    | absent => rfl
    | present agrees => rfl
  · intro live restored found held
    rw [found, held] at owners
    cases owners with
    | present agrees => exact agrees.shows

theorem replayed_record (run : PassiveCloseRun) (record : PassiveCloseRecord)
    (pending : PendingPassiveClose) :
    (run.record record pending).replayed = run.replayed.replayPassiveClose record := by
  rw [replayed, PassiveCloseRun.record, EngineState.replayPassiveCloses, List.foldl_append]
  rfl

theorem replayed_terminal {next : PassiveCloseRun}
    (written : next = { run with
      engine := next.engine, records := run.records ++ [.terminal positionId] }) :
    next.replayed = run.replayed.replayPassiveClose (.terminal positionId) := by
  rw [written, replayed, EngineState.replayPassiveCloses, List.foldl_append]
  rfl

/-- A terminal record that is written while the owner stays makes a restart lose the owner,
whatever the run did before. -/
theorem terminal_forgets (named : positionId ≠ "") {engine : EngineState}
    {pending : PendingPassiveClose} (stays : engine.passiveClose positionId = some pending) :
    ¬ (run.advance positionId ⟨engine, .terminal⟩).Rebuilt positionId := by
  intro rebuilt
  have written : run.advance positionId ⟨engine, .terminal⟩ = { run with
      engine := engine, records := run.records ++ [.terminal positionId] } := by
    rw [advance]
    dsimp only
    rw [stays]
    rfl
  have owner := rebuilt.owner
  rw [written, replayed_terminal rfl, EngineState.replay_terminal named] at owner
  change false = (engine.passiveClose positionId).isSome at owner
  rw [stays] at owner
  cases owner

omit [TextCase] in
theorem acknowledgesNew_filled {legs : List PersistedCloseExecutionLeg}
    {orderId clientOrderId : String} (new : acknowledgesNew legs orderId clientOrderId = true) :
    orderId ≠ "" := by
  rw [acknowledgesNew, Bool.and_eq_true, decide_eq_true_iff] at new
  exact new.1

section Step

variable {before after restored : PendingPassiveClose} {engine : EngineState}
  (named : positionId ≠ "") (coherent : run.Coherent positionId)
  (agrees : run.Agrees before restored)
  (held : run.replayed.passiveClose positionId = some restored)
  (keeps : before.KeepsIdentities after)

include named coherent agrees held keeps

theorem claim_coherent (found : run.engine.passiveClose positionId = some before)
    (changed : engine.passiveClose positionId = some after) {position : OpenPosition}
    (owner : position.positionId = positionId) (leg : ActiveMakerLeg) {clientOrderId : String}
    (filled : clientOrderId ≠ "") (operation : String) (nowMs : Int)
    (sound : run.Sound positionId ⟨engine, .claim position leg clientOrderId operation nowMs⟩) :
    (({ run with engine := engine } : PassiveCloseRun).owned positionId after
      (.claim position leg clientOrderId operation nowMs)).Coherent positionId := by
  set claimed := claimCloseOrderIntent after leg clientOrderId operation nowMs with claimedIs
  set next := ({ run with engine := engine } : PassiveCloseRun).owned positionId after
    (.claim position leg clientOrderId operation nowMs) with nextIs
  have live : next.engine.passiveClose positionId = some claimed :=
    EngineState.passiveClose_put engine positionId claimed
  have replay : next.replayed = run.replayed.replayPassiveClose
      (.intentClaimed positionId leg clientOrderId operation nowMs
        (recoveryPayload claimed position)) := by
    rw [nextIs, owned, replayed_record, owner]
    rfl
  refine ⟨coherent.named, ?_⟩
  rw [live, replay]
  by_cases known : clientOrderId ∈ restored.clientOrderIds leg
  · -- The live owner knows the id too, so nothing but the id may be new.
    rcases sound with new | ⟨unchanged, maker⟩
    · exact absurd (keeps.clientOrderIds leg _ (agrees.within.clientOrderIds leg _ known))
        (new after changed)
    · rw [Unchanged, changed] at unchanged
      rw [EngineState.replay_claim_known held leg filled known]
      exact .present (agrees_claim_known leg operation nowMs agrees keeps filled coherent.named
        unchanged (maker.imp_right (fun same => same before after found changed)) rfl rfl rfl)
  · obtain ⟨taken, view, replayed⟩ := EngineState.replay_claim_new held leg named filled known
      operation nowMs claimed position
    rw [replayed]
    exact .present (agrees_claim_new leg operation nowMs agrees keeps filled coherent.named view
      rfl rfl rfl)

theorem acknowledge_coherent (found : run.engine.passiveClose positionId = some before)
    (changed : engine.passiveClose positionId = some after) {position : OpenPosition}
    (owner : position.positionId = positionId) (leg : ActiveMakerLeg)
    (orderId clientOrderId : String) (nowMs : Int)
    (sound : run.Sound positionId ⟨engine, .acknowledge position leg orderId clientOrderId nowMs⟩) :
    (({ run with engine := engine } : PassiveCloseRun).owned positionId after
      (.acknowledge position leg orderId clientOrderId nowMs)).Coherent positionId := by
  have allowed := sound after changed
  cases new : acknowledgesNew (after.legsOn leg) orderId clientOrderId with
  | false =>
    -- The order was acknowledged before, and nothing is written.
    rw [new, if_neg Bool.false_ne_true] at allowed
    obtain ⟨known, maker⟩ := allowed
    set ids := if orderId = "" then run.acknowledged else noted run.acknowledged leg orderId
      with idsIs
    have within : ∀ side, ∀ id ∈ ids side, id ∈ run.acknowledged side := by
      intro side id member
      rw [idsIs] at member
      split_ifs at member with unnamed
      · exact member
      · rw [mem_noted] at member
        rcases member with member | ⟨rfl, rfl⟩
        · exact member
        · exact known.resolve_left unnamed
    have quiet : ({ run with engine := engine } : PassiveCloseRun).owned positionId after
        (.acknowledge position leg orderId clientOrderId nowMs) =
          { run with engine := engine, acknowledged := ids } := by
      rw [owned, new]
      rfl
    have same := agrees_memory agrees keeps (maker before after found changed)
    rw [quiet]
    refine ⟨fun side id member => coherent.named side id (within side id member), ?_⟩
    change OwnersAgree _ (engine.passiveClose positionId) (run.replayed.passiveClose positionId)
    rw [changed, held]
    exact .present ⟨⟨same.shows.claimed,
      fun side id member => same.shows.acknowledged side id (within side id member),
      same.shows.makerOrder, same.shows.progress⟩, same.within⟩
  | true =>
    have filled := acknowledgesNew_filled new
    rw [new, if_pos rfl] at allowed
    set acknowledged := acknowledgeCloseOrderIdentity after leg orderId clientOrderId nowMs
      with acknowledgedIs
    set next := ({ run with engine := engine } : PassiveCloseRun).owned positionId after
      (.acknowledge position leg orderId clientOrderId nowMs) with nextIs
    have written : next = ({ run with
        engine := engine.putPassiveClose positionId acknowledged
        acknowledged := noted run.acknowledged leg orderId } : PassiveCloseRun).record
          (.identityAcknowledged positionId leg orderId clientOrderId
            (recoveryPayload acknowledged position)) acknowledged := by
      rw [nextIs, owned, new, if_pos rfl, if_neg filled, owner]
    have live : next.engine.passiveClose positionId = some acknowledged := by
      rw [written]
      exact EngineState.passiveClose_put engine positionId acknowledged
    have replay : next.replayed = run.replayed.replayPassiveClose
        (.identityAcknowledged positionId leg orderId clientOrderId
          (recoveryPayload acknowledged position)) := by
      rw [written, replayed_record]
      rfl
    have claimedIds : next.claimed = run.claimed := by rw [written]; rfl
    have ids : next.acknowledged = noted run.acknowledged leg orderId := by rw [written]; rfl
    have marked : next.marked = some acknowledged.progress := by rw [written]; rfl
    refine ⟨fun side id member => ?_, ?_⟩
    · rw [ids, mem_noted] at member
      rcases member with member | ⟨-, rfl⟩
      · exact coherent.named side id member
      · exact filled
    rw [live, replay]
    by_cases known : clientOrderId ∈ restored.clientOrderIds leg ∨ orderId ∈ restored.orderIds leg
    · rcases allowed with fresh | ⟨unchanged, maker⟩
      · have knownLive : clientOrderId ∈ after.clientOrderIds leg ∨ orderId ∈ after.orderIds leg :=
          known.imp
            (fun member => keeps.clientOrderIds leg _
              (agrees.within.clientOrderIds leg _ member))
            (fun member => keeps.orderIds leg _
              (agrees.within.orderIds leg _ member filled) filled)
        exact absurd knownLive (not_or.mpr fresh)
      · rw [Unchanged, changed] at unchanged
        rw [EngineState.replay_acknowledge_known held leg named filled known]
        exact .present (agrees_acknowledge_known leg clientOrderId nowMs agrees keeps filled
          coherent.named unchanged (maker before after found changed) claimedIds ids marked)
    · obtain ⟨taken, view, replayed⟩ := EngineState.replay_acknowledge_new held leg named filled
        known acknowledged position
      rw [replayed]
      exact .present (agrees_acknowledge_new leg clientOrderId nowMs agrees keeps filled
        coherent.named view claimedIds ids marked)

end Step

theorem begin_coherent {engine : EngineState} (absent : engine.passiveClose positionId = none) :
    (begin engine).Coherent positionId := by
  refine ⟨fun leg id member => absurd member List.not_mem_nil, ?_⟩
  have restored : (begin engine).replayed.passiveClose positionId = none := by
    change (engine.pendingPassiveCloses.mapEntries _).find? positionId = none
    rw [OrderedDict.find_mapEntries]
    exact congrArg _ absent
  rw [restored]
  change OwnersAgree _ (engine.passiveClose positionId) none
  rw [absent]
  exact .absent

omit [TextCase] in
/-- A snapshot shows the live owner. -/
theorem afterRestart_owner (positionId : String) (engine : EngineState) :
    ∃ positions, engine.afterRestart.passiveClose positionId =
      (engine.passiveClose positionId).map
        (fun pending => pending.afterRestart positions positionId) :=
  ⟨_, OrderedDict.find_mapEntries _ _ _⟩

/-- A sound step keeps the replay and the live state together. -/
theorem advance_coherent (named : positionId ≠ "") (coherent : run.Coherent positionId)
    {step : PassiveCloseStep}
    (follows : Follows positionId (run.engine.passiveClose positionId)
      (step.engine.passiveClose positionId) step.event)
    (sound : run.Sound positionId step) : (run.advance positionId step).Coherent positionId := by
  obtain ⟨engine, event⟩ := step
  have owners := coherent.owners
  rw [advance]
  generalize found : run.engine.passiveClose positionId = live at follows owners
  generalize held : run.replayed.passiveClose positionId = restored at owners
  dsimp only at follows ⊢
  generalize changed : engine.passiveClose positionId = next at follows ⊢
  cases follows with
  | absent event quiet =>
    cases owners
    rcases quiet with rfl | rfl
    · refine ⟨coherent.named, ?_⟩
      change OwnersAgree _ (engine.passiveClose positionId) (run.replayed.passiveClose positionId)
      rw [changed, held]
      exact .absent
    · refine ⟨coherent.named, ?_⟩
      obtain ⟨positions, owner⟩ := afterRestart_owner positionId engine
      change OwnersAgree _ (engine.passiveClose positionId)
        (engine.afterRestart.passiveClose positionId)
      rw [owner, changed]
      exact .absent
  | @kept before after event quiet keeps =>
    obtain ⟨restored, rfl, agrees⟩ := owners.agrees
    rcases quiet with rfl | rfl
    · have same := agrees_memory agrees keeps (sound before after found changed)
      refine ⟨coherent.named, ?_⟩
      change OwnersAgree _ (engine.passiveClose positionId) (run.replayed.passiveClose positionId)
      rw [changed, held]
      exact .present ⟨⟨same.shows.claimed, same.shows.acknowledged, same.shows.makerOrder,
        same.shows.progress⟩, same.within⟩
    · obtain ⟨claimed, acknowledged⟩ := agrees.live_ids keeps coherent.named
      obtain ⟨positions, owner⟩ := afterRestart_owner positionId engine
      have view := after.afterRestart_view positions positionId
      refine ⟨coherent.named, ?_⟩
      change OwnersAgree _ (engine.passiveClose positionId)
        (engine.afterRestart.passiveClose positionId)
      rw [owner, changed]
      exact .present (agrees_of_same view.progress view.makerOrder
        (fun leg id => by rw [view.clientOrderIds]) (fun leg id _ => by rw [view.orderIds])
        claimed acknowledged rfl)
  | @register after position owner =>
    cases owners
    obtain ⟨taken, view, taking⟩ := EngineState.restore_taken named
      (.inl held : _ ∨ false = true) after position
    have replay : (({ run with engine := engine } : PassiveCloseRun).owned positionId after
        (.register position)).replayed = run.replayed.putPassiveClose positionId taken := by
      rw [owned, replayed_record, owner]
      exact congrArg Prod.fst taking
    refine ⟨fun leg id member => absurd member List.not_mem_nil, ?_⟩
    rw [replay, EngineState.passiveClose_put]
    change OwnersAgree _ (engine.passiveClose positionId) _
    rw [changed]
    exact .present (agrees_of_same view.progress view.makerOrder
      (fun leg id => by rw [view.clientOrderIds]) (fun leg id _ => by rw [view.orderIds])
      (fun leg id member => absurd member List.not_mem_nil)
      (fun leg id member => absurd member List.not_mem_nil) rfl)
  | claim position leg operation nowMs owner filled keeps =>
    obtain ⟨restored, rfl, agrees⟩ := owners.agrees
    exact claim_coherent named coherent agrees held keeps found changed owner leg filled operation
      nowMs sound
  | acknowledge position leg orderId clientOrderId nowMs owner keeps =>
    obtain ⟨restored, rfl, agrees⟩ := owners.agrees
    exact acknowledge_coherent named coherent agrees held keeps found changed owner leg orderId
      clientOrderId nowMs sound
  | closed =>
    cases owners
    refine ⟨coherent.named, ?_⟩
    rw [replayed_terminal rfl, EngineState.replay_terminal named]
    change OwnersAgree _ (engine.passiveClose positionId) none
    rw [changed]
    exact .absent
  | registered keeps =>
    have gone : engine.passiveClose positionId = none := sound
    rw [gone] at changed
    cases changed
  | resolve announced =>
    obtain rfl : announced = true := sound
    refine ⟨fun leg id member => absurd member List.not_mem_nil, ?_⟩
    have replay : (({ run with engine := engine } : PassiveCloseRun).ownerless positionId
        (.resolve true)).replayed = run.replayed.replayPassiveClose (.terminal positionId) := by
      rw [ownerless, if_pos rfl, replayed, EngineState.replayPassiveCloses, List.foldl_append]
      rfl
    rw [replay, EngineState.replay_terminal named]
    change OwnersAgree _ (engine.passiveClose positionId) none
    rw [changed]
    exact .absent

theorem sound_run_coherent (named : positionId ≠ "")
    (reached : RunOf positionId (Sound positionId) run) : run.Coherent positionId := by
  induction reached with
  | begin engine absent => exact begin_coherent absent
  | step step reached follows may hyp => exact advance_coherent named hyp follows may

end Coherence

end PassiveCloseRun

/-! ## Changes in memory -/

namespace PendingPassiveClose

theorem KeepsIdentities.refl (pending : PendingPassiveClose) : pending.KeepsIdentities pending :=
  ⟨fun _ _ member => member, fun _ _ member _ => member⟩

/-- A change of one leg that keeps its client order id, and its order id when it has one. -/
theorem changeFirst_keeps {qualifies : PersistedCloseExecutionLeg → Bool}
    {change : PersistedCloseExecutionLeg → PersistedCloseExecutionLeg}
    (clientOrderId : ∀ leg, (change leg).clientOrderId = leg.clientOrderId)
    (orderId : ∀ leg, leg.orderId ≠ "" → (change leg).orderId = leg.orderId)
    {legs changed : List PersistedCloseExecutionLeg}
    (found : changeFirst qualifies change legs = some changed) :
    changed.map PersistedCloseExecutionLeg.clientOrderId =
        legs.map PersistedCloseExecutionLeg.clientOrderId ∧
      ∀ id ∈ legs.map PersistedCloseExecutionLeg.orderId, id ≠ "" →
        id ∈ changed.map PersistedCloseExecutionLeg.orderId := by
  induction legs generalizing changed with
  | nil => cases found
  | cons leg rest hyp =>
    rw [changeFirst] at found
    split_ifs at found with here
    · obtain rfl := Option.some.inj found
      rw [List.map_cons, List.map_cons, clientOrderId]
      refine ⟨rfl, fun id member filled => ?_⟩
      rcases List.mem_cons.mp member with rfl | later
      · rw [List.map_cons, orderId leg filled]
        exact List.mem_cons_self
      · exact List.mem_cons_of_mem _ later
    · obtain ⟨tail, later, rfl⟩ := Option.map_eq_some_iff.mp found
      obtain ⟨same, kept⟩ := hyp later
      rw [List.map_cons, List.map_cons, same]
      refine ⟨rfl, fun id member filled => ?_⟩
      rcases List.mem_cons.mp member with rfl | among
      · exact List.mem_cons_self
      · exact List.mem_cons_of_mem _ (kept id among filled)

/-- A recorded execution keeps the identities of the legs. -/
theorem keepsIdentities_record (pending : PendingPassiveClose) (side : ActiveMakerLeg)
    (fill : OrderFill) (clientOrderId : String) (submittedAtMs : Int) :
    pending.KeepsIdentities (pending.setLegs side
      (recordCloseExecutionLeg (pending.legsOn side) fill clientOrderId submittedAtMs)) := by
  have recorded : ∀ legs : List PersistedCloseExecutionLeg,
      (∀ id ∈ legs.map PersistedCloseExecutionLeg.clientOrderId,
        id ∈ (recordCloseExecutionLeg legs fill clientOrderId submittedAtMs).map
          PersistedCloseExecutionLeg.clientOrderId) ∧
      ∀ id ∈ legs.map PersistedCloseExecutionLeg.orderId, id ≠ "" →
        id ∈ (recordCloseExecutionLeg legs fill clientOrderId submittedAtMs).map
          PersistedCloseExecutionLeg.orderId := by
    intro legs
    rw [recordCloseExecutionLeg]
    split
    · next changed found =>
      have attached (leg : PersistedCloseExecutionLeg) :
          (attachFill fill submittedAtMs leg).clientOrderId = leg.clientOrderId := rfl
      have named (leg : PersistedCloseExecutionLeg) (filled : leg.orderId ≠ "") :
          (attachFill fill submittedAtMs leg).orderId = leg.orderId := if_neg filled
      obtain ⟨same, kept⟩ := changeFirst_keeps attached named found
      rw [same]
      exact ⟨fun id member => member, kept⟩
    · split
      · next changed found =>
        have supplied (leg : PersistedCloseExecutionLeg) :
            (supplyFee fill leg).clientOrderId = leg.clientOrderId ∧
              (supplyFee fill leg).orderId = leg.orderId := by
          rw [supplyFee]
          split_ifs <;> exact ⟨rfl, rfl⟩
        obtain ⟨same, kept⟩ := changeFirst_keeps (fun leg => (supplied leg).1)
          (fun leg _ => (supplied leg).2) found
        rw [same]
        exact ⟨fun id member => member, kept⟩
      · rw [List.map_append, List.map_append]
        exact ⟨fun id member => List.mem_append_left _ member,
          fun id member _ => List.mem_append_left _ member⟩
  constructor
  · intro leg id member
    rw [clientOrderIds_setLegs]
    split_ifs with here
    · rw [← here] at member
      exact (recorded _).1 id member
    · exact member
  · intro leg id member filled
    rw [orderIds_setLegs]
    split_ifs with here
    · rw [← here] at member
      exact (recorded _).2 id member filled
    · exact member

end PendingPassiveClose

/-! ## Two runs -/

section Example

local instance drivenCase : TextCase := .ascii

def drivenPair : OpenPosition where
  positionId := "p1"
  symbol := "BTCUSDT"
  longVenue := .binance
  shortVenue := .bybit
  longQuantity := .finite 1
  shortQuantity := .finite 1
  matchedQuantity := .finite 1
  longEntryPrice := .finite 10
  shortEntryPrice := .finite 10
  openedAtMs := 0

def drivenClose : PendingPassiveClose where
  positionId := "p1"
  reason := "exit"
  targetQuantity := .finite 1
  chunkQuantities := [.finite 1]

def drivenState (pending : PendingPassiveClose) : EngineState where
  pendingPassiveCloses := OrderedDict.empty.insert "p1" pending

/-- The maker's order is claimed. -/
def claimedClose : PendingPassiveClose :=
  claimCloseOrderIntent drivenClose .long "m" "submit_passive_order" 1

/-- The venue accepts it. -/
def heldClose : PendingPassiveClose :=
  { claimedClose with phaseState := { claimedClose.phaseState with makerOrderId := "o1" } }

def ackedClose : PendingPassiveClose := acknowledgeCloseOrderIdentity heldClose .long "o1" "m" 2

def makerExecution (quantity : ℚ) (filledAtMs : Int) : OrderFill where
  venue := .binance
  symbol := "BTCUSDT"
  side := .sell
  quantity := .finite quantity
  price := .finite 10
  orderId := "o1"
  filledAtMs := filledAtMs

/-- An execution of the maker's order is seen. -/
def PendingPassiveClose.executed (pending : PendingPassiveClose) (quantity : ℚ)
    (filledAtMs : Int) : PendingPassiveClose :=
  pending.setLegs .long
    (recordCloseExecutionLeg (pending.legsOn .long) (makerExecution quantity filledAtMs) "m"
      filledAtMs)

/-- Its hedge is claimed under the chunk's client order id. -/
def PendingPassiveClose.hedged (pending : PendingPassiveClose) (nowMs : Int) :
    PendingPassiveClose :=
  claimCloseOrderIntent pending .short "h" "submit_hedge" nowMs

def drivenSteps : List PassiveCloseStep :=
  let first := ackedClose.executed (2 / 5) 3
  let second := (first.hedged 4).executed (3 / 5) 6
  [⟨drivenState drivenClose, .register drivenPair⟩,
    ⟨drivenState drivenClose, .claim drivenPair .long "m" "submit_passive_order" 1⟩,
    ⟨drivenState heldClose, .acknowledge drivenPair .long "o1" "m" 2⟩,
    ⟨drivenState first, .memory⟩,
    ⟨drivenState first, .claim drivenPair .short "h" "submit_hedge" 4⟩,
    ⟨drivenState (first.hedged 4), .snapshot⟩,
    ⟨drivenState second, .memory⟩,
    ⟨drivenState second, .claim drivenPair .short "h" "submit_hedge" 6⟩]

/-- The run after some of the steps. -/
def drivenRun (count : Nat) : PassiveCloseRun :=
  (drivenSteps.take count).foldl (PassiveCloseRun.advance "p1") (PassiveCloseRun.begin {})

theorem keeps_executed (pending : PendingPassiveClose) (quantity : ℚ) (filledAtMs : Int) :
    pending.KeepsIdentities (pending.executed quantity filledAtMs) :=
  pending.keepsIdentities_record .long (makerExecution quantity filledAtMs) "m" filledAtMs

theorem keeps_held : claimedClose.KeepsIdentities heldClose :=
  ⟨fun leg _ member => by cases leg <;> exact member,
    fun leg _ member _ => by cases leg <;> exact member⟩

end Example

end LightFee.Engine
