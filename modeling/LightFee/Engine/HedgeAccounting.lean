import LightFee.Engine.HedgeDelta
import LightFee.Engine.MakerAccounting

/-!
# The hedge's account of a chunk

Venues execute a client order id once, refuse it afterwards, and report truthfully what was
executed under it. The counter of the hedge is exact while no order is counted twice: an
execution that is found again under the chunk's client order id is added again, because
nothing remembers that it was counted.
-/

namespace LightFee.Engine

open LightFee.Venues

/-! ## Moves -/

/-- Everything that the account of a chunk's hedge reads stays; the maker's fill does not
fall. -/
structure PendingPassiveClose.KeepsHedge (before after : PendingPassiveClose) : Prop where
  hedgeFill : after.hedgeFill = before.hedgeFill
  activeMakerLeg : after.phaseState.activeMakerLeg = before.phaseState.activeMakerLeg
  chunkQuantities : after.chunkQuantities = before.chunkQuantities
  activeChunkIndex : after.activeChunkIndex = before.activeChunkIndex
  shortStage : after.shortStage = before.shortStage
  longStage : after.longStage = before.longStage
  fills : after.fillsOn before.hedgeLeg = before.fillsOn before.hedgeLeg
  maker : ∀ {filled : ℚ}, before.makerFill.quantity = .finite filled →
    ∃ more, after.makerFill.quantity = .finite more ∧ filled ≤ more

/-- The work on a chunk, what venues executed before it, and the hedge's fills that were
recorded before the phase. -/
structure HedgeChunk where
  run : HedgeRun
  earlier : List HedgeOrder := []
  before : List OrderFill := []
  /-- The maker's fill when the driver began its cycle; a cycle hedges once. -/
  cycleFillBefore : Option ExactFloat := none

inductive HedgeMove where
  | cycle
  | hedge (call : HedgeCall)
  /-- Reports and orders of the maker, and other passes over the queue. -/
  | work (after : PendingPassiveClose) (queue : List DynValue)
  | switchPhase (nowMs : Int)

/-- The orders of a placement: a used client order id is refused, a new one executes at
most what it asks for, and an acknowledgement names the fill or none yet. -/
structure HedgePlacement.Honest (placement : HedgePlacement) (used : Prop)
    (quantity : ExactFloat) : Prop where
  refuses : used → placement.executed = none ∧ ∃ error, placement.answer = .error error
  within : ∀ executed, placement.executed = some executed →
    0 ≤ executed ∧ (ExactFloat.finite executed).le quantity = true
  names : ∀ fill, placement.answer = .ok fill → ∃ executed, placement.executed = some executed ∧
    (fill.quantity = .finite executed ∨ fill.quantity = .finite 0)

namespace HedgeCall

def normalizedQuantity (call : HedgeCall) : ExactFloat :=
  match call.normalized with
  | .ok normalized => normalized
  | .error _ => .finite 0

def placedOrderIds (call : HedgeCall) : List String :=
  match call.placed.answer with
  | .ok fill => [fill.orderId]
  | .error _ => []

def reconciledOrderIds (call : HedgeCall) : List String :=
  match call.reconciled with
  | .ok (some found) => [found.orderId]
  | _ => []

def retriedOrderIds (call : HedgeCall) : List String :=
  match call.retried.answer with
  | .ok fill => [fill.orderId]
  | .error _ => []

/-- What the ledger makes of a refused client order id. -/
def duplicate (call : HedgeCall) (hedgeCid : String) : DuplicateReconcile :=
  resolveDuplicateConflict hedgeCid call.normalizedQuantity
    (call.reconciled.map (fun found => found.map HedgeReconciliation.toOrderFillReconciliation))
    call.live

end HedgeCall

section Moves

variable [TextCase] (context : HedgeContext)

namespace HedgeRun

/-- The record of an accepted order that a call asks about. -/
def gap (run : HedgeRun) : Option DynValue :=
  activeHedgeTruthGap run.queue run.pending.positionId (hedgeVenue context run.pending)
    run.pending.hedgeLeg

/-- The client order id that a call asks about. -/
def askedId (run : HedgeRun) : String :=
  match run.gap context with
  | some gap => orText (acceptedOrderTruthGapIdentity gap (hedgeVenue context run.pending)
      run.pending.hedgeLeg).2 (hedgeClientOrderId context run.pending)
  | none => hedgeClientOrderId context run.pending

/-- The chunk's executed orders when a call asks the venue. -/
def sentOrders (run : HedgeRun) (call : HedgeCall) : List HedgeOrder :=
  match run.gap context with
  | some _ => run.orders
  | none => (run.place (hedgeVenue context run.pending) (hedgeClientOrderId context run.pending)
      call.placed.executed).orders

end HedgeRun

namespace HedgeChunk

/-- Some order was executed under the client order id. -/
def Used (chunk : HedgeChunk) (orders : List HedgeOrder) (clientOrderId : String) : Prop :=
  ∃ order ∈ orders ++ chunk.earlier,
    order.named (hedgeVenue context chunk.run.pending) clientOrderId = true

/-- What was executed under the client order id. -/
def Executed (chunk : HedgeChunk) (orders : List HedgeOrder) (clientOrderId : String)
    (quantity : ℚ) : Prop :=
  (∃ order ∈ orders ++ chunk.earlier,
      order.named (hedgeVenue context chunk.run.pending) clientOrderId = true ∧
        order.executed = quantity) ∨
    (¬ chunk.Used context orders clientOrderId ∧ quantity = 0)

/-- Truthful answers of a venue. -/
structure Honest (chunk : HedgeChunk) (call : HedgeCall) : Prop where
  normalized : call.normalizedQuantity.isFinite = true
  live : ∀ position, call.live = .ok (some position) → position.quantity.isFinite = true
  placed : chunk.run.gap context = none → call.placed.Honest
    (chunk.Used context chunk.run.orders (hedgeClientOrderId context chunk.run.pending))
    call.normalizedQuantity
  reconciled : ∀ found, call.reconciled = .ok (some found) →
    ∃ quantity, found.quantity = .finite quantity ∧ 0 ≤ quantity ∧
      chunk.Executed context (chunk.run.sentOrders context call) (chunk.run.askedId context)
        quantity
  retried : call.retried.Honest
    (chunk.Used context (chunk.run.sentOrders context call) call.retryClientOrderId)
    (call.duplicate (hedgeClientOrderId context chunk.run.pending)).hedgeRetryQuantity

/-- The driver hedges what the hedge lacks, or else what the cycle added to the maker's
fill. -/
def Driven (chunk : HedgeChunk) (delta : ExactFloat) : Prop :=
  ∃ fillBefore, chunk.cycleFillBefore = some fillBefore ∧ progressTolerance.lt delta = true ∧
    (delta = chunk.run.pending.makerFill.quantity.sub chunk.run.pending.hedgeFill.quantity ∨
      delta = chunk.run.pending.makerFill.quantity.sub fillBefore)

def Admits (chunk : HedgeChunk) : HedgeMove → Prop
  | .cycle => True
  | .hedge call => chunk.Driven call.delta ∧ chunk.Honest context call
  | .work after _ => chunk.run.pending.KeepsHedge after
  | .switchPhase _ => True

def step (chunk : HedgeChunk) : HedgeMove → HedgeChunk
  | .cycle => { chunk with cycleFillBefore := some chunk.run.pending.makerFill.quantity }
  | .hedge call =>
    { chunk with
      run := (submitHedgeForDelta context call chunk.run).2
      cycleFillBefore := none }
  | .work after queue => { chunk with run := { chunk.run with pending := after, queue := queue } }
  | .switchPhase nowMs =>
    let switched := chunk.run.pending.switchPhase nowMs
    { chunk with
      run := { chunk.run with pending := switched }
      before := switched.fillsOn switched.hedgeLeg
      cycleFillBefore := none }

/-- The order that a call asks about was not counted before, its answers name orders that no
recorded fill has, and an order that filled the delta leaves nothing to retry. -/
structure SoundCall (chunk : HedgeChunk) (call : HedgeCall) : Prop where
  within : call.normalizedQuantity.le call.delta = true
  uncounted : ∀ order ∈ chunk.run.orders ++ chunk.earlier,
    order.named (hedgeVenue context chunk.run.pending) (chunk.run.askedId context) = true →
      1 / 10 ^ 12 < order.executed → order ∈ chunk.run.orders ∧ order.counted = false
  fresh : ∀ orderId ∈ call.placedOrderIds ++ call.reconciledOrderIds ++ call.retriedOrderIds,
    orderId ≠ "" ∧ orderId ∉
      (chunk.run.pending.fillsOn chunk.run.pending.hedgeLeg).map OrderFill.orderId
  distinct : ∀ orderId ∈ call.retriedOrderIds, orderId ∉ call.reconciledOrderIds
  settled : ∀ found position, call.reconciled = .ok (some found) →
    call.live = .ok (some position) →
      (call.normalizedQuantity.sub flatDust).le found.quantity = true →
        position.quantity.abs.le flatDust = true

/-- No phase is left after a hedge was executed. -/
def Sound (chunk : HedgeChunk) : HedgeMove → Prop
  | .cycle => True
  | .hedge call => chunk.SoundCall context call
  | .work _ _ => True
  | .switchPhase _ => ∀ order ∈ chunk.run.orders, order.executed = 0

end HedgeChunk

/-- The states that a chunk reaches by moves that meet a condition. -/
inductive HedgeChunkRun (start : HedgeChunk) (meets : HedgeChunk → HedgeMove → Prop) :
    HedgeChunk → Prop where
  | start : HedgeChunkRun start meets start
  | step {chunk : HedgeChunk} (run : HedgeChunkRun start meets chunk) (move : HedgeMove)
      (admits : chunk.Admits context move) (sound : meets chunk move) :
      HedgeChunkRun start meets (chunk.step context move)

end Moves

/-! ## The account -/

def HedgeOrder.resolved (order : HedgeOrder) : ℚ := if order.counted then order.executed else 0

/-- What was executed under orders whose fill was learned. -/
def resolvedQuantity (orders : List HedgeOrder) : ℚ := (orders.map HedgeOrder.resolved).sum

def executedQuantity (orders : List HedgeOrder) : ℚ := (orders.map HedgeOrder.executed).sum

/-- Counter and recorded fills are what the resolved orders executed, and all orders together
executed at most what the maker filled. -/
structure HedgeChunk.Accounted (chunk : HedgeChunk) : Prop where
  counter : chunk.run.pending.hedgeFill.quantity = .finite (resolvedQuantity chunk.run.orders)
  recorded : filledQuantity (chunk.run.pending.fillsOn chunk.run.pending.hedgeLeg) =
    filledQuantity chunk.before + resolvedQuantity chunk.run.orders
  bounded : (ExactFloat.finite (executedQuantity chunk.run.orders)).le
    (chunk.run.pending.makerFill.quantity.add progressTolerance) = true

/-! ## Frames -/

/-- A hedge is sent to the same venue under the same client order id. -/
structure PendingPassiveClose.SameHedge (before after : PendingPassiveClose) : Prop where
  activeMakerLeg : after.phaseState.activeMakerLeg = before.phaseState.activeMakerLeg
  chunkQuantities : after.chunkQuantities = before.chunkQuantities
  activeChunkIndex : after.activeChunkIndex = before.activeChunkIndex
  shortStage : after.shortStage = before.shortStage
  longStage : after.longStage = before.longStage

namespace PendingPassiveClose

variable {before after : PendingPassiveClose}

theorem SameHedge.leg (same : before.SameHedge after) : after.hedgeLeg = before.hedgeLeg := by
  rw [hedgeLeg, hedgeLeg, same.activeMakerLeg]

theorem SameHedge.venue (same : before.SameHedge after) (context : HedgeContext) :
    hedgeVenue context after = hedgeVenue context before := by
  rw [hedgeVenue, hedgeVenue, same.leg]

theorem SameHedge.clientOrderId (same : before.SameHedge after) (context : HedgeContext) :
    hedgeClientOrderId context after = hedgeClientOrderId context before := by
  rw [hedgeClientOrderId, hedgeClientOrderId, hedgeStage, hedgeStage, currentChunkSuffix,
    currentChunkSuffix, same.leg, same.shortStage, same.longStage, same.chunkQuantities,
    same.activeChunkIndex]

theorem KeepsHedge.same (keeps : before.KeepsHedge after) : before.SameHedge after :=
  ⟨keeps.activeMakerLeg, keeps.chunkQuantities, keeps.activeChunkIndex, keeps.shortStage,
    keeps.longStage⟩

theorem sameHedge_setLegs (pending : PendingPassiveClose) (side : ActiveMakerLeg)
    (legs : List PersistedCloseExecutionLeg) : pending.SameHedge (pending.setLegs side legs) := by
  cases side <;> exact ⟨rfl, rfl, rfl, rfl, rfl⟩

/-- A change of legs that keeps their fills. -/
theorem keepsHedge_setLegs (pending : PendingPassiveClose) (side : ActiveMakerLeg)
    {legs : List PersistedCloseExecutionLeg}
    (kept : legs.filterMap PersistedCloseExecutionLeg.fill = pending.fillsOn side) :
    pending.KeepsHedge (pending.setLegs side legs) := by
  have fills : (pending.setLegs side legs).fillsOn pending.hedgeLeg =
      pending.fillsOn pending.hedgeLeg := by
    rw [fillsOn, legsOn_setLegs]
    split_ifs with equal
    · rw [← equal]
      exact kept
    · rfl
  have same := sameHedge_setLegs pending side legs
  exact {
    hedgeFill := by cases side <;> rfl
    activeMakerLeg := same.activeMakerLeg
    chunkQuantities := same.chunkQuantities
    activeChunkIndex := same.activeChunkIndex
    shortStage := same.shortStage
    longStage := same.longStage
    fills := fills
    maker := fun {filled} known => ⟨filled, by cases side <;> exact known, le_refl filled⟩ }

theorem KeepsHedge.refl (pending : PendingPassiveClose) : pending.KeepsHedge pending :=
  ⟨rfl, rfl, rfl, rfl, rfl, rfl, rfl, fun {filled} known => ⟨filled, known, le_refl filled⟩⟩

theorem keepsHedge_claim (pending : PendingPassiveClose) (side : ActiveMakerLeg)
    (clientOrderId operation : String) (nowMs : Int) :
    pending.KeepsHedge (claimCloseOrderIntent pending side clientOrderId operation nowMs) := by
  have claimed : pending.KeepsHedge
      (if (pending.legsOn side).any (fun leg => decide (leg.clientOrderId = clientOrderId)) then
        pending
      else pending.setLegs side (pending.legsOn side ++
        [{ clientOrderId := clientOrderId, submitStartedAtMs := nowMs }])) := by
    split_ifs
    · exact .refl pending
    · exact keepsHedge_setLegs pending side (by simp [fillsOn])
  unfold claimCloseOrderIntent
  extract_lets legs kept
  split_ifs
  · exact ⟨claimed.hedgeFill, claimed.activeMakerLeg, claimed.chunkQuantities,
      claimed.activeChunkIndex, claimed.shortStage, claimed.longStage, claimed.fills,
      claimed.maker⟩
  · exact claimed

theorem keepsHedge_acknowledge (pending : PendingPassiveClose) (side : ActiveMakerLeg)
    (orderId clientOrderId : String) (nowMs : Int) :
    pending.KeepsHedge
      (acknowledgeCloseOrderIdentity pending side orderId clientOrderId nowMs) := by
  rw [acknowledgeCloseOrderIdentity]
  split_ifs
  · exact keepsHedge_setLegs pending side (acknowledgedLegs_fills _ _ _ _)
  · exact .refl pending

/-- A report of the maker leaves the hedge alone. -/
theorem keepsHedge_progress (pending : PendingPassiveClose) {progress : MakerProgress}
    {quantity : ℚ} (names : progress.cumulativeQuantity = .finite quantity) (nowMs : Int) :
    pending.KeepsHedge (applyMakerProgress pending progress nowMs) := by
  by_cases raises : (pending.makerFill.quantity.add progressTolerance).lt
      progress.cumulativeQuantity = true
  · obtain ⟨makerFill, phase, chunks, active, -⟩ := applyMakerProgress_raises nowMs raises
    have hedge : (applyMakerProgress pending progress nowMs).hedgeFill = pending.hedgeFill ∧
        (applyMakerProgress pending progress nowMs).shortStage = pending.shortStage ∧
        (applyMakerProgress pending progress nowMs).longStage = pending.longStage ∧
        (applyMakerProgress pending progress nowMs).legsOn pending.hedgeLeg =
          pending.legsOn pending.hedgeLeg := by
      rw [applyMakerProgress, if_pos raises, hedgeLeg]
      cases pending.phaseState.activeMakerLeg <;> exact ⟨rfl, rfl, rfl, rfl⟩
    exact {
      hedgeFill := hedge.1
      activeMakerLeg := by rw [phase]
      chunkQuantities := chunks
      activeChunkIndex := active
      shortStage := hedge.2.1
      longStage := hedge.2.2.1
      fills := congrArg (List.filterMap PersistedCloseExecutionLeg.fill) hedge.2.2.2
      maker := by
        intro filled known
        refine ⟨quantity, (congrArg PendingPassiveLegFill.quantity makerFill).trans names, ?_⟩
        rw [known, names, progressTolerance, ExactFloat.add_finite, ExactFloat.lt_finite,
          decide_eq_true_iff] at raises
        linarith }
  · rw [applyMakerProgress, if_neg raises]
    exact .refl pending

end PendingPassiveClose

/-! ## Counting a fill -/

/-- A recorded fill is recognised by its order. -/
theorem recordsFill_names {fill : OrderFill} {clientOrderId : String}
    {leg : PersistedCloseExecutionLeg} (named : fill.orderId ≠ "")
    (records : recordsFill fill clientOrderId leg = true) :
    ∃ existing, leg.fill = some existing ∧ existing.orderId = fill.orderId := by
  rw [recordsFill] at records
  split at records
  · cases records
  · next existing known =>
    refine ⟨existing, known, ?_⟩
    simp only [Bool.and_eq_true, Bool.or_eq_true, decide_eq_true_eq] at records
    rcases records.1.1.1.2 with ⟨-, same⟩ | ⟨⟨unnamed, -⟩, -⟩
    · exact same
    · exact absurd unnamed named

namespace PendingPassiveClose

/-- A fill of an order that no recorded fill names is added to counter and legs. -/
theorem recordHedgeFill_adds (pending : PendingPassiveClose) {fill : OrderFill} (hedgeCid : String)
    (submittedAtMs : Int) (named : fill.orderId ≠ "")
    (fresh : fill.orderId ∉ (pending.fillsOn pending.hedgeLeg).map OrderFill.orderId) :
    (pending.recordHedgeFill fill hedgeCid submittedAtMs).hedgeFill.quantity =
        pending.hedgeFill.quantity.add fill.quantity ∧
      ((pending.recordHedgeFill fill hedgeCid submittedAtMs).fillsOn pending.hedgeLeg).Perm
        (fill :: pending.fillsOn pending.hedgeLeg) ∧
      (pending.recordHedgeFill fill hedgeCid submittedAtMs).makerFill = pending.makerFill ∧
      pending.SameHedge (pending.recordHedgeFill fill hedgeCid submittedAtMs) := by
  have unrecorded : (!(pending.legsOn pending.hedgeLeg).any
      (recordsFill fill (orText (fill.clientOrderId.getD "") hedgeCid))) = true := by
    rw [Bool.not_eq_true', List.any_eq_false]
    intro leg member records
    obtain ⟨existing, known, same⟩ := recordsFill_names named records
    apply fresh
    rw [← same]
    exact List.mem_map_of_mem (List.mem_filterMap.mpr ⟨leg, member, known⟩)
  have added := recordCloseExecutionLeg_adds submittedAtMs
    (Bool.or_eq_true_iff.mpr (.inr unrecorded))
  rw [recordHedgeFill]
  refine ⟨?_, ?_, ?_, ?_⟩
  · cases pending.hedgeLeg <;> rfl
  · rw [fillsOn, legsOn_setLegs, if_pos rfl]
    exact added
  · cases pending.hedgeLeg <;> rfl
  · cases pending.hedgeLeg <;> exact ⟨rfl, rfl, rfl, rfl, rfl⟩

end PendingPassiveClose

/-! ## Orders of the chunk -/

def HedgeOrder.key (order : HedgeOrder) : Venue × String := (order.venue, order.clientOrderId)

def HedgeOrder.mark (order : HedgeOrder) : HedgeOrder := { order with counted := true }

theorem named_iff {venue : Venue} {clientOrderId : String} {order : HedgeOrder} :
    order.named venue clientOrderId = true ↔ order.key = (venue, clientOrderId) := by
  rw [HedgeOrder.named, HedgeOrder.key, Bool.and_eq_true, decide_eq_true_iff, decide_eq_true_iff,
    Prod.mk.injEq]

/-- The only order of the name is marked. -/
theorem mark_split {orders : List HedgeOrder} {order : HedgeOrder} {venue : Venue}
    {clientOrderId : String} (keys : (orders.map HedgeOrder.key).Nodup) (member : order ∈ orders)
    (named : order.named venue clientOrderId = true) :
    ∃ front back, orders = front ++ order :: back ∧
      orders.modify (orders.findIdx (HedgeOrder.named venue clientOrderId)) HedgeOrder.mark =
        front ++ order.mark :: back := by
  induction orders with
  | nil => exact absurd member List.not_mem_nil
  | cons head rest hyp =>
    rw [List.map_cons, List.nodup_cons] at keys
    rw [List.findIdx_cons]
    cases here : head.named venue clientOrderId with
    | true =>
      have first : order = head := by
        rcases List.mem_cons.mp member with same | among
        · exact same
        · have repeated : head.key ∈ rest.map HedgeOrder.key := by
            rw [named_iff.mp here, ← named_iff.mp named]
            exact List.mem_map_of_mem among
          exact absurd repeated keys.1
      exact ⟨[], rest, by rw [first]; rfl, by rw [first]; rfl⟩
    | false =>
      have among : order ∈ rest := by
        rcases List.mem_cons.mp member with same | among
        · rw [same, here] at named
          cases named
        · exact among
      obtain ⟨front, back, split, marked⟩ := hyp keys.2 among
      refine ⟨head :: front, back, by rw [split]; rfl, ?_⟩
      rw [cond_false, List.modify_succ_cons, marked]
      rfl

theorem executedQuantity_append (front back : List HedgeOrder) :
    executedQuantity (front ++ back) = executedQuantity front + executedQuantity back := by
  simp [executedQuantity]

theorem resolvedQuantity_append (front back : List HedgeOrder) :
    resolvedQuantity (front ++ back) = resolvedQuantity front + resolvedQuantity back := by
  simp [resolvedQuantity]

theorem executedQuantity_cons (order : HedgeOrder) (rest : List HedgeOrder) :
    executedQuantity (order :: rest) = order.executed + executedQuantity rest := by
  simp [executedQuantity]

theorem resolvedQuantity_cons (order : HedgeOrder) (rest : List HedgeOrder) :
    resolvedQuantity (order :: rest) = order.resolved + resolvedQuantity rest := by
  simp [resolvedQuantity]

/-- Orders that are not counted executed nothing, so all of it is resolved. -/
theorem executed_resolved {orders : List HedgeOrder}
    (zero : ∀ order ∈ orders, order.counted = false → order.executed = 0) :
    executedQuantity orders = resolvedQuantity orders := by
  rw [executedQuantity, resolvedQuantity]
  congr 1
  apply List.map_congr_left
  intro order member
  rw [HedgeOrder.resolved]
  split_ifs with counted
  · rfl
  · exact zero order member (Bool.eq_false_of_not_eq_true counted)

/-! ## What a call keeps -/

section Kept

variable (context : HedgeContext)

namespace HedgeRun

/-- The order under the hedge's client order id. -/
def IsBase (run : HedgeRun) (order : HedgeOrder) : Prop :=
  order.named (hedgeVenue context run.pending) (hedgeClientOrderId context run.pending) = true

/-- The hedge's client order id is spent: what it executed was counted. -/
def Spent (run : HedgeRun) : Prop :=
  ∃ order ∈ run.orders, run.IsBase context order ∧ order.counted = true ∧
    1 / 10 ^ 12 < order.executed

/-- Only the order under the hedge's client order id may be counted later. -/
def Open (run : HedgeRun) : Prop :=
  ∀ order ∈ run.orders, order.counted = false → order.executed = 0 ∨ run.IsBase context order

structure Kept (run : HedgeRun) (before : List OrderFill) (maker limit : ℚ) : Prop where
  counter : run.pending.hedgeFill.quantity = .finite (resolvedQuantity run.orders)
  recorded : filledQuantity (run.pending.fillsOn run.pending.hedgeLeg) =
    filledQuantity before + resolvedQuantity run.orders
  makerFill : run.pending.makerFill.quantity = .finite maker
  bounded : executedQuantity run.orders ≤ limit
  nonneg : ∀ order ∈ run.orders, 0 ≤ order.executed
  keys : (run.orders.map HedgeOrder.key).Nodup
  settled : run.Spent context ∨ run.Open context

end HedgeRun

variable {context} {run : HedgeRun} {before : List OrderFill} {maker limit : ℚ}

namespace HedgeRun

theorem isBase_same {after : HedgeRun} (same : run.pending.SameHedge after.pending)
    (order : HedgeOrder) : after.IsBase context order ↔ run.IsBase context order := by
  rw [IsBase, IsBase, same.venue, same.clientOrderId]

theorem Kept.keeps (kept : run.Kept context before maker limit) {after : PendingPassiveClose}
    (keeps : run.pending.KeepsHedge after) (queue : List DynValue) {more higher : ℚ}
    (makerFill : after.makerFill.quantity = .finite more) (raises : limit ≤ higher) :
    ({ run with pending := after, queue := queue } : HedgeRun).Kept context before more
      higher where
  counter := by
    rw [keeps.hedgeFill]
    exact kept.counter
  recorded := by
    rw [keeps.same.leg, keeps.fills]
    exact kept.recorded
  makerFill := makerFill
  bounded := kept.bounded.trans raises
  nonneg := kept.nonneg
  keys := kept.keys
  settled := by
    have base (order : HedgeOrder) :
        ({ run with pending := after, queue := queue } : HedgeRun).IsBase context order ↔
          run.IsBase context order := isBase_same keeps.same order
    refine kept.settled.imp ?_ ?_
    · rintro ⟨order, member, named, counted, positive⟩
      exact ⟨order, member, (base order).mpr named, counted, positive⟩
    · intro others order member uncounted
      exact (others order member uncounted).imp_right (base order).mpr

theorem Kept.claim (kept : run.Kept context before maker limit) (clientOrderId operation : String)
    (nowMs : Int) : (run.claim clientOrderId operation nowMs).Kept context before maker limit := by
  have keeps := run.pending.keepsHedge_claim run.pending.hedgeLeg clientOrderId operation nowMs
  have keepsMaker := run.pending.keepsMaker_claim run.pending.hedgeLeg clientOrderId operation nowMs
  apply kept.keeps keeps run.queue ?_ (le_refl limit)
  rw [keepsMaker.makerFill]
  exact kept.makerFill

theorem Kept.acknowledge (kept : run.Kept context before maker limit) (orderId clientOrderId : String)
    (nowMs : Int) : (run.acknowledge orderId clientOrderId nowMs).Kept context before maker limit := by
  have keeps := run.pending.keepsHedge_acknowledge run.pending.hedgeLeg orderId clientOrderId nowMs
  have keepsMaker := run.pending.keepsMaker_acknowledge run.pending.hedgeLeg orderId clientOrderId nowMs
  apply kept.keeps keeps run.queue ?_ (le_refl limit)
  rw [keepsMaker.makerFill]
  exact kept.makerFill

/-- A new order within the room, under the hedge's client order id or once that is spent. -/
theorem Kept.place (kept : run.Kept context before maker limit) {venue : Venue} {clientOrderId : String}
    {executed : Option ℚ} (here : venue = hedgeVenue context run.pending)
    (unknown : ∀ quantity, executed = some quantity → ∀ order ∈ run.orders,
      ¬ order.named venue clientOrderId = true)
    (room : ∀ quantity, executed = some quantity → 0 ≤ quantity ∧
      executedQuantity run.orders + quantity ≤ limit)
    (allowed : run.Spent context ∨ clientOrderId = hedgeClientOrderId context run.pending) :
    (run.place venue clientOrderId executed).Kept context before maker limit := by
  cases executed with
  | none => exact kept
  | some quantity =>
    obtain ⟨nonneg, within⟩ := room quantity rfl
    exact {
      counter := by
        rw [HedgeRun.place, resolvedQuantity_append, resolvedQuantity_cons]
        simpa [HedgeOrder.resolved, resolvedQuantity] using kept.counter
      recorded := by
        rw [HedgeRun.place, resolvedQuantity_append, resolvedQuantity_cons]
        simpa [HedgeOrder.resolved, resolvedQuantity] using kept.recorded
      makerFill := kept.makerFill
      bounded := by
        rw [HedgeRun.place, executedQuantity_append, executedQuantity_cons]
        simpa [executedQuantity] using within
      nonneg := by
        intro order member
        rcases List.mem_append.mp member with among | new
        · exact kept.nonneg order among
        · rw [List.mem_singleton.mp new]
          exact nonneg
      keys := by
        rw [HedgeRun.place, List.map_append, List.nodup_append]
        refine ⟨kept.keys, List.nodup_singleton _, ?_⟩
        intro left among right new
        obtain ⟨order, member, rfl⟩ := List.mem_map.mp among
        obtain rfl := List.mem_singleton.mp new
        intro same
        exact unknown quantity rfl order member (named_iff.mpr same)
      settled := by
        rcases kept.settled with ⟨order, member, spent⟩ | others
        · exact .inl ⟨order, List.mem_append_left _ member, spent⟩
        · rcases allowed with ⟨order, member, spent⟩ | base
          · exact .inl ⟨order, List.mem_append_left _ member, spent⟩
          · refine .inr (fun order member uncounted => ?_)
            rcases List.mem_append.mp member with among | new
            · exact others order among uncounted
            · rw [List.mem_singleton.mp new]
              exact .inr (named_iff.mpr (by rw [base, here]; rfl)) }

/-- A fill of an order that was not counted yet. -/
theorem Kept.count (kept : run.Kept context before maker limit) {order : HedgeOrder} {venue : Venue}
    {clientOrderId : String} {fill : OrderFill} (hedgeCid : String) (nowMs : Int)
    (member : order ∈ run.orders) (named : order.named venue clientOrderId = true)
    (uncounted : order.counted = false) (names : fill.quantity = .finite order.executed)
    (identified : fill.orderId ≠ "")
    (fresh : fill.orderId ∉ (run.pending.fillsOn run.pending.hedgeLeg).map OrderFill.orderId) :
    (run.count venue clientOrderId fill hedgeCid nowMs).Kept context before maker limit ∧
      executedQuantity (run.count venue clientOrderId fill hedgeCid nowMs).orders =
        executedQuantity run.orders ∧
      resolvedQuantity (run.count venue clientOrderId fill hedgeCid nowMs).orders =
        resolvedQuantity run.orders + order.executed ∧
      order.mark ∈ (run.count venue clientOrderId fill hedgeCid nowMs).orders ∧
      ∀ other ∈ (run.count venue clientOrderId fill hedgeCid nowMs).orders,
        other ∈ run.orders ∨ other = order.mark := by
  obtain ⟨counter, fills, makerFill, same⟩ :=
    run.pending.recordHedgeFill_adds hedgeCid nowMs identified fresh
  obtain ⟨front, back, split, marked⟩ := mark_split kept.keys member named
  set after := run.count venue clientOrderId fill hedgeCid nowMs with counted
  have orders : after.orders = front ++ order.mark :: back := marked
  have base (other : HedgeOrder) : after.IsBase context other ↔ run.IsBase context other :=
    isBase_same same other
  have executed : executedQuantity after.orders = executedQuantity run.orders := by
    rw [orders, split, executedQuantity_append, executedQuantity_append, executedQuantity_cons,
      executedQuantity_cons]
    rfl
  have resolved : resolvedQuantity after.orders = resolvedQuantity run.orders + order.executed := by
    have old : order.resolved = 0 := by
      rw [HedgeOrder.resolved, uncounted]
      rfl
    have new : order.mark.resolved = order.executed := rfl
    rw [orders, split, resolvedQuantity_append, resolvedQuantity_append, resolvedQuantity_cons,
      resolvedQuantity_cons, old, new]
    ring
  have among (other : HedgeOrder) (inside : other ∈ after.orders) :
      other ∈ run.orders ∨ other = order.mark := by
    rw [orders] at inside
    rw [split]
    rcases List.mem_append.mp inside with left | right
    · exact .inl (List.mem_append_left _ left)
    · rcases List.mem_cons.mp right with here | later
      · exact .inr here
      · exact .inl (List.mem_append_right _ (List.mem_cons_of_mem _ later))
  have marks : order.mark ∈ after.orders := by
    rw [orders]
    exact List.mem_append_right _ List.mem_cons_self
  refine ⟨?_, executed, resolved, marks, among⟩
  exact {
    counter := by
      rw [resolved]
      refine counter.trans ?_
      rw [kept.counter, names, ExactFloat.add_finite]
    recorded := by
      have leg : after.pending.hedgeLeg = run.pending.hedgeLeg := same.leg
      have total : filledQuantity (after.pending.fillsOn run.pending.hedgeLeg) =
          filledQuantity (fill :: run.pending.fillsOn run.pending.hedgeLeg) :=
        filledQuantity_perm fills
      rw [leg, total, filledQuantity, List.map_cons, List.sum_cons, ← filledQuantity,
        kept.recorded, resolved, names, ExactFloat.toRat_finite]
      ring
    makerFill := (congrArg PendingPassiveLegFill.quantity makerFill).trans kept.makerFill
    bounded := by
      rw [executed]
      exact kept.bounded
    nonneg := by
      intro other inside
      rcases among other inside with old | new
      · exact kept.nonneg other old
      · rw [new]
        exact kept.nonneg order member
    keys := by
      have keys := kept.keys
      rw [split] at keys
      rw [orders]
      simpa [HedgeOrder.key, HedgeOrder.mark] using keys
    settled := by
      rcases kept.settled with ⟨spent, inside, isBase, was, positive⟩ | others
      · refine .inl ⟨spent, ?_, (base spent).mpr isBase, was, positive⟩
        rw [split] at inside
        rw [orders]
        rcases List.mem_append.mp inside with left | right
        · exact List.mem_append_left _ left
        · rcases List.mem_cons.mp right with here | later
          · rw [here, uncounted] at was
            cases was
          · exact List.mem_append_right _ (List.mem_cons_of_mem _ later)
      · refine .inr (fun other inside still => ?_)
        rcases among other inside with old | new
        · exact (others other old still).imp_right (base other).mpr
        · rw [new] at still
          cases still }

end HedgeRun

end Kept

/-! ## One call -/

/-- What the venue says of the order that is asked about is what an order of the chunk
executed that was not counted, and every answer names an order that no recorded fill has. -/
structure HedgeRun.Ready (run : HedgeRun) (call : HedgeCall) (venue : Venue) (asked : String) :
    Prop where
  answers : ∀ found, call.reconciled = .ok (some found) →
    ∃ quantity, found.quantity = .finite quantity ∧ 0 ≤ quantity ∧ (1 / 10 ^ 12 < quantity →
      ∃ order ∈ run.orders, order.named venue asked = true ∧ order.counted = false ∧
        order.executed = quantity)
  fresh : ∀ orderId ∈ call.placedOrderIds ++ call.reconciledOrderIds ++ call.retriedOrderIds,
    orderId ≠ "" ∧ orderId ∉ (run.pending.fillsOn run.pending.hedgeLeg).map OrderFill.orderId

section Calls

variable {context : HedgeContext} {run : HedgeRun} {before : List OrderFill} {maker limit : ℚ}
  {call : HedgeCall} {venue : Venue} {asked : String}

/-- The same orders and fills are asked about. -/
theorem HedgeRun.Ready.keeps (ready : run.Ready call venue asked) {after : PendingPassiveClose}
    (keeps : run.pending.KeepsHedge after) (queue : List DynValue) :
    ({ run with pending := after, queue := queue } : HedgeRun).Ready call venue asked where
  answers := ready.answers
  fresh := by
    rw [keeps.same.leg, keeps.fills]
    exact ready.fresh

theorem HedgeRun.Ready.acknowledge (ready : run.Ready call venue asked)
    (orderId clientOrderId : String) (nowMs : Int) :
    (run.acknowledge orderId clientOrderId nowMs).Ready call venue asked :=
  ready.keeps (run.pending.keepsHedge_acknowledge _ orderId clientOrderId nowMs) run.queue

theorem orText_left {first : String} (second : String) (given : first ≠ "") :
    orText first second = first := if_neg given

theorem confirmedHedge_some {found : HedgeReconciliation}
    (confirmed : confirmedHedge call = some found) :
    call.reconciled = .ok (some found) ∧
      flatDust.lt (positiveFloat found.quantity) = true := by
  rw [confirmedHedge] at confirmed
  split at confirmed
  · next other known =>
    split_ifs at confirmed with confirms
    obtain rfl := Option.some.inj confirmed
    exact ⟨known, (Bool.and_eq_true _ _ ▸ confirms).1⟩
  · cases confirmed

theorem reconciled_orderId {found : HedgeReconciliation}
    (known : call.reconciled = .ok (some found)) :
    found.orderId ∈ call.placedOrderIds ++ call.reconciledOrderIds ++ call.retriedOrderIds := by
  rw [HedgeCall.reconciledOrderIds, known]
  simp

/-- A confirmed fill is counted. -/
theorem HedgeRun.Kept.confirmed (kept : run.Kept context before maker limit)
    (ready : run.Ready call venue asked) {found : HedgeReconciliation}
    (confirmed : confirmedHedge call = some found) (pending : PendingPassiveClose)
    (orderId clientOrderId hedgeCid : String) (nowMs : Int) :
    (run.count venue asked (reconciledHedge context pending call found orderId clientOrderId)
      hedgeCid nowMs).Kept context before maker limit := by
  obtain ⟨known, positive⟩ := confirmedHedge_some confirmed
  obtain ⟨quantity, names, nonneg, executed⟩ := ready.answers found known
  obtain ⟨identified, fresh⟩ := ready.fresh _ (reconciled_orderId known)
  rw [names, positiveFloat_finite nonneg, flatDust, ExactFloat.lt_finite,
    decide_eq_true_iff] at positive
  obtain ⟨order, member, named, uncounted, same⟩ := executed (by linarith)
  have fill : (reconciledHedge context pending call found orderId clientOrderId).orderId =
      found.orderId := orText_left orderId identified
  refine (kept.count hedgeCid nowMs member named uncounted ?_ ?_ ?_).1
  · rw [same, ← positiveFloat_finite nonneg, ← names]
    rfl
  · rw [fill]
    exact identified
  · rw [fill]
    exact fresh

/-- An acknowledged order: its fill is counted, or what a look at the order finds. -/
theorem HedgeRun.Kept.acknowledged [TextCase] (kept : run.Kept context before maker limit)
    {fill : OrderFill}
    (ready : run.Ready call (hedgeVenue context run.pending)
      (hedgeClientOrderId context run.pending))
    (answer : call.placed.answer = .ok fill)
    (filled : (ExactFloat.finite 0).lt fill.quantity = true → ∃ order ∈ run.orders,
      order.named (hedgeVenue context run.pending) (hedgeClientOrderId context run.pending) = true ∧
        order.counted = false ∧ fill.quantity = .finite order.executed) :
    ((afterHedgeAck context call fill run).2).Kept context before maker limit := by
  unfold afterHedgeAck
  extract_lets hedgeCid venue named filledQty acknowledged asks residual success partly counted
  have same : run.pending.SameHedge acknowledged.pending :=
    (run.pending.keepsHedge_acknowledge _ fill.orderId named call.nowMs).same
  have after : acknowledged.Kept context before maker limit := kept.acknowledge _ _ _
  have asked : acknowledged.Ready call venue hedgeCid := ready.acknowledge _ _ _
  have own (known : OrderFill) : acknowledged.countOwn context hedgeCid known call =
      acknowledged.count venue hedgeCid known hedgeCid call.nowMs := by
    rw [countOwn, same.venue, same.clientOrderId]
  split
  · next found confirmed =>
    have confirmed : confirmedHedge call = some found := by
      split_ifs at confirmed
      exact confirmed
    extract_lets known
    change (acknowledged.countOwn context hedgeCid known call).Kept context before maker limit
    rw [own]
    exact after.confirmed asked confirmed _ _ _ _ _
  · change counted.Kept context before maker limit
    rw [show counted = if (ExactFloat.finite 0).lt fill.quantity = true then
      acknowledged.countOwn context hedgeCid fill call else acknowledged from rfl]
    split_ifs with positive
    · obtain ⟨order, member, named, uncounted, names⟩ := filled positive
      obtain ⟨identified, fresh⟩ := asked.fresh fill.orderId (by
        rw [HedgeCall.placedOrderIds, answer]
        simp)
      rw [own]
      exact (after.count hedgeCid call.nowMs member named uncounted names identified fresh).1
    · exact after

/-- Another failure: what a look at the order finds is counted. -/
theorem HedgeRun.Kept.failed [TextCase] (kept : run.Kept context before maker limit)
    (ready : run.Ready call (hedgeVenue context run.pending)
      (hedgeClientOrderId context run.pending)) (error : HedgeError) :
    ((afterHedgeError context call error run).2).Kept context before maker limit := by
  unfold afterHedgeError
  extract_lets hedgeCid accepted
  split
  · next found confirmed =>
    have confirmed : confirmedHedge call = some found := by
      split_ifs at confirmed
      exact confirmed
    exact kept.confirmed ready confirmed _ _ _ _ _
  · split_ifs
    · change (run.registerTruthGap context error.acceptedOrderId accepted call.nowMs).Kept _ _ _ _
      rw [registerTruthGap]
      split_ifs
      · have after := kept.acknowledge error.acceptedOrderId accepted call.nowMs
        exact after.keeps (.refl _) _ after.makerFill (le_refl limit)
      · exact kept
    · exact kept

end Calls

section Duplicates

variable {context : HedgeContext} {run : HedgeRun} {before : List OrderFill} {maker limit : ℚ}
  {call : HedgeCall}

/-- A new order that was executed is known under its name. -/
theorem HedgeRun.placed_mem (run : HedgeRun) (venue : Venue) (clientOrderId : String)
    {executed : Option ℚ} {quantity : ℚ} (given : executed = some quantity) :
    ∃ order ∈ (run.place venue clientOrderId executed).orders,
      order.named venue clientOrderId = true ∧ order.counted = false ∧
        order.executed = quantity := by
  subst given
  exact ⟨_, List.mem_append_right _ List.mem_cons_self, named_iff.mpr rfl, rfl, rfl⟩

/-- A retry within the room, once the hedge's client order id is spent. -/
theorem HedgeRun.Kept.retried [TextCase] (kept : run.Kept context before maker limit)
    (spent : run.Spent context) {used : Prop} {quantity : ExactFloat}
    (honest : call.retried.Honest used quantity)
    (unused : ∀ order ∈ run.orders,
      order.named (hedgeVenue context run.pending) call.retryClientOrderId = true → used)
    (room : ∀ executed, 0 ≤ executed → (ExactFloat.finite executed).le quantity = true →
      executedQuantity run.orders + executed ≤ limit)
    (fresh : ∀ orderId ∈ call.retriedOrderIds,
      orderId ≠ "" ∧ orderId ∉ (run.pending.fillsOn run.pending.hedgeLeg).map OrderFill.orderId)
    (found : DuplicateReconcile) :
    ((retryHedge context call found run).2).Kept context before maker limit := by
  unfold retryHedge
  extract_lets placed
  have claims := run.pending.keepsHedge_claim run.pending.hedgeLeg call.retryClientOrderId
    "place_order_duplicate_retry" call.nowMs
  have claimed := kept.claim call.retryClientOrderId "place_order_duplicate_retry" call.nowMs
  have sent : placed.Kept context before maker limit := by
    apply claimed.place
    · exact (claims.same.venue context).symm
    · intro executed known order member named
      rw [(honest.refuses (unused order member named)).1] at known
      cases known
    · intro executed known
      obtain ⟨nonneg, within⟩ := honest.within executed known
      exact ⟨nonneg, room executed nonneg within⟩
    · left
      obtain ⟨order, member, isBase, counted, positive⟩ := spent
      exact ⟨order, member, (isBase_same claims.same order).mpr isBase, counted, positive⟩
  split
  · exact sent
  · next fill answer =>
    extract_lets acknowledged own counted
    change counted.Kept context before maker limit
    have names : placed.pending = claimCloseOrderIntent run.pending run.pending.hedgeLeg
        call.retryClientOrderId "place_order_duplicate_retry" call.nowMs := by
      change (HedgeRun.place _ _ _ _).pending = _
      cases call.retried.executed <;> rfl
    have same : run.pending.SameHedge placed.pending := by
      rw [names]
      exact claims.same
    have acknowledges := placed.pending.keepsHedge_acknowledge placed.pending.hedgeLeg
      fill.orderId (orText (fill.clientOrderId.getD "") call.retryClientOrderId) call.nowMs
    have after : acknowledged.Kept context before maker limit := sent.acknowledge _ _ _
    rw [show counted = if (ExactFloat.finite 0).lt fill.quantity = true then
      acknowledged.countOwn context call.retryClientOrderId own call else acknowledged from rfl]
    split_ifs with positive
    · obtain ⟨executed, known, filled⟩ := honest.names fill answer
      have whole : fill.quantity = .finite executed := by
        rcases filled with whole | zero
        · exact whole
        · rw [zero, ExactFloat.lt_self] at positive
          cases positive
      obtain ⟨order, member, named, uncounted, executes⟩ :=
        (run.claim call.retryClientOrderId "place_order_duplicate_retry" call.nowMs).placed_mem
          (hedgeVenue context run.pending) call.retryClientOrderId known
      obtain ⟨identified, unseen⟩ := fresh fill.orderId (by
        rw [HedgeCall.retriedOrderIds, answer]
        exact List.mem_singleton.mpr rfl)
      have venue : hedgeVenue context acknowledged.pending = hedgeVenue context run.pending :=
        (acknowledges.same.venue context).trans (same.venue context)
      have fills : acknowledged.pending.fillsOn acknowledged.pending.hedgeLeg =
          run.pending.fillsOn run.pending.hedgeLeg := by
        have first : placed.pending.fillsOn placed.pending.hedgeLeg =
            run.pending.fillsOn run.pending.hedgeLeg := by
          rw [same.leg, names]
          exact claims.fills
        have leg : acknowledged.pending.hedgeLeg = placed.pending.hedgeLeg :=
          acknowledges.same.leg
        rw [← first, leg]
        exact acknowledges.fills
      have names : own.quantity = .finite order.executed := by
        rw [executes]
        exact whole
      have new : own.orderId ∉ (acknowledged.pending.fillsOn
          acknowledged.pending.hedgeLeg).map OrderFill.orderId := by
        rw [fills]
        exact unseen
      rw [countOwn, venue]
      exact (after.count _ call.nowMs member named uncounted names identified new).1
    · exact after

/-- What the venue says of a refused client order id. -/
theorem duplicate_reconciled (call : HedgeCall) (hedgeCid : String)
    (positive : (ExactFloat.finite 0).lt (call.duplicate hedgeCid).reconciledQty = true) :
    ∃ found, call.reconciled = .ok (some found) ∧
      (call.duplicate hedgeCid).reconciledQty = positiveFloat found.quantity ∧
      (call.duplicate hedgeCid).orderId = found.orderId := by
  obtain ⟨order, answered, executed, named⟩ := resolveDuplicate_reconciled positive
  obtain ⟨found, known, same⟩ := answered_of_map answered
  subst same
  exact ⟨found, known, executed, named⟩

theorem duplicate_live (call : HedgeCall) (hedgeCid : String)
    (holds : flatDust.lt (call.duplicate hedgeCid).liveQty = true) :
    ∃ position, call.live = .ok (some position) ∧
      (call.duplicate hedgeCid).liveQty = positiveFloat position.quantity :=
  resolveDuplicate_live holds

/-- A retry asks for what the earlier order left of the delta, when an order that filled the
delta leaves no position. -/
theorem duplicate_retries {hedgeCid : String} {target : ℚ}
    (normalized : call.normalizedQuantity = .finite target) (positive : 0 ≤ target)
    (finite : ∀ position, call.live = .ok (some position) → position.quantity.isFinite = true)
    (answers : ∀ found, call.reconciled = .ok (some found) →
      ∃ quantity, found.quantity = .finite quantity ∧ 0 ≤ quantity)
    (settled : ∀ found position, call.reconciled = .ok (some found) →
      call.live = .ok (some position) →
        (call.normalizedQuantity.sub flatDust).le found.quantity = true →
          position.quantity.abs.le flatDust = true)
    (retries : (call.duplicate hedgeCid).shouldRetryWithNewClientId = true) :
    ∃ quantity, (call.duplicate hedgeCid).reconciledQty = .finite quantity ∧
      1 / 10 ^ 9 < quantity ∧
        ∀ executed, (ExactFloat.finite executed).le
          (call.duplicate hedgeCid).hedgeRetryQuantity = true →
            executed ≤ max (target - quantity) 0 := by
  have cases_ := retries
  rw [HedgeCall.duplicate, normalized] at cases_
  have decided := resolveDuplicate_retries positive cases_
  rw [← normalized] at decided
  change _ ∨ _ at decided
  rcases decided with ⟨full, filled, shows, -⟩ | ⟨part, left⟩
  · -- The venue shows a position although the order filled the delta.
    obtain ⟨found, known, reconciled, -⟩ := duplicate_reconciled call hedgeCid filled
    obtain ⟨position, live, shown⟩ := duplicate_live call hedgeCid shows
    obtain ⟨quantity, names, nonneg⟩ := answers found known
    obtain ⟨size, sized⟩ := ExactFloat.finite_of_isFinite (finite position live)
    have whole : (call.normalizedQuantity.sub flatDust).le found.quantity = true := by
      change ExactFloat.le _ (call.duplicate hedgeCid).reconciledQty = true at full
      rw [reconciled, names, positiveFloat_finite nonneg, normalized, flatDust,
        ExactFloat.sub_finite, ExactFloat.max_finite, ExactFloat.le_finite,
        decide_eq_true_iff] at full
      rw [names, normalized, flatDust, ExactFloat.sub_finite, ExactFloat.le_finite]
      exact decide_eq_true ((le_max_left _ _).trans full)
    have flat := settled found position known live whole
    change flatDust.lt (call.duplicate hedgeCid).liveQty = true at shows
    rw [shown, sized, positiveFloat_abs, flatDust, ExactFloat.lt_finite,
      decide_eq_true_iff] at shows
    rw [sized, ExactFloat.abs_finite, flatDust, ExactFloat.le_finite, decide_eq_true_iff] at flat
    exact absurd shows (not_lt.mpr flat)
  · change flatDust.lt (call.duplicate hedgeCid).reconciledQty = true at part
    change (call.duplicate hedgeCid).remainingQty =
      (call.normalizedQuantity.sub (call.duplicate hedgeCid).reconciledQty).max _ at left
    have filled : (ExactFloat.finite 0).lt (call.duplicate hedgeCid).reconciledQty = true := by
      have dust : (ExactFloat.finite 0).lt flatDust = true := by decide +kernel
      exact ExactFloat.pos_of_le dust (ExactFloat.le_of_lt part)
    obtain ⟨found, known, reconciled, -⟩ := duplicate_reconciled call hedgeCid filled
    obtain ⟨quantity, names, nonneg⟩ := answers found known
    rw [names, positiveFloat_finite nonneg] at reconciled
    rw [reconciled, flatDust, ExactFloat.lt_finite, decide_eq_true_iff] at part
    rw [reconciled, normalized, ExactFloat.sub_finite, ExactFloat.max_finite] at left
    refine ⟨quantity, reconciled, part, fun executed within => ?_⟩
    rw [DuplicateReconcile.hedgeRetryQuantity, left] at within
    split_ifs at within with holds
    · obtain ⟨position, live, shown⟩ := duplicate_live call hedgeCid holds
      obtain ⟨size, sized⟩ := ExactFloat.finite_of_isFinite (finite position live)
      rw [shown, sized, positiveFloat_abs, ExactFloat.min_finite, ExactFloat.le_finite,
        decide_eq_true_iff] at within
      exact within.trans (min_le_left _ _)
    · rw [ExactFloat.le_finite, decide_eq_true_iff] at within
      exact within

/-- Two orders of one name are the same. -/
theorem HedgeRun.Kept.unique (kept : run.Kept context before maker limit) {left right : HedgeOrder}
    (leftMember : left ∈ run.orders) (rightMember : right ∈ run.orders)
    (same : left.key = right.key) : left = right :=
  List.inj_on_of_nodup_map kept.keys leftMember rightMember same

/-- A refused client order id: the earlier order is counted, and what it left is retried. -/
theorem HedgeRun.Kept.refused [TextCase] (kept : run.Kept context before maker limit)
    (others : run.Open context)
    (ready : run.Ready call (hedgeVenue context run.pending)
      (hedgeClientOrderId context run.pending))
    {target : ℚ} (normalized : call.normalizedQuantity = .finite target) (positive : 0 ≤ target)
    (finite : ∀ position, call.live = .ok (some position) → position.quantity.isFinite = true)
    (settled : ∀ found position, call.reconciled = .ok (some found) →
      call.live = .ok (some position) →
        (call.normalizedQuantity.sub flatDust).le found.quantity = true →
          position.quantity.abs.le flatDust = true)
    {used : Prop}
    (honest : call.retried.Honest used
      (call.duplicate (hedgeClientOrderId context run.pending)).hedgeRetryQuantity)
    (unused : ∀ order ∈ run.orders,
      order.named (hedgeVenue context run.pending) call.retryClientOrderId = true → used)
    (room : resolvedQuantity run.orders + target ≤ limit)
    (distinct : ∀ orderId ∈ call.retriedOrderIds, orderId ∉ call.reconciledOrderIds) :
    ((afterDuplicateHedge context call.normalizedQuantity call run).2).Kept context before
      maker limit := by
  unfold afterDuplicateHedge
  extract_lets hedgeCid reconciled found counted
  have answers : ∀ found, call.reconciled = .ok (some found) →
      ∃ quantity, found.quantity = .finite quantity ∧ 0 ≤ quantity := by
    intro found known
    obtain ⟨quantity, names, nonneg, -⟩ := ready.answers found known
    exact ⟨quantity, names, nonneg⟩
  have retries (again : found.shouldRetryWithNewClientId = true) :=
    duplicate_retries normalized positive finite answers settled again
  by_cases holds : fillDust.lt found.reconciledQty = true
  · have filled : (ExactFloat.finite 0).lt found.reconciledQty = true :=
      ExactFloat.pos_of_le (by decide +kernel) (ExactFloat.le_of_lt holds)
    obtain ⟨truth, known, quantity, orderId⟩ := duplicate_reconciled call hedgeCid filled
    obtain ⟨executed, names, nonneg, finds⟩ := ready.answers truth known
    obtain ⟨identified, fresh⟩ := ready.fresh _ (reconciled_orderId known)
    have reconciledQty : found.reconciledQty = .finite executed := by
      rw [← positiveFloat_finite nonneg, ← names]
      exact quantity
    rw [reconciledQty, fillDust, ExactFloat.lt_finite, decide_eq_true_iff] at holds
    obtain ⟨order, member, named, uncounted, same⟩ := finds holds
    have counts : counted = run.count (hedgeVenue context run.pending) hedgeCid
        (duplicateHedge context run.pending call found) hedgeCid call.nowMs := by
      apply if_pos
      rw [reconciledQty, fillDust, ExactFloat.lt_finite]
      exact decide_eq_true holds
    have fill : (duplicateHedge context run.pending call found).quantity =
        .finite order.executed := by
      rw [same]
      exact reconciledQty
    have newId : (duplicateHedge context run.pending call found).orderId = truth.orderId := orderId
    obtain ⟨after, total, resolved, marks, among⟩ := kept.count hedgeCid call.nowMs member named
      uncounted fill (by rw [newId]; exact identified) (by rw [newId]; exact fresh)
    obtain ⟨-, fills, -, sameHedge⟩ := run.pending.recordHedgeFill_adds hedgeCid call.nowMs
      (by rw [newId]; exact identified) (by rw [newId]; exact fresh)
    rw [← counts] at after total resolved marks among
    have sameHedge : run.pending.SameHedge counted.pending := by
      rw [counts]
      exact sameHedge
    have isBase : run.IsBase context order := named
    split_ifs with clears again
    · exact after
    · obtain ⟨filled, stated, -, within⟩ := retries again
      obtain rfl : executed = filled :=
        ExactFloat.finite.inj (reconciledQty.symm.trans stated)
      have balanced : executedQuantity counted.orders = resolvedQuantity counted.orders := by
        apply executed_resolved
        intro other inside still
        rcases among other inside with old | new
        · rcases others other old still with zero | base
          · exact zero
          · have twin : other = order.mark :=
              after.unique inside marks
                ((named_iff.mp base).trans (named_iff.mp isBase).symm)
            rw [twin] at still
            cases still
        · rw [new] at still
          cases still
      apply after.retried ?_ honest
      · intro other inside namedRetry
        rw [sameHedge.venue context] at namedRetry
        rcases among other inside with old | new
        · exact unused other old namedRetry
        · exact unused order member (by rw [new] at namedRetry; exact namedRetry)
      · intro more nonneg asked
        have left := within more asked
        have bound := after.bounded
        rcases le_total (target - executed) 0 with met | under
        · rw [max_eq_right met] at left
          linarith
        · rw [max_eq_left under] at left
          rw [balanced, resolved, same]
          linarith
      · intro orderId retried
        obtain ⟨named, unseen⟩ := ready.fresh orderId (List.mem_append_right _ retried)
        refine ⟨named, ?_⟩
        rw [sameHedge.leg]
        intro seen
        have mapped := (fills.map OrderFill.orderId).mem_iff (a := orderId)
        rw [counts] at seen
        rcases List.mem_cons.mp (mapped.mp seen) with first | earlier
        · apply distinct orderId retried
          rw [HedgeCall.reconciledOrderIds, known, first]
          exact List.mem_singleton.mpr newId
        · exact unseen earlier
      · exact ⟨order.mark, marks, (isBase_same sameHedge order.mark).mpr isBase, rfl, by
          rw [HedgeOrder.mark, same]
          exact holds⟩
    · exact after
  · have skipped : counted = run := if_neg holds
    rw [skipped]
    split_ifs with clears again
    · exact kept
    · obtain ⟨quantity, names, above, -⟩ := retries again
      change found.reconciledQty = _ at names
      rw [names, fillDust, ExactFloat.lt_finite, decide_eq_true_iff] at holds
      exact absurd (by linarith : (1 / 10 ^ 12 : ℚ) < quantity) holds
    · exact kept

end Duplicates

/-- A placement adds at most one order, which is not counted. -/
theorem HedgeRun.mem_place {run : HedgeRun} {venue : Venue} {clientOrderId : String}
    {executed : Option ℚ} {order : HedgeOrder} :
    order ∈ (run.place venue clientOrderId executed).orders ↔ order ∈ run.orders ∨
      ∃ quantity, executed = some quantity ∧
        order = { venue := venue, clientOrderId := clientOrderId, executed := quantity } := by
  cases executed with
  | none => simp [HedgeRun.place]
  | some quantity => simp [HedgeRun.place]

theorem HedgeRun.resolved_place (run : HedgeRun) (venue : Venue) (clientOrderId : String)
    (executed : Option ℚ) :
    resolvedQuantity (run.place venue clientOrderId executed).orders =
      resolvedQuantity run.orders := by
  cases executed with
  | none => rfl
  | some quantity =>
    rw [HedgeRun.place, resolvedQuantity_append, resolvedQuantity_cons]
    simp [HedgeOrder.resolved, resolvedQuantity]

section Chunks

variable [TextCase] {context : HedgeContext} {chunk : HedgeChunk} {call : HedgeCall} {maker limit : ℚ}

namespace HedgeChunk

/-- A sound call meets a client order id that is not spent. -/
theorem SoundCall.opens (sound : chunk.SoundCall context call)
    (kept : chunk.run.Kept context chunk.before maker limit) (gap : chunk.run.gap context = none) :
    chunk.run.Open context := by
  have asked : chunk.run.askedId context = hedgeClientOrderId context chunk.run.pending := by
    rw [HedgeRun.askedId, gap]
  rcases kept.settled with ⟨order, member, isBase, counted, positive⟩ | others
  · have uncounted := sound.uncounted order (List.mem_append_left _ member)
      (by rw [asked]; exact isBase) positive
    rw [uncounted.2] at counted
    cases counted
  · exact others

/-- The answers of a sound call are about an order of the chunk that was not counted. -/
theorem Honest.ready (honest : chunk.Honest context call) (sound : chunk.SoundCall context call) :
    ∀ found, call.reconciled = .ok (some found) → ∃ quantity, found.quantity = .finite quantity ∧
      0 ≤ quantity ∧ (1 / 10 ^ 12 < quantity → ∃ order ∈ chunk.run.sentOrders context call,
        order.named (hedgeVenue context chunk.run.pending) (chunk.run.askedId context) = true ∧
          order.counted = false ∧ order.executed = quantity) := by
  intro found known
  obtain ⟨quantity, names, nonneg, executed⟩ := honest.reconciled found known
  refine ⟨quantity, names, nonneg, fun positive => ?_⟩
  rcases executed with ⟨order, member, named, same⟩ | ⟨-, zero⟩
  · -- An order from before the call is counted later only when it belongs to the chunk.
    have old (known : order ∈ chunk.run.orders ++ chunk.earlier) :
        order ∈ chunk.run.orders ∧ order.counted = false :=
      sound.uncounted order known named (by rw [same]; exact positive)
    rcases List.mem_append.mp member with sent | earlier
    · rw [HedgeRun.sentOrders] at sent ⊢
      split at sent
      · exact ⟨order, sent, named, (old (List.mem_append_left _ sent)).2, same⟩
      · next missing =>
        refine ⟨order, sent, named, ?_, same⟩
        rcases HedgeRun.mem_place.mp sent with among | ⟨_, -, rfl⟩
        · exact (old (List.mem_append_left _ among)).2
        · rfl
    · obtain ⟨among, uncounted⟩ := old (List.mem_append_right _ earlier)
      refine ⟨order, ?_, named, uncounted, same⟩
      rw [HedgeRun.sentOrders]
      split
      · exact among
      · exact HedgeRun.mem_place.mpr (.inl among)
  · rw [zero] at positive
    exact absurd positive (by norm_num)

/-- A delta within the room is sent. -/
theorem SoundCall.sends (sound : chunk.SoundCall context call)
    (honest : chunk.Honest context call) (kept : chunk.run.Kept context chunk.before maker limit)
    (gap : chunk.run.gap context = none) {target : ℚ}
    (normalized : call.normalizedQuantity = .finite target) (positive : 0 ≤ target)
    (room : resolvedQuantity chunk.run.orders + target ≤ limit) :
    ((sendHedge context call.normalizedQuantity call chunk.run).2).Kept context chunk.before
      maker limit := by
  have others := sound.opens kept gap
  have asked : chunk.run.askedId context = hedgeClientOrderId context chunk.run.pending := by
    rw [HedgeRun.askedId, gap]
  have placed := honest.placed gap
  have claims := chunk.run.pending.keepsHedge_claim chunk.run.pending.hedgeLeg
    (hedgeClientOrderId context chunk.run.pending) "place_order" call.nowMs
  unfold sendHedge
  extract_lets hedgeCid venue sent
  have orders : sent.orders = chunk.run.sentOrders context call := by
    rw [HedgeRun.sentOrders, gap]
    change (HedgeRun.place _ _ _ _).orders = (HedgeRun.place _ _ _ _).orders
    cases call.placed.executed <;> rfl
  have pending : sent.pending = claimCloseOrderIntent chunk.run.pending
      chunk.run.pending.hedgeLeg hedgeCid "place_order" call.nowMs := by
    change (HedgeRun.place _ _ _ _).pending = _
    cases call.placed.executed <;> rfl
  have same : chunk.run.pending.SameHedge sent.pending := by
    rw [pending]
    exact claims.same
  have unknown (quantity : ℚ) (known : call.placed.executed = some quantity) :
      ∀ order ∈ chunk.run.orders, ¬ order.named venue hedgeCid = true := by
    intro order member named
    rw [(placed.refuses ⟨order, List.mem_append_left _ member, named⟩).1] at known
    cases known
  have after : sent.Kept context chunk.before maker limit := by
    apply (kept.claim hedgeCid "place_order" call.nowMs).place
    · exact (claims.same.venue context).symm
    · exact unknown
    · intro quantity known
      obtain ⟨nonneg, within⟩ := placed.within quantity known
      rw [normalized, ExactFloat.le_finite, decide_eq_true_iff] at within
      have balanced : executedQuantity chunk.run.orders = resolvedQuantity chunk.run.orders := by
        apply executed_resolved
        intro order member uncounted
        rcases others order member uncounted with zero | base
        · exact zero
        · exact absurd base (unknown quantity known order member)
      exact ⟨nonneg, by change executedQuantity chunk.run.orders + _ ≤ _; linarith⟩
    · exact .inr (claims.same.clientOrderId context).symm
  have sentOpen : sent.Open context := by
    rcases after.settled with ⟨order, member, isBase, counted, positive⟩ | others
    · rw [orders, HedgeRun.sentOrders, gap] at member
      rcases HedgeRun.mem_place.mp member with among | ⟨_, -, rfl⟩
      · have uncounted := sound.uncounted order (List.mem_append_left _ among)
          (by rw [asked]; exact (HedgeRun.isBase_same same order).mp isBase) positive
        rw [uncounted.2] at counted
        cases counted
      · cases counted
    · exact others
  have fills : sent.pending.fillsOn sent.pending.hedgeLeg =
      chunk.run.pending.fillsOn chunk.run.pending.hedgeLeg := by
    rw [same.leg, pending]
    exact claims.fills
  have ready : sent.Ready call (hedgeVenue context sent.pending)
      (hedgeClientOrderId context sent.pending) := by
    rw [same.venue, same.clientOrderId]
    exact {
      answers := by
        rw [orders, ← asked]
        exact honest.ready sound
      fresh := by
        rw [fills]
        exact sound.fresh }
  have resolved : resolvedQuantity sent.orders = resolvedQuantity chunk.run.orders := by
    rw [orders, HedgeRun.sentOrders, gap]
    exact chunk.run.resolved_place _ _ _
  split
  · next fill answer =>
    apply after.acknowledged ready answer
    intro filled
    obtain ⟨quantity, known, names⟩ := placed.names fill answer
    obtain ⟨order, member, named, uncounted, executes⟩ :=
      (chunk.run.claim hedgeCid "place_order" call.nowMs).placed_mem venue hedgeCid known
    refine ⟨order, member, ?_, uncounted, ?_⟩
    · rw [same.venue, same.clientOrderId]
      exact named
    · rw [executes]
      rcases names with whole | zero
      · exact whole
      · rw [zero, ExactFloat.lt_self] at filled
        cases filled
  · next error answer =>
    split_ifs
    · apply after.refused sentOpen ready normalized positive honest.live sound.settled
      · rw [same.clientOrderId]
        exact honest.retried
      · intro order member named
        rw [same.venue] at named
        rw [orders] at member
        exact ⟨order, List.mem_append_left _ member, named⟩
      · rw [resolved]
        exact room
      · exact sound.distinct
    · exact after.failed ready error

/-- An accepted order without a known fill is looked up, and counted when it is confirmed. -/
theorem SoundCall.resolves (sound : chunk.SoundCall context call)
    (honest : chunk.Honest context call) (kept : chunk.run.Kept context chunk.before maker limit)
    {gap : DynValue} (found : chunk.run.gap context = some gap) :
    ((resolveTruthGap context gap call chunk.run).2).Kept context chunk.before maker limit := by
  have asked : chunk.run.askedId context = orText
      (acceptedOrderTruthGapIdentity gap (hedgeVenue context chunk.run.pending)
        chunk.run.pending.hedgeLeg).2 (hedgeClientOrderId context chunk.run.pending) := by
    rw [HedgeRun.askedId, found]
  have ready : chunk.run.Ready call (hedgeVenue context chunk.run.pending)
      (chunk.run.askedId context) := {
    answers := by
      have answers := honest.ready sound
      rw [HedgeRun.sentOrders, found] at answers
      exact answers
    fresh := sound.fresh }
  unfold resolveTruthGap
  extract_lets pending hedgeCid named accepted
  split
  · next truth confirmed =>
    have counted := kept.confirmed ready confirmed pending named.1 accepted hedgeCid call.nowMs
    rw [asked] at counted
    exact counted.keeps (.refl _) _ counted.makerFill (le_refl limit)
  · exact kept

/-- Every path of a sound call keeps the account. -/
theorem SoundCall.submits (sound : chunk.SoundCall context call)
    (honest : chunk.Honest context call) (kept : chunk.run.Kept context chunk.before maker limit)
    {delta : ℚ} (asks : call.delta = .finite delta)
    (room : resolvedQuantity chunk.run.orders + delta ≤ limit) :
    ((submitHedgeForDelta context call chunk.run).2).Kept context chunk.before maker limit := by
  unfold submitHedgeForDelta
  split_ifs
  · exact kept
  · split
    · exact kept
    · next normalized known =>
      have quantity : call.normalizedQuantity = normalized := by
        rw [HedgeCall.normalizedQuantity, known]
      obtain ⟨target, exactly⟩ := ExactFloat.finite_of_isFinite honest.normalized
      split_ifs with dust
      · exact kept
      · split
        · exact kept
        · split
          · next gap found => exact sound.resolves honest kept found
          · next missing =>
            have within := sound.within
            rw [exactly, asks, ExactFloat.le_finite, decide_eq_true_iff] at within
            rw [← quantity, exactly, fillDust, ExactFloat.le_finite,
              decide_eq_true_iff] at dust
            rw [← quantity]
            apply sound.sends honest kept missing exactly
            · linarith
            · linarith

/-- What sound moves keep. -/
structure Kept (context : HedgeContext) (chunk : HedgeChunk) (maker : ℚ) : Prop where
  run : chunk.run.Kept context chunk.before maker (maker + 1 / 10 ^ 9)
  cycle : ∀ fillBefore, chunk.cycleFillBefore = some fillBefore →
    ∃ filled, fillBefore = .finite filled ∧
      resolvedQuantity chunk.run.orders ≤ filled + 1 / 10 ^ 9

omit [TextCase] in
/-- What is resolved was executed. -/
theorem resolved_le (kept : chunk.run.Kept context chunk.before maker limit) :
    resolvedQuantity chunk.run.orders ≤ limit := by
  apply le_trans ?_ kept.bounded
  rw [resolvedQuantity, executedQuantity]
  apply List.sum_le_sum
  intro order member
  rw [HedgeOrder.resolved]
  split_ifs
  · exact le_refl _
  · exact kept.nonneg order member

omit [TextCase] in
/-- A delta of the driver fits into what the maker filled. -/
theorem Driven.room {delta : ExactFloat} (driven : chunk.Driven delta)
    (kept : chunk.Kept context maker) :
    ∃ exactly, delta = .finite exactly ∧
      resolvedQuantity chunk.run.orders + exactly ≤ maker + 1 / 10 ^ 9 := by
  obtain ⟨fillBefore, known, -, gap | added⟩ := driven
  · refine ⟨maker - resolvedQuantity chunk.run.orders, ?_, by linarith⟩
    rw [gap, kept.run.makerFill, kept.run.counter, ExactFloat.sub_finite]
  · obtain ⟨filled, names, below⟩ := kept.cycle fillBefore known
    refine ⟨maker - filled, ?_, by linarith⟩
    rw [added, kept.run.makerFill, names, ExactFloat.sub_finite]

/-- A phase that executed nothing is left with empty counters. -/
theorem Kept.switch (kept : chunk.Kept context maker) (nowMs : Int)
    (idle : ∀ order ∈ chunk.run.orders, order.executed = 0) :
    (chunk.step context (.switchPhase nowMs)).Kept context 0 where
  run := by
    have executed : executedQuantity chunk.run.orders = 0 := by
      apply List.sum_eq_zero
      intro quantity member
      obtain ⟨order, among, rfl⟩ := List.mem_map.mp member
      exact idle order among
    have resolved : resolvedQuantity chunk.run.orders = 0 := by
      rw [← executed]
      exact (executed_resolved (fun order member _ => idle order member)).symm
    exact {
      counter := by
        change ExactFloat.finite 0 = .finite (resolvedQuantity chunk.run.orders)
        rw [resolved]
      recorded := by
        change _ = _ + resolvedQuantity chunk.run.orders
        rw [resolved, add_zero]
        rfl
      makerFill := rfl
      bounded := by
        change executedQuantity chunk.run.orders ≤ _
        rw [executed]
        norm_num
      nonneg := kept.run.nonneg
      keys := kept.run.keys
      settled := .inr (fun order member _ => .inl (idle order member)) }
  cycle := fun fillBefore known => by cases known

theorem Kept.step (kept : chunk.Kept context maker) {move : HedgeMove}
    (admits : chunk.Admits context move) (sound : chunk.Sound context move) :
    ∃ more, (chunk.step context move).Kept context more := by
  cases move with
  | cycle =>
    refine ⟨maker, kept.run, fun fillBefore known => ?_⟩
    obtain rfl := Option.some.inj known
    exact ⟨maker, kept.run.makerFill, resolved_le kept.run⟩
  | hedge call =>
    obtain ⟨driven, honest⟩ := admits
    have sound : chunk.SoundCall context call := sound
    obtain ⟨delta, asks, room⟩ := Driven.room driven kept
    exact ⟨maker, sound.submits honest kept.run asks room, fun fillBefore known => by cases known⟩
  | work after queue =>
    have keeps : chunk.run.pending.KeepsHedge after := admits
    obtain ⟨more, makerFill, raises⟩ := keeps.maker kept.run.makerFill
    exact ⟨more, kept.run.keeps keeps queue makerFill (by linarith), kept.cycle⟩
  | switchPhase nowMs => exact ⟨0, kept.switch nowMs sound⟩

end HedgeChunk

end Chunks

/-! ## Runs -/

/-- A chunk begins with an empty hedge. -/
structure HedgeChunk.Fresh (chunk : HedgeChunk) : Prop where
  hedgeFill : chunk.run.pending.hedgeFill.quantity = .finite 0
  makerFill : ∃ filled : ℚ, chunk.run.pending.makerFill.quantity = .finite filled ∧ 0 ≤ filled
  orders : chunk.run.orders = []
  before : chunk.before = chunk.run.pending.fillsOn chunk.run.pending.hedgeLeg
  cycle : chunk.cycleFillBefore = none

theorem HedgeChunk.Fresh.kept {chunk : HedgeChunk} (fresh : chunk.Fresh)
    (context : HedgeContext) : ∃ maker, chunk.Kept context maker := by
  obtain ⟨filled, names, nonneg⟩ := fresh.makerFill
  refine ⟨filled, ?_, fun fillBefore known => by rw [fresh.cycle] at known; cases known⟩
  exact {
    counter := by
      rw [fresh.hedgeFill, fresh.orders]
      rfl
    recorded := by
      rw [fresh.before, fresh.orders]
      exact (add_zero _).symm
    makerFill := names
    bounded := by
      rw [fresh.orders]
      change (0 : ℚ) ≤ _
      linarith
    nonneg := by
      rw [fresh.orders]
      exact fun order member => absurd member List.not_mem_nil
    keys := by
      rw [fresh.orders]
      exact List.nodup_nil
    settled := by
      refine .inr (fun order member _ => ?_)
      rw [fresh.orders] at member
      exact absurd member List.not_mem_nil }

/-- Every state of a run of sound moves is accounted for. -/
theorem sound_run_hedged [TextCase] {context : HedgeContext} {start chunk : HedgeChunk}
    (fresh : start.Fresh)
    (run : HedgeChunkRun context start (HedgeChunk.Sound context) chunk) : chunk.Accounted := by
  have kept : ∃ maker, chunk.Kept context maker := by
    induction run with
    | start => exact fresh.kept context
    | step run move admits sound hyp =>
      obtain ⟨maker, kept⟩ := hyp
      exact kept.step admits sound
  obtain ⟨maker, kept⟩ := kept
  exact {
    counter := kept.run.counter
    recorded := kept.run.recorded
    bounded := by
      rw [kept.run.makerFill, progressTolerance, ExactFloat.add_finite, ExactFloat.le_finite]
      exact decide_eq_true kept.run.bounded }

section Example

local instance hedgeCase : TextCase := .ascii

/-- The short leg is at a venue that documents how it refuses a used client order id. -/
def bybitContext : HedgeContext where
  position :=
    { positionId := "p1", symbol := "BTCUSDT", longVenue := .binance, shortVenue := .bybit
      longQuantity := .finite 1, shortQuantity := .finite 1, matchedQuantity := .finite 1
      longEntryPrice := .finite 10, shortEntryPrice := .finite 10, openedAtMs := 0 }
  compactClientOrderId positionId stage := positionId ++ ":" ++ stage

/-- A report of the maker's order with its cumulative quantity. -/
def makerAt (pending : PendingPassiveClose) (quantity : ℚ) : PendingPassiveClose :=
  applyMakerProgress pending (tenReport "m1" quantity 2) 3

def hedgeOf (orderId : String) (quantity : ℚ) : OrderFill :=
  { venue := .bybit, symbol := "BTCUSDT", side := .buy, quantity := .finite quantity
    price := .finite 10, orderId := orderId }

/-- Nothing reaches the venue. -/
def unsent : HedgePlacement where
  answer := .error { failureClass := some .rejected, text := "unsent" }

/-- The first delta of a chunk is filled. -/
def firstDelta : HedgeCall where
  delta := .finite (2 / 5)
  normalized := .ok (.finite (2 / 5))
  nowMs := 4
  placed := { executed := some (2 / 5), answer := .ok (hedgeOf "h1" (2 / 5)) }
  retryClientOrderId := "r1"
  retried := unsent

def unitChunk : HedgeChunk where
  run := { pending := unitPassive }

/-- The maker fills a part, and its delta is hedged. -/
def firstReported : HedgeChunk :=
  (unitChunk.step bybitContext .cycle).step bybitContext (.work (makerAt unitPassive (2 / 5)) [])

def firstHedged : HedgeChunk := firstReported.step bybitContext (.hedge firstDelta)

theorem unitChunk_fresh : unitChunk.Fresh where
  hedgeFill := rfl
  makerFill := ⟨0, rfl, le_refl 0⟩
  orders := rfl
  before := rfl
  cycle := rfl

theorem unsent_honest (used : Prop) (quantity : ExactFloat) : unsent.Honest used quantity where
  refuses := fun _ => ⟨rfl, _, rfl⟩
  within := fun executed known => by cases known
  names := fun fill known => by cases known

theorem firstDelta_admits : firstReported.Admits bybitContext (.hedge firstDelta) := by
  refine ⟨⟨_, rfl, by decide +kernel, .inl (by decide +kernel)⟩, ?_⟩
  exact {
    normalized := rfl
    live := fun position known => by cases known
    placed := fun _ => {
      refuses := by
        rintro ⟨order, member, -⟩
        exact absurd member List.not_mem_nil
      within := by
        intro executed known
        obtain rfl := Option.some.inj known
        exact ⟨by norm_num, by decide +kernel⟩
      names := by
        intro fill known
        obtain rfl := Except.ok.inj known
        exact ⟨_, rfl, .inl rfl⟩ }
    reconciled := fun found known => by cases known
    retried := unsent_honest _ _ }

theorem firstReported_run (meets : HedgeChunk → HedgeMove → Prop)
    (cycle : meets unitChunk .cycle)
    (work : meets (unitChunk.step bybitContext .cycle) (.work (makerAt unitPassive (2 / 5)) [])) :
    HedgeChunkRun bybitContext unitChunk meets firstReported :=
  (HedgeChunkRun.start.step .cycle trivial cycle).step _
    (unitPassive.keepsHedge_progress rfl 3) work

theorem firstDelta_sound : firstReported.Sound bybitContext (.hedge firstDelta) where
  within := by decide +kernel
  uncounted := fun order member => absurd member List.not_mem_nil
  fresh := by decide +kernel
  distinct := fun orderId member => absurd member List.not_mem_nil
  settled := fun found position known => by cases known

/-- A single delta is accounted for. -/
theorem sound_run_hedged_once : firstHedged.Accounted :=
  sound_run_hedged unitChunk_fresh
    ((firstReported_run _ trivial trivial).step (.hedge firstDelta) firstDelta_admits
      firstDelta_sound)

def usedClientOrderId : HedgeError :=
  { failureClass := some .rejected, text := "110072 OrderLinkedID is duplicate" }

/-- The second delta meets the used client order id. -/
def secondDelta : HedgeCall where
  delta := .finite (3 / 5)
  normalized := .ok (.finite (3 / 5))
  nowMs := 6
  placed := { answer := .error usedClientOrderId }
  reconciled := .ok (some
    { quantity := .finite (2 / 5), averagePrice := .finite 10, orderId := "h1" })
  live := .ok (some { side := .sell, quantity := .finite (3 / 5) })
  retryClientOrderId := "r2"
  retried := { executed := some (1 / 5), answer := .ok (hedgeOf "h2" (1 / 5)) }

/-- The maker fills the rest, and the second delta is hedged. -/
def secondReported : HedgeChunk :=
  (firstHedged.step bybitContext .cycle).step bybitContext
    (.work (makerAt firstHedged.run.pending 1) [])

def secondHedged : HedgeChunk := secondReported.step bybitContext (.hedge secondDelta)

theorem secondDelta_admits : secondReported.Admits bybitContext (.hedge secondDelta) := by
  refine ⟨⟨_, rfl, by decide +kernel, .inl (by decide +kernel)⟩, ?_⟩
  exact {
    normalized := rfl
    live := by
      intro position known
      obtain rfl := Option.some.inj (Except.ok.inj known)
      rfl
    placed := fun _ => {
      refuses := fun _ => ⟨rfl, _, rfl⟩
      within := fun executed known => by cases known
      names := fun fill known => by cases known }
    reconciled := by
      intro found known
      obtain rfl := Option.some.inj (Except.ok.inj known)
      refine ⟨2 / 5, rfl, by norm_num, .inl ?_⟩
      have order : ∃ order ∈ secondReported.run.sentOrders bybitContext secondDelta ++ [],
          order.named (hedgeVenue bybitContext secondReported.run.pending)
            (secondReported.run.askedId bybitContext) = true ∧ order.executed = 2 / 5 := by
        decide +kernel
      exact order
    retried := {
      refuses := by
        rintro ⟨order, member, named⟩
        have unknown : ∀ order ∈ secondReported.run.sentOrders bybitContext secondDelta ++ [],
            ¬ order.named (hedgeVenue bybitContext secondReported.run.pending) "r2" = true := by
          decide +kernel
        exact absurd named (unknown order member)
      within := by
        intro executed known
        obtain rfl := Option.some.inj known
        exact ⟨by norm_num, by decide +kernel⟩
      names := by
        intro fill known
        obtain rfl := Except.ok.inj known
        exact ⟨_, rfl, .inl rfl⟩ } }

/-- The first order is counted again, so the hedge looks complete. -/
theorem repeated_delta_counts_twice :
    unitChunk.Fresh ∧ HedgeChunkRun bybitContext unitChunk (fun _ _ => True) secondHedged ∧
      isDuplicateClientOrderError .bybit usedClientOrderId.text = true ∧
      secondHedged.run.pending.hedgeFill.quantity = .finite 1 ∧
      resolvedQuantity secondHedged.run.orders = 3 / 5 ∧ ¬ secondHedged.Accounted := by
  have counter : secondHedged.run.pending.hedgeFill.quantity = .finite 1 := by decide +kernel
  have resolved : resolvedQuantity secondHedged.run.orders = 3 / 5 := by decide +kernel
  have first : HedgeChunkRun bybitContext unitChunk (fun _ _ => True) firstHedged :=
    (firstReported_run _ trivial trivial).step (.hedge firstDelta) firstDelta_admits trivial
  have second : HedgeChunkRun bybitContext unitChunk (fun _ _ => True) secondReported :=
    (first.step .cycle trivial trivial).step _
      (firstHedged.run.pending.keepsHedge_progress rfl 3) trivial
  refine ⟨unitChunk_fresh, second.step (.hedge secondDelta) secondDelta_admits trivial,
    by decide +kernel, counter, resolved, ?_⟩
  intro accounted
  have same := accounted.counter
  rw [counter, resolved] at same
  exact absurd (ExactFloat.finite.inj same) (by norm_num)

end Example

end LightFee.Engine
