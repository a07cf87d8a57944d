import LightFee.Engine.PassiveOrders
import LightFee.Library.ListModify
import Mathlib.Algebra.BigOperators.Group.List.Basic
import Mathlib.Algebra.Order.BigOperators.Group.List
import Mathlib.Tactic.FieldSimp
import Mathlib.Tactic.Linarith
import Mathlib.Tactic.Ring

/-!
# The maker's account of a chunk

A venue reports the cumulative fill of an order. The counter of a chunk takes the report as
its own cumulative fill, so it is exact while all fills of the phase belong to one order. A
second order with fills overwrites what the first one filled, and a fresh order is submitted
for the whole chunk whatever is filled already.
-/

namespace LightFee.Engine

open LightFee.Venues ListModify

/-! ## Orders and moves -/

/-- An order of the phase, and what was last reported of it. -/
structure ReportedOrder where
  submitted : ExactFloat
  /-- What the chunk lacked when the order was submitted. -/
  room : ExactFloat
  quantity : ℚ := 0
  notional : ℚ := 0

/-- A later report of the order: the fill does not fall and is priced at its average. -/
structure ReportedOrder.Reports (order : ReportedOrder) (progress : MakerProgress)
    (quantity price : ℚ) : Prop where
  names : progress.cumulativeQuantity = .finite quantity
  averages : progress.averagePrice = .finite price
  grows : order.quantity ≤ quantity
  positive : 0 < quantity → 0 < price
  stays : order.quantity = quantity → order.notional = quantity * price
  pays : order.quantity < quantity → order.notional < quantity * price

/-- The work on a chunk within one phase. -/
structure MakerChunk where
  pending : PendingPassiveClose
  orders : List ReportedOrder := []

inductive MakerMove where
  /-- The driver submits without a handle. -/
  | submit (clientOrderId : String) (price : ExactFloat) (nowMs : Int) (answer : MakerAnswer)
  /-- A canceled order is replaced. -/
  | replace (clientOrderId : String) (price : ExactFloat) (nowMs : Int) (answer : MakerAnswer)
  /-- A report of one of the orders is applied. -/
  | report (index : Nat) (progress : MakerProgress) (nowMs : Int)
  /-- Hedges, claims, cleared handles and timers. -/
  | work (after : PendingPassiveClose)

namespace MakerChunk

def side (chunk : MakerChunk) : ActiveMakerLeg := chunk.pending.phaseState.activeMakerLeg

/-- The chunk quantity without the maker's fill. -/
def room (chunk : MakerChunk) : ExactFloat :=
  chunk.pending.currentChunkQuantity.sub chunk.pending.makerFill.quantity

/-- An order of the quantity is placed. -/
def place (chunk : MakerChunk) (quantity : ExactFloat) (clientOrderId : String)
    (price : ExactFloat) (nowMs : Int) (answer : MakerAnswer) : MakerChunk where
  pending := chunk.pending.submitMakerOrder chunk.side clientOrderId price nowMs answer
  orders := { submitted := quantity, room := chunk.room } :: chunk.orders

def step (chunk : MakerChunk) : MakerMove → MakerChunk
  | .submit clientOrderId price nowMs answer =>
    chunk.place chunk.pending.currentChunkQuantity clientOrderId price nowMs answer
  | .replace clientOrderId price nowMs answer =>
    chunk.place chunk.pending.remainingChunkQuantity clientOrderId price nowMs answer
  | .report index progress nowMs =>
    { pending := applyMakerProgress chunk.pending progress nowMs
      orders := chunk.orders.modify index (fun order =>
        { order with
          quantity := progress.cumulativeQuantity.toRat
          notional := progress.cumulativeQuantity.toRat * progress.averagePrice.toRat }) }
  | .work after => { chunk with pending := after }

/-- What the driver and the venue can do. -/
def Admits (chunk : MakerChunk) : MakerMove → Prop
  | .submit _ _ _ _ => chunk.pending.phaseState.makerOrderId = "" ∧
      chunk.pending.phaseState.makerClientOrderId = ""
  | .replace _ _ _ _ =>
    progressTolerance.lt chunk.pending.remainingChunkQuantity = true
  | .report index progress _ => ∃ order quantity price,
      chunk.orders[index]? = some order ∧ order.Reports progress quantity price
  | .work after => chunk.pending.KeepsMaker after

/-- The client order id that a report is recorded under. -/
def reportedId (chunk : MakerChunk) (progress : MakerProgress) : String :=
  if progress.clientOrderId = "" then chunk.pending.phaseState.makerClientOrderId
  else progress.clientOrderId

/-- The report's delta finds an intent of its order, or looks like no recorded execution. -/
def recordsDelta (chunk : MakerChunk) (progress : MakerProgress) (nowMs : Int) : Bool :=
  let clientOrderId := chunk.reportedId progress
  let delta := progressDelta chunk.pending.makerFill progress clientOrderId nowMs
  let legs := chunk.pending.legsOn chunk.side
  legs.any (awaitsFill delta clientOrderId) || !legs.any (recordsFill delta clientOrderId)

/-- The driver submits for an unfilled chunk. A report repeats the last one, or raises it by
more than the tolerance for the only order with fills, with a delta that is recorded. -/
def Sound (chunk : MakerChunk) : MakerMove → Prop
  | .submit _ _ _ _ => chunk.pending.makerFill.quantity.le progressTolerance = true
  | .replace _ _ _ _ => True
  | .report index progress nowMs => ∃ order, chunk.orders[index]? = some order ∧
      (progress.cumulativeQuantity = .finite order.quantity ∨
        ((∀ other earlier, other ≠ index → chunk.orders[other]? = some earlier →
            earlier.quantity = 0) ∧
          (ExactFloat.finite (order.quantity + 1 / 10 ^ 9)).lt progress.cumulativeQuantity = true ∧
          chunk.recordsDelta progress nowMs = true))
  | .work _ => True

end MakerChunk

/-- The states that a phase without orders reaches by moves that meet a condition. -/
inductive MakerRun (start : PendingPassiveClose) (meets : MakerChunk → MakerMove → Prop) :
    MakerChunk → Prop where
  | start : MakerRun start meets { pending := start }
  | step {chunk : MakerChunk} (run : MakerRun start meets chunk) (move : MakerMove)
      (admits : chunk.Admits move) (sound : meets chunk move) :
      MakerRun start meets (chunk.step move)

/-! ## The account -/

def reportedQuantity (orders : List ReportedOrder) : ℚ :=
  (orders.map ReportedOrder.quantity).sum

def reportedNotional (orders : List ReportedOrder) : ℚ :=
  (orders.map ReportedOrder.notional).sum

def filledQuantity (fills : List OrderFill) : ℚ :=
  (fills.map (fun fill => fill.quantity.toRat)).sum

def filledNotional (fills : List OrderFill) : ℚ :=
  (fills.map (fun fill => fill.quantity.toRat * fill.price.toRat)).sum

/-- The counter and the recorded fills are what was reported of the orders, beyond the fills
that were there before the phase. -/
structure MakerChunk.Accounted (chunk : MakerChunk) (before : List OrderFill) : Prop where
  quantity : chunk.pending.makerFill.quantity = .finite (reportedQuantity chunk.orders)
  notional : chunk.pending.makerFill.quantity.mul chunk.pending.makerFill.averagePrice =
    .finite (reportedNotional chunk.orders)
  recordedQuantity : filledQuantity (chunk.pending.fillsOn chunk.side) =
    filledQuantity before + reportedQuantity chunk.orders
  recordedNotional : filledNotional (chunk.pending.fillsOn chunk.side) =
    filledNotional before + reportedNotional chunk.orders
  rational : ∀ fill ∈ chunk.pending.fillsOn chunk.side,
    fill.quantity.isFinite = true ∧ fill.price.isFinite = true

/-- No order asks for more than the chunk lacked. -/
def MakerChunk.Bounded (chunk : MakerChunk) : Prop :=
  ∀ order ∈ chunk.orders, order.submitted.le (order.room.add progressTolerance) = true

/-! ## Recording a fill -/

theorem changeFirst_none {qualifies : PersistedCloseExecutionLeg → Bool}
    {change : PersistedCloseExecutionLeg → PersistedCloseExecutionLeg}
    {legs : List PersistedCloseExecutionLeg} :
    changeFirst qualifies change legs = none ↔ legs.any qualifies = false := by
  induction legs with
  | nil => simp [changeFirst]
  | cons leg rest hyp =>
    rw [changeFirst, List.any_cons]
    split_ifs with here
    · simp [here]
    · rw [Bool.not_eq_true] at here
      rw [Option.map_eq_none_iff, hyp, here, Bool.false_or]

/-- A leg without a fill takes one. -/
theorem changeFirst_adds {qualifies : PersistedCloseExecutionLeg → Bool}
    {change : PersistedCloseExecutionLeg → PersistedCloseExecutionLeg} {fill : OrderFill}
    (empty : ∀ leg, qualifies leg = true → leg.fill = none)
    (takes : ∀ leg, (change leg).fill = some fill)
    {legs changed : List PersistedCloseExecutionLeg}
    (found : changeFirst qualifies change legs = some changed) :
    (changed.filterMap PersistedCloseExecutionLeg.fill).Perm
      (fill :: legs.filterMap PersistedCloseExecutionLeg.fill) := by
  induction legs generalizing changed with
  | nil => exact absurd found (by simp [changeFirst])
  | cons leg rest hyp =>
    rw [changeFirst] at found
    split_ifs at found with here
    · obtain rfl := Option.some.inj found
      rw [List.filterMap_cons, List.filterMap_cons, takes, empty leg here]
    · obtain ⟨tail, later, rfl⟩ := Option.map_eq_some_iff.mp found
      rw [List.filterMap_cons, List.filterMap_cons]
      cases leg.fill with
      | none => exact hyp later
      | some kept => exact ((hyp later).cons kept).trans (List.Perm.swap fill kept _)

/-- An execution that finds its intent, or looks like no recorded one, is added. -/
theorem recordCloseExecutionLeg_adds {legs : List PersistedCloseExecutionLeg} {fill : OrderFill}
    {clientOrderId : String} (submittedAtMs : Int)
    (fresh : (legs.any (awaitsFill fill clientOrderId) ||
      !legs.any (recordsFill fill clientOrderId)) = true) :
    ((recordCloseExecutionLeg legs fill clientOrderId submittedAtMs).filterMap
      PersistedCloseExecutionLeg.fill).Perm
        (fill :: legs.filterMap PersistedCloseExecutionLeg.fill) := by
  rw [recordCloseExecutionLeg]
  split
  · next changed found =>
    apply changeFirst_adds ?_ ?_ found
    · intro leg awaits
      rw [awaitsFill, Bool.and_eq_true, Bool.and_eq_true, Option.isNone_iff_eq_none] at awaits
      exact awaits.1.2
    · intro leg
      rfl
  · next missing =>
    rw [changeFirst_none.mp missing, Bool.false_or, Bool.not_eq_true'] at fresh
    rw [changeFirst_none.mpr fresh]
    simp only [List.filterMap_append]
    exact List.perm_append_comm

/-! ## One move -/

theorem filledQuantity_perm {left right : List OrderFill} (same : left.Perm right) :
    filledQuantity left = filledQuantity right := (same.map _).sum_eq

theorem filledNotional_perm {left right : List OrderFill} (same : left.Perm right) :
    filledNotional left = filledNotional right := (same.map _).sum_eq

/-- Only the order at the index has fills, so its fill is all that was reported. -/
theorem sum_alone {value : ReportedOrder → ℚ} {orders : List ReportedOrder} {index : Nat}
    {order : ReportedOrder} (found : orders[index]? = some order)
    (alone : ∀ other earlier, other ≠ index → orders[other]? = some earlier → value earlier = 0) :
    (orders.map value).sum = value order := by
  induction orders generalizing index with
  | nil => simp at found
  | cons head rest hyp =>
    cases index with
    | zero =>
      obtain rfl : head = order := by simpa using found
      have zero : (rest.map value).sum = 0 := by
        apply List.sum_eq_zero
        intro quantity member
        obtain ⟨earlier, among, rfl⟩ := List.mem_map.mp member
        obtain ⟨other, inside, rfl⟩ := List.getElem_of_mem among
        exact alone (other + 1) _ (by simp) (by simp)
      rw [List.map_cons, List.sum_cons, zero, add_zero]
    | succ index =>
      have first : value head = 0 := alone 0 head (by simp) rfl
      have later := hyp (by simpa using found) (fun other earlier differs known =>
        alone (other + 1) earlier (by simpa using differs) (by simpa using known))
      rw [List.map_cons, List.sum_cons, first, zero_add, later]

namespace MakerChunk

variable {chunk : MakerChunk} {before : List OrderFill}

/-- Work that leaves the maker alone keeps the account. -/
theorem Accounted.keeps (accounted : chunk.Accounted before) {after : PendingPassiveClose}
    (keeps : chunk.pending.KeepsMaker after) (orders : List ReportedOrder)
    (quantity : reportedQuantity orders = reportedQuantity chunk.orders)
    (notional : reportedNotional orders = reportedNotional chunk.orders) :
    ({ pending := after, orders := orders } : MakerChunk).Accounted before := by
  have side : ({ pending := after, orders := orders } : MakerChunk).side = chunk.side :=
    keeps.activeMakerLeg
  have fills : after.fillsOn chunk.side = chunk.pending.fillsOn chunk.side := keeps.fills
  exact {
    quantity := by
      rw [keeps.makerFill, quantity]
      exact accounted.quantity
    notional := by
      rw [keeps.makerFill, notional]
      exact accounted.notional
    recordedQuantity := by
      rw [side, fills, quantity]
      exact accounted.recordedQuantity
    recordedNotional := by
      rw [side, fills, notional]
      exact accounted.recordedNotional
    rational := by
      rw [side, fills]
      exact accounted.rational }

end MakerChunk

/-- What a report above the counter does to the pending close. -/
theorem applyMakerProgress_raises {pending : PendingPassiveClose} {progress : MakerProgress}
    (nowMs : Int)
    (raises : (pending.makerFill.quantity.add progressTolerance).lt
      progress.cumulativeQuantity = true) :
    let clientOrderId := if progress.clientOrderId = "" then pending.phaseState.makerClientOrderId
      else progress.clientOrderId
    let side := pending.phaseState.activeMakerLeg
    let after := applyMakerProgress pending progress nowMs
    after.makerFill = progressedFill pending.makerFill progress clientOrderId ∧
      after.phaseState = pending.phaseState ∧
      after.chunkQuantities = pending.chunkQuantities ∧
      after.activeChunkIndex = pending.activeChunkIndex ∧
      after.legsOn side = recordCloseExecutionLeg (pending.legsOn side)
        (progressDelta pending.makerFill progress clientOrderId nowMs) clientOrderId nowMs := by
  intro clientOrderId side after
  have applied : after = ({ pending with
      makerFill := progressedFill pending.makerFill progress clientOrderId } :
        PendingPassiveClose).setLegs side (recordCloseExecutionLeg (pending.legsOn side)
          (progressDelta pending.makerFill progress clientOrderId nowMs) clientOrderId nowMs) :=
    if_pos raises
  have legs : after.legsOn side = recordCloseExecutionLeg (pending.legsOn side)
      (progressDelta pending.makerFill progress clientOrderId nowMs) clientOrderId nowMs := by
    rw [applied, legsOn_setLegs, if_pos rfl]
  refine ⟨?_, ?_, ?_, ?_, legs⟩
  all_goals
    rw [applied]
    cases side <;> rfl

/-- The delta of a report carries what quantity and notional grew by. -/
theorem progressDelta_grows {known : PendingPassiveLegFill} {progress : MakerProgress}
    {before quantity price notional : ℚ} (clientOrderId : String) (nowMs : Int)
    (counter : known.quantity = .finite before)
    (value : known.quantity.mul known.averagePrice = .finite notional)
    (names : progress.cumulativeQuantity = .finite quantity)
    (averages : progress.averagePrice = .finite price) (positive : 0 < price)
    (raises : before + 1 / 10 ^ 9 < quantity) (pays : notional < quantity * price) :
    (progressDelta known progress clientOrderId nowMs).quantity = .finite (quantity - before) ∧
      (progressDelta known progress clientOrderId nowMs).price =
        .finite ((quantity * price - notional) / (quantity - before)) := by
  have kept : cumulativePrice known progress = .finite price := by
    rw [cumulativePrice, averages]
    simp [ExactFloat.isFinite, positive]
  constructor
  · simp only [progressDelta, names, counter, ExactFloat.sub_finite]
  · simp only [progressDelta, names, kept, counter]
    rw [← counter, value]
    simp only [ExactFloat.mul_finite, ExactFloat.sub_finite, ExactFloat.lt_finite,
      decide_eq_true (sub_pos.mpr pays), Bool.true_and]
    rw [counter, ExactFloat.sub_finite, ExactFloat.lt_finite,
      decide_eq_true (by linarith : (1 / 10 ^ 12 : ℚ) < quantity - before), if_pos rfl]
    rfl

namespace MakerChunk

variable {chunk : MakerChunk} {before : List OrderFill}

/-- Reported fills are not below zero, and an order without a fill has no notional. -/
def Sensible (chunk : MakerChunk) : Prop :=
  ∀ order ∈ chunk.orders, 0 ≤ order.quantity ∧ (order.quantity = 0 → order.notional = 0)

/-- A report that raises the only order with fills raises the account by the same. -/
theorem Accounted.raises (accounted : chunk.Accounted before) (sensible : chunk.Sensible)
    {index : Nat} {progress : MakerProgress} {nowMs : Int} {order : ReportedOrder}
    {quantity price : ℚ} (found : chunk.orders[index]? = some order)
    (reports : order.Reports progress quantity price)
    (alone : ∀ other earlier, other ≠ index → chunk.orders[other]? = some earlier →
      earlier.quantity = 0)
    (raises : order.quantity + 1 / 10 ^ 9 < quantity)
    (records : chunk.recordsDelta progress nowMs = true) :
    (chunk.step (.report index progress nowMs)).Accounted before := by
  have nonneg : 0 ≤ order.quantity :=
    (sensible order (List.mem_of_getElem? found)).1
  have total : reportedQuantity chunk.orders = order.quantity := sum_alone found alone
  have value : reportedNotional chunk.orders = order.notional :=
    sum_alone found (fun other earlier differs known =>
      (sensible earlier (List.mem_of_getElem? known)).2 (alone other earlier differs known))
  have counter : chunk.pending.makerFill.quantity = .finite order.quantity :=
    accounted.quantity.trans (congrArg ExactFloat.finite total)
  have known : chunk.pending.makerFill.quantity.mul chunk.pending.makerFill.averagePrice =
      .finite order.notional := accounted.notional.trans (congrArg ExactFloat.finite value)
  have positive : 0 < price := reports.positive (by linarith)
  have pays : order.notional < quantity * price := reports.pays (by linarith)
  have above : (chunk.pending.makerFill.quantity.add progressTolerance).lt
      progress.cumulativeQuantity = true := by
    rw [counter, reports.names, progressTolerance, ExactFloat.add_finite, ExactFloat.lt_finite]
    exact decide_eq_true raises
  obtain ⟨makerFill, phase, -, -, legs⟩ := applyMakerProgress_raises nowMs above
  obtain ⟨deltaQuantity, deltaPrice⟩ := progressDelta_grows (chunk.reportedId progress) nowMs
    counter known reports.names reports.averages positive raises pays
  have side : (chunk.step (.report index progress nowMs)).side = chunk.side :=
    congrArg PassivePhaseState.activeMakerLeg phase
  have fills : ((chunk.step (.report index progress nowMs)).pending.fillsOn chunk.side).Perm
      (progressDelta chunk.pending.makerFill progress (chunk.reportedId progress) nowMs ::
        chunk.pending.fillsOn chunk.side) := by
    have added := recordCloseExecutionLeg_adds nowMs records
    rw [PendingPassiveClose.fillsOn]
    exact (congrArg (List.filterMap PersistedCloseExecutionLeg.fill) legs) ▸ added
  have divides : quantity - order.quantity ≠ 0 := by
    intro zero
    linarith
  have laterQuantity : reportedQuantity (chunk.step (.report index progress nowMs)).orders =
      quantity := by
    rw [reportedQuantity, step, sum_modify _ _ found, ← reportedQuantity, total, reports.names]
    simp
  have laterNotional : reportedNotional (chunk.step (.report index progress nowMs)).orders =
      quantity * price := by
    rw [reportedNotional, step, sum_modify _ _ found, ← reportedNotional, value, reports.names,
      reports.averages]
    simp
  have priced : (isPositivePrice (.finite price)) = true := by
    simp [isPositivePrice, ExactFloat.isFinite, positive]
  exact {
    quantity := by
      rw [laterQuantity]
      exact (congrArg PendingPassiveLegFill.quantity makerFill).trans reports.names
    notional := by
      have average : (chunk.step (.report index progress nowMs)).pending.makerFill.averagePrice =
          .finite price := by
        refine (congrArg PendingPassiveLegFill.averagePrice makerFill).trans ?_
        rw [progressedFill, cumulativePrice, reports.averages]
        exact if_pos priced
      have reported : (chunk.step (.report index progress nowMs)).pending.makerFill.quantity =
          .finite quantity := (congrArg PendingPassiveLegFill.quantity makerFill).trans reports.names
      rw [reported, average, laterNotional, ExactFloat.mul_finite]
    recordedQuantity := by
      rw [side, filledQuantity_perm fills, filledQuantity, List.map_cons, List.sum_cons,
        deltaQuantity, ← filledQuantity, accounted.recordedQuantity, total, laterQuantity,
        ExactFloat.toRat_finite]
      ring
    recordedNotional := by
      rw [side, filledNotional_perm fills, filledNotional, List.map_cons, List.sum_cons,
        deltaQuantity, deltaPrice, ← filledNotional, accounted.recordedNotional, value,
        laterNotional, ExactFloat.toRat_finite, ExactFloat.toRat_finite]
      field_simp
      ring
    rational := by
      rw [side]
      intro fill member
      rcases List.mem_cons.mp (fills.mem_iff.mp member) with rfl | among
      · rw [deltaQuantity, deltaPrice]
        exact ⟨rfl, rfl⟩
      · exact accounted.rational fill among }

end MakerChunk

/-! ## Runs -/

/-- A phase begins with an empty counter. -/
structure PendingPassiveClose.FreshPhase (pending : PendingPassiveClose) : Prop where
  empty : pending.makerFill.quantity = .finite 0
  price : pending.makerFill.averagePrice.isFinite = true
  chunk : ∃ quantity : ℚ, pending.currentChunkQuantity = .finite quantity
  rational : ∀ fill ∈ pending.fillsOn pending.phaseState.activeMakerLeg,
    fill.quantity.isFinite = true ∧ fill.price.isFinite = true

namespace MakerChunk

/-- What sound moves keep. -/
structure Kept (start : PendingPassiveClose) (chunk : MakerChunk) : Prop where
  accounted : chunk.Accounted (start.fillsOn start.phaseState.activeMakerLeg)
  sensible : chunk.Sensible
  bounded : chunk.Bounded
  chunkQuantity : ∃ quantity : ℚ, chunk.pending.currentChunkQuantity = .finite quantity

variable {start : PendingPassiveClose} {chunk : MakerChunk}

theorem kept_start (fresh : start.FreshPhase) : Kept start { pending := start } where
  accounted := {
    quantity := fresh.empty
    notional := by
      obtain ⟨price, known⟩ := ExactFloat.finite_of_isFinite fresh.price
      rw [fresh.empty, known, ExactFloat.mul_finite, zero_mul]
      rfl
    recordedQuantity := (add_zero _).symm
    recordedNotional := (add_zero _).symm
    rational := fresh.rational }
  sensible := fun order member => absurd member (by simp)
  bounded := fun order member => absurd member (by simp)
  chunkQuantity := fresh.chunk

theorem currentChunkQuantity_keeps {before after : PendingPassiveClose}
    (keeps : before.KeepsMaker after) :
    after.currentChunkQuantity = before.currentChunkQuantity := by
  rw [PendingPassiveClose.currentChunkQuantity, PendingPassiveClose.currentChunkQuantity,
    keeps.chunkQuantities, keeps.activeChunkIndex]

/-- An order within the room of the chunk may be placed. -/
theorem Kept.place (kept : Kept start chunk) {quantity : ExactFloat}
    (within : quantity.le (chunk.room.add progressTolerance) = true) (clientOrderId : String)
    (price : ExactFloat) (nowMs : Int) (answer : MakerAnswer) :
    Kept start (chunk.place quantity clientOrderId price nowMs answer) := by
  have keeps := chunk.pending.keepsMaker_submit chunk.side clientOrderId price nowMs answer
  exact {
    accounted := by
      apply kept.accounted.keeps keeps
      · simp [reportedQuantity]
      · simp [reportedNotional]
    sensible := by
      intro order member
      rcases List.mem_cons.mp member with rfl | among
      · exact ⟨le_refl _, fun _ => rfl⟩
      · exact kept.sensible order among
    bounded := by
      intro order member
      rcases List.mem_cons.mp member with rfl | among
      · exact within
      · exact kept.bounded order among
    chunkQuantity := by
      obtain ⟨quantity, known⟩ := kept.chunkQuantity
      exact ⟨quantity, (currentChunkQuantity_keeps keeps).trans known⟩ }

/-- A repeated report changes nothing. -/
theorem Accounted.repeats {before : List OrderFill} (accounted : chunk.Accounted before)
    (sensible : chunk.Sensible) {index : Nat} {progress : MakerProgress} {nowMs : Int}
    {order : ReportedOrder} {quantity price : ℚ} (found : chunk.orders[index]? = some order)
    (reports : order.Reports progress quantity price) (same : order.quantity = quantity) :
    (chunk.step (.report index progress nowMs)).Accounted before := by
  have below : order.quantity ≤ reportedQuantity chunk.orders := by
    apply List.single_le_sum
    · intro value member
      obtain ⟨earlier, among, rfl⟩ := List.mem_map.mp member
      exact (sensible earlier among).1
    · exact List.mem_map.mpr ⟨order, List.mem_of_getElem? found, rfl⟩
  have unchanged : applyMakerProgress chunk.pending progress nowMs = chunk.pending := by
    apply if_neg
    rw [accounted.quantity, reports.names, progressTolerance, ExactFloat.add_finite,
      ExactFloat.lt_finite, Bool.not_eq_true, decide_eq_false_iff_not, ← same]
    linarith
  rw [step, unchanged]
  apply accounted.keeps (.refl chunk.pending)
  · rw [reportedQuantity, sum_modify _ _ found, reports.names, ExactFloat.toRat_finite, same]
    simp [reportedQuantity]
  · rw [reportedNotional, sum_modify _ _ found, reports.names, reports.averages,
      ExactFloat.toRat_finite, ExactFloat.toRat_finite, reports.stays same]
    simp [reportedNotional]

theorem Kept.report (kept : Kept start chunk) {index : Nat} {progress : MakerProgress}
    {nowMs : Int} (admits : chunk.Admits (.report index progress nowMs))
    (sound : chunk.Sound (.report index progress nowMs)) :
    Kept start (chunk.step (.report index progress nowMs)) := by
  obtain ⟨order, quantity, price, found, reports⟩ := admits
  obtain ⟨same, known, repeats⟩ := sound
  obtain rfl : order = same := Option.some.inj (found.symm.trans known)
  have accounted : (chunk.step (.report index progress nowMs)).Accounted
      (start.fillsOn start.phaseState.activeMakerLeg) := by
    rw [reports.names] at repeats
    rcases repeats with same | ⟨alone, raises, records⟩
    · exact kept.accounted.repeats kept.sensible found reports
        (ExactFloat.finite.inj same).symm
    · rw [ExactFloat.lt_finite, decide_eq_true_iff] at raises
      exact kept.accounted.raises kept.sensible found reports alone raises records
  have chunkQuantity : (applyMakerProgress chunk.pending progress nowMs).currentChunkQuantity =
      chunk.pending.currentChunkQuantity := by
    by_cases above : (chunk.pending.makerFill.quantity.add progressTolerance).lt
        progress.cumulativeQuantity = true
    · obtain ⟨-, -, chunks, active, -⟩ := applyMakerProgress_raises nowMs above
      rw [PendingPassiveClose.currentChunkQuantity, PendingPassiveClose.currentChunkQuantity,
        chunks, active]
    · rw [applyMakerProgress, if_neg above]
  exact {
    accounted := accounted
    sensible := by
      intro later member
      rcases mem_modify member with among | ⟨earlier, before, rfl⟩
      · exact kept.sensible later among
      · obtain rfl : order = earlier := Option.some.inj (found.symm.trans before)
        have nonneg := (kept.sensible order (List.mem_of_getElem? found)).1
        rw [reports.names, reports.averages, ExactFloat.toRat_finite, ExactFloat.toRat_finite]
        refine ⟨nonneg.trans reports.grows, fun zero => ?_⟩
        rw [show quantity = 0 from zero, zero_mul]
    bounded := by
      intro later member
      rcases mem_modify member with among | ⟨earlier, before, rfl⟩
      · exact kept.bounded later among
      · exact kept.bounded earlier (List.mem_of_getElem? before)
    chunkQuantity := by
      obtain ⟨quantity, known⟩ := kept.chunkQuantity
      exact ⟨quantity, chunkQuantity.trans known⟩ }

theorem Kept.step (kept : Kept start chunk) {move : MakerMove} (admits : chunk.Admits move)
    (sound : chunk.Sound move) : Kept start (chunk.step move) := by
  obtain ⟨whole, known⟩ := kept.chunkQuantity
  have counter := kept.accounted.quantity
  cases move with
  | submit clientOrderId price nowMs answer =>
    apply kept.place
    have unfilled : chunk.pending.makerFill.quantity.le progressTolerance = true := sound
    rw [counter, progressTolerance, ExactFloat.le_finite, decide_eq_true_iff] at unfilled
    rw [room, known, counter, progressTolerance, ExactFloat.sub_finite, ExactFloat.add_finite,
      ExactFloat.le_finite]
    exact decide_eq_true (by linarith)
  | replace clientOrderId price nowMs answer =>
    apply kept.place
    have left : progressTolerance.lt chunk.pending.remainingChunkQuantity = true := admits
    rw [PendingPassiveClose.remainingChunkQuantity, known, counter, progressTolerance,
      ExactFloat.sub_finite, ExactFloat.max_finite, ExactFloat.lt_finite,
      decide_eq_true_iff] at left
    rw [PendingPassiveClose.remainingChunkQuantity, room, known, counter, progressTolerance,
      ExactFloat.sub_finite, ExactFloat.max_finite, ExactFloat.add_finite, ExactFloat.le_finite]
    apply decide_eq_true
    rcases lt_max_iff.mp left with positive | zero
    · rw [max_eq_left (by linarith)]
      linarith
    · exact absurd zero (by norm_num)
  | report index progress nowMs => exact kept.report admits sound
  | work after =>
    have keeps : chunk.pending.KeepsMaker after := admits
    exact {
      accounted := kept.accounted.keeps keeps chunk.orders rfl rfl
      sensible := kept.sensible
      bounded := kept.bounded
      chunkQuantity := ⟨whole, (currentChunkQuantity_keeps keeps).trans known⟩ }

end MakerChunk

/-- Every state of a run of sound moves is accounted for, and every order was submitted for
at most what the chunk lacked. -/
theorem sound_run_accounted {start : PendingPassiveClose} {chunk : MakerChunk}
    (fresh : start.FreshPhase) (run : MakerRun start MakerChunk.Sound chunk) :
    chunk.Accounted (start.fillsOn start.phaseState.activeMakerLeg) ∧ chunk.Bounded := by
  have kept : MakerChunk.Kept start chunk := by
    induction run with
    | start => exact MakerChunk.kept_start fresh
    | step run move admits sound hyp => exact hyp.step admits sound
  exact ⟨kept.accounted, kept.bounded⟩

section Example

/-- A close of a unit, with the maker on the long leg. -/
def unitPassive : PendingPassiveClose :=
  { positionId := "p1", reason := "exit", targetQuantity := .finite 1
    chunkQuantities := [.finite 1] }

theorem unitPassive_fresh : unitPassive.FreshPhase where
  empty := rfl
  price := rfl
  chunk := ⟨1, rfl⟩
  rational := fun fill member => absurd member (by simp [PendingPassiveClose.fillsOn,
    PendingPassiveClose.legsOn, unitPassive])

/-- A report of a maker order that fills at ten. -/
def tenReport (orderId : String) (quantity : ℚ) (lastFillTimeMs : Int) : MakerProgress :=
  { venue := .binance, symbol := "BTCUSDT", side := .sell, orderId := orderId
    cumulativeQuantity := .finite quantity, averagePrice := .finite 10
    lastFillTimeMs := lastFillTimeMs }

theorem tenReport_reports {order : ReportedOrder} (orderId : String) {quantity : ℚ}
    (lastFillTimeMs : Int) (grows : order.quantity ≤ quantity)
    (notional : order.notional = order.quantity * 10) :
    order.Reports (tenReport orderId quantity lastFillTimeMs) quantity 10 where
  names := rfl
  averages := rfl
  grows := grows
  positive := fun _ => by norm_num
  stays := fun same => by rw [notional, same]
  pays := fun more => by
    rw [notional]
    linarith

def firstSubmit : MakerMove := .submit "c1" (.finite 10) 1 (.accepted { orderId := "m1" })

def firstReport : MakerMove := .report 0 (tenReport "m1" (2 / 5) 2) 3

/-- The maker's order is submitted and fills a part. -/
def partFilled : MakerChunk := (MakerChunk.step { pending := unitPassive } firstSubmit).step firstReport

theorem firstSubmit_admits : MakerChunk.Admits { pending := unitPassive } firstSubmit := ⟨rfl, rfl⟩

theorem firstReport_admits :
    (MakerChunk.step { pending := unitPassive } firstSubmit).Admits firstReport :=
  ⟨_, 2 / 5, 10, rfl, tenReport_reports "m1" 2 (by decide +kernel) (by decide +kernel)⟩

/-- A single order that fills a part is accounted for. -/
theorem sound_run_accounted_part :
    partFilled.Accounted (unitPassive.fillsOn .long) ∧ partFilled.Bounded := by
  have unfilled : MakerChunk.Sound { pending := unitPassive } firstSubmit := by
    change ExactFloat.le _ _ = true
    decide +kernel
  have alone : (MakerChunk.step { pending := unitPassive } firstSubmit).Sound firstReport := by
    refine ⟨_, rfl, .inr ⟨?_, by decide +kernel, by decide +kernel⟩⟩
    rintro (_ | other) earlier differs known
    · exact absurd rfl differs
    · exact absurd known (by simp [MakerChunk.step, MakerChunk.place, firstSubmit])
  exact sound_run_accounted unitPassive_fresh
    (.step (.step .start firstSubmit firstSubmit_admits unfilled) firstReport
      firstReport_admits alone)

def secondSubmit : MakerMove := .submit "c2" (.finite 10) 4 (.accepted { orderId := "m2" })

def secondReport : MakerMove := .report 0 (tenReport "m2" (3 / 5) 5) 6

/-- The order is canceled with its part filled. The driver submits a second one, which fills
the rest. -/
def canceled : MakerChunk := partFilled.step (.work partFilled.pending.clearMaker)

def restFilled : MakerChunk := (canceled.step secondSubmit).step secondReport

theorem secondReport_admits : (canceled.step secondSubmit).Admits secondReport :=
  ⟨_, 3 / 5, 10, rfl, tenReport_reports "m2" 5 (by decide +kernel) (by decide +kernel)⟩

theorem restFilled_run : MakerRun unitPassive (fun _ _ => True) restFilled := by
  have part : MakerRun unitPassive (fun _ _ => True) partFilled :=
    .step (.step .start firstSubmit firstSubmit_admits trivial) firstReport firstReport_admits
      trivial
  have cleared : MakerRun unitPassive (fun _ _ => True) canceled :=
    part.step (.work partFilled.pending.clearMaker) partFilled.pending.keepsMaker_clear trivial
  have free : canceled.Admits secondSubmit := ⟨rfl, rfl⟩
  exact (cleared.step secondSubmit free trivial).step secondReport secondReport_admits trivial

/-- The second order asks for the whole unit, and its fill replaces the first one's. -/
theorem resubmitted_order_overwrites :
    MakerRun unitPassive (fun _ _ => True) restFilled ∧
      restFilled.pending.makerFill.quantity = .finite (3 / 5) ∧
      reportedQuantity restFilled.orders = 1 ∧
      ¬ restFilled.Accounted (unitPassive.fillsOn .long) ∧ ¬ restFilled.Bounded := by
  have counter : restFilled.pending.makerFill.quantity = .finite (3 / 5) := by decide +kernel
  have reported : reportedQuantity restFilled.orders = 1 := by decide +kernel
  refine ⟨restFilled_run, counter, reported, ?_, ?_⟩
  · intro accounted
    have same := accounted.quantity
    rw [counter, reported] at same
    exact absurd (ExactFloat.finite.inj same) (by norm_num)
  · intro bounded
    have whole : ∀ order ∈ restFilled.orders,
        order.submitted.le (order.room.add progressTolerance) = true := bounded
    exact absurd whole (by decide +kernel)

end Example

end LightFee.Engine
