import LightFee.Engine.EntryCounters
import LightFee.Library.ListModify

/-!
# The totals of an entry

The exchange keeps what each maker and hedge order of an entry has executed; the entry keeps
one counter for each leg. Polling adds an order's cumulative quantity to what its predecessors
had filled, but a reconciliation compares one order, or the account's position, with the
counter of all orders. The counters stay within the totals and reach them while no position
shows more than the entry's own fills and no order is reconciled beside reported ones.
-/

namespace LightFee.Engine

open LightFee.Venues ListModify

/-! ## Own orders -/

/-- An order of the entry, as the exchange has it. -/
structure EntryOrder where
  orderId : String
  clientOrderId : String
  quantity : ℚ
  executed : ℚ := 0
  /-- Nothing more is executed. -/
  final : Bool := false
  /-- The final fill was reported to the counters. -/
  reported : Bool := false

namespace EntryOrder

/-- The order carries an identifier that is asked for. -/
def answersTo (order : EntryOrder) (identifiers : String × String) : Prop :=
  (identifiers.1 ≠ "" ∧ order.orderId = identifiers.1) ∨
    (identifiers.2 ≠ "" ∧ order.clientOrderId = identifiers.2)

/-- What was reported of the order as final. -/
def settled (order : EntryOrder) : ℚ := if order.reported then order.executed else 0

def execute (quantity : ℚ) (order : EntryOrder) : EntryOrder :=
  { order with executed := order.executed + quantity }

def finish (order : EntryOrder) : EntryOrder := { order with final := true }

/-- A report of the final fill. -/
def note (quantity : ℚ) (order : EntryOrder) : EntryOrder :=
  if order.final = true ∧ quantity = order.executed then { order with reported := true }
  else order

end EntryOrder

def executedTotal (orders : List EntryOrder) : ℚ := (orders.map EntryOrder.executed).sum

def settledTotal (orders : List EntryOrder) : ℚ := (orders.map EntryOrder.settled).sum

/-- An entry and its orders, the newest first. -/
structure EntryBook where
  pending : PendingEntry ℚ
  orders : EntryLeg → List EntryOrder := fun _ => []

namespace EntryBook

def setOrders (book : EntryBook) (leg : EntryLeg) (orders : List EntryOrder) : EntryBook :=
  { book with orders := Function.update book.orders leg orders }

@[simp] theorem setOrders_self (book : EntryBook) (leg : EntryLeg) (orders : List EntryOrder) :
    (book.setOrders leg orders).orders leg = orders := Function.update_self ..

theorem setOrders_other (book : EntryBook) {leg other : EntryLeg} (differs : other ≠ leg)
    (orders : List EntryOrder) : (book.setOrders leg orders).orders other = book.orders other :=
  Function.update_of_ne differs ..

def modifyOrder (book : EntryBook) (leg : EntryLeg) (index : Nat)
    (change : EntryOrder → EntryOrder) : EntryBook :=
  book.setOrders leg ((book.orders leg).modify index change)

end EntryBook

/-! ## Moves -/

/-- A reconciliation: the answer, the orders that the exchange answered for, and what other
owners hold on the venue of a leg, counted on the leg's side. -/
structure ReconcileMove where
  result : EntryReconciliation
  answered : EntryLeg → Nat := fun _ => 0
  others : EntryLeg → ℚ := fun _ => 0

inductive EntryMove where
  | execute (leg : EntryLeg) (index : Nat) (quantity : ℚ)
  | finish (leg : EntryLeg) (index : Nat)
  /-- A maker order is accepted. -/
  | cycle (cycle : PassiveCycle)
  /-- The newest maker order is polled. -/
  | progress (progress : PassiveOrderProgress)
  /-- A hedge order is sent. -/
  | attempt (inflight : HedgeInflight ℚ) (orderId : String)
  /-- The newest hedge order answers with its fill, which is added to the counter. -/
  | filled (fill : LegFill)
  /-- One hedge order is looked up, and its quantity taken as the total. -/
  | status (index : Nat) (quantity : ℚ)
  | reconcile (move : ReconcileMove)

namespace ReconcileMove

/-- The leg's part of the answer. -/
def part (move : ReconcileMove) (pending : PendingEntry ℚ) (leg : EntryLeg) :
    LegReconciliation :=
  move.result.leg (pending.physicalLeg leg)

/-- The quantity that is answered for the asked order. -/
def reported (move : ReconcileMove) (pending : PendingEntry ℚ) (leg : EntryLeg) : Option ℚ :=
  let part := move.part pending leg
  match part.fill with
  | some fill => some fill.quantity
  | none => if part.terminalZeroFill then some 0 else none

end ReconcileMove

namespace EntryBook

/-- The answer for an order of a leg becomes known. -/
def noteAnswer (book : EntryBook) (pending : PendingEntry ℚ) (move : ReconcileMove)
    (leg : EntryLeg) : EntryBook :=
  match move.reported pending leg with
  | some quantity => book.modifyOrder leg (move.answered leg) (EntryOrder.note quantity)
  | none => book

def step (book : EntryBook) : EntryMove → EntryBook
  | .execute leg index quantity => book.modifyOrder leg index (EntryOrder.execute quantity)
  | .finish leg index => book.modifyOrder leg index EntryOrder.finish
  | .cycle cycle =>
    { book.setOrders .maker ({
        orderId := cycle.orderId
        clientOrderId := cycle.clientOrderId
        quantity := cycle.targetQuantity } :: book.orders .maker) with
      pending := notePendingEntryPassiveCycleAccepted
        { book.pending with
          makerOrderId := cycle.orderId
          makerClientOrderId := cycle.clientOrderId } cycle }
  | .progress progress =>
    { book.modifyOrder .maker 0 (EntryOrder.note progress.cumulativeQuantity) with
      pending := (applyPendingEntryPassiveProgress book.pending (some progress)).1 }
  | .attempt inflight orderId =>
    { book.setOrders .hedge ({
        orderId := orderId
        clientOrderId := inflight.clientOrderId
        quantity := inflight.quantity } :: book.orders .hedge) with
      pending := { book.pending with
        hedgeAttemptCount := inflight.attempt
        hedgeClientOrderId := inflight.clientOrderId
        hedgeInflight := some inflight } }
  | .filled fill =>
    { book.modifyOrder .hedge 0 (EntryOrder.note fill.quantity) with
      pending :=
        { (applyPendingEntryHedgeProgress book.pending
            { newTotalQuantity := book.pending.hedgeLegFilled + fill.quantity
              price := fill.averagePrice
              orderId := fill.orderId }).1 with
          hedgeInflight := none } }
  | .status index quantity =>
    { book.modifyOrder .hedge index (EntryOrder.note quantity) with
      pending := (applyPendingEntryHedgeProgress book.pending
        { newTotalQuantity := quantity
          price := book.pending.hedgeFillPrice
          orderId := book.pending.hedgeOrderId }).1 }
  | .reconcile move =>
    let noted :=
      if book.pending.reachesWriteBack move.result = true then
        (book.noteAnswer book.pending move .maker).noteAnswer book.pending move .hedge
      else book
    { noted with pending := book.pending.writeBack book.pending.pendingId move.result }

/-- The cumulative fill of one order of a leg. -/
def Truthful (book : EntryBook) (leg : EntryLeg) (index : Nat) (quantity : ℚ) : Prop :=
  ∃ order, (book.orders leg)[index]? = some order ∧ 0 ≤ quantity ∧ quantity ≤ order.executed

/-- The entry's own position on the venue of a leg, with what other owners hold there. -/
def liveQuantity (book : EntryBook) (move : ReconcileMove) (leg : EntryLeg) : ℚ :=
  executedTotal (book.orders leg) + move.others leg

/-- An answer that is truthful for the asked order and for the account. -/
structure TruthfulAnswer (book : EntryBook) (move : ReconcileMove) (leg : EntryLeg) :
    Prop where
  /-- The answer is about an order with the asked identifiers. -/
  order : ∀ quantity, move.reported book.pending leg = some quantity →
    book.Truthful leg (move.answered leg) quantity ∧
      ∀ order, (book.orders leg)[move.answered leg]? = some order →
        order.answersTo
          (book.pending.reconciliationIdentifiers (book.pending.physicalLeg leg))
  zero : (move.part book.pending leg).terminalZeroFill = true →
    ∀ order, (book.orders leg)[move.answered leg]? = some order →
      order.final = true ∧ order.executed = 0
  quantity : ∀ position, (move.part book.pending leg).position = some position →
    position.quantity = |book.liveQuantity move leg|
  side : ∀ position, (move.part book.pending leg).position = some position →
    (0 < book.liveQuantity move leg →
        position.side = (book.pending.physicalLeg leg).expectedSide) ∧
      (book.liveQuantity move leg < 0 →
        position.side ≠ (book.pending.physicalLeg leg).expectedSide)

/-- What the exchange can do and answer. -/
def Admits (book : EntryBook) : EntryMove → Prop
  | .execute leg index quantity => 0 < quantity ∧
    ∃ order, (book.orders leg)[index]? = some order ∧ order.final = false ∧
      order.executed + quantity ≤ order.quantity
  | .finish leg index => ∃ order, (book.orders leg)[index]? = some order
  | .cycle cycle => cycle.orderId ≠ "" ∧ cycle.clientOrderId ≠ "" ∧
    ∀ order ∈ book.orders .maker,
      order.orderId ≠ cycle.orderId ∧ order.clientOrderId ≠ cycle.clientOrderId
  | .progress progress => book.pending.passiveOrder ≠ none ∧
    book.Truthful .maker 0 progress.cumulativeQuantity
  | .attempt _ _ => True
  | .filled fill => 0 < fill.quantity ∧ book.Truthful .hedge 0 fill.quantity
  | .status index quantity => book.Truthful .hedge index quantity
  | .reconcile move => ∀ leg, book.TruthfulAnswer move leg

/-! ## The condition -/

/-- A final fill that is compared with the counter: the order's fill is known as final already,
or no other final fill is known, or the counter has room for it beside them. -/
def Alone (book : EntryBook) (leg : EntryLeg) (index : Nat) (quantity : ℚ) : Prop :=
  ∀ order, (book.orders leg)[index]? = some order → order.final = true →
    quantity = order.executed → order.reported = true ∨ settledTotal (book.orders leg) = 0 ∨
      settledTotal (book.orders leg) + quantity ≤ book.pending.legFilled leg

/-- A quantity brings nothing new, or more than what is not counted. -/
def Counts (book : EntryBook) (leg : EntryLeg) (dust quantity : ℚ) : Prop :=
  quantity ≤ book.pending.legFilled leg ∨ book.pending.legFilled leg + dust < quantity

structure SoundAnswer (book : EntryBook) (move : ReconcileMove) : Prop where
  /-- A zero fill of the newest order comes before any fill of the maker leg. -/
  zeroFill : book.pending.verifiedTerminalZeroFill move.result = true →
    settledTotal (book.orders .maker) = 0
  order : book.pending.reachesWriteBack move.result = true → ∀ leg quantity,
    move.reported book.pending leg = some quantity →
      book.Alone leg (move.answered leg) quantity ∧
        book.Counts leg (PendingEntry.writeBackDust leg) quantity
  /-- Other owners do not make the position larger than the entry's own fills. -/
  position : book.pending.reachesWriteBack move.result = true → ∀ leg position,
    (move.part book.pending leg).position = some position →
      (leg = .maker → (move.part book.pending leg).status = "filled") →
        -2 * executedTotal (book.orders leg) ≤ move.others leg ∧ move.others leg ≤ 0

def Sound (book : EntryBook) : EntryMove → Prop
  | .progress progress => ∀ order, book.pending.passiveOrder = some order →
    book.Counts .maker quantityDust (order.updatedQuantity progress.cumulativeQuantity)
  | .filled fill => 1 / 10 ^ 12 < fill.quantity ∧
    book.pending.hedgeLegFilled ≤ executedTotal (book.orders .hedge).tail
  | .status index quantity => book.Alone .hedge index quantity ∧
    book.Counts .hedge (PendingEntry.writeBackDust .hedge) quantity
  | .reconcile move => book.SoundAnswer move
  | _ => True

/-- The identifiers that the entry keeps are the newest maker order's alone. -/
def NamesNewest (book : EntryBook) : Prop :=
  ∀ newest earlier, book.orders .maker = newest :: earlier →
    newest.orderId ≠ "" ∧ newest.clientOrderId ≠ "" ∧
      book.pending.makerOrderId = newest.orderId ∧
      book.pending.makerClientOrderId = newest.clientOrderId ∧
      ∀ order ∈ earlier, order.orderId ≠ newest.orderId ∧
        order.clientOrderId ≠ newest.clientOrderId

/-- No order executes more than it asks for, and only final fills are known as final. -/
def Regular (book : EntryBook) : Prop :=
  ∀ leg, ∀ order ∈ book.orders leg, 0 ≤ order.executed ∧
    (0 < order.executed → order.executed ≤ order.quantity) ∧
    (order.reported = true → order.final = true)

/-- An entry whose counters are what its orders, if there are any, have executed. -/
structure Opened (book : EntryBook) : Prop where
  makerLeg : book.pending.makerLeg = "long" ∨ book.pending.makerLeg = "short"
  counted : ∀ leg, book.pending.legFilled leg = executedTotal (book.orders leg)
  regular : book.Regular
  names : book.NamesNewest
  current : ∀ passive, book.pending.passiveOrder = some passive →
    ∃ newest earlier, book.orders .maker = newest :: earlier ∧
      passive.targetQuantity = newest.quantity ∧
      passive.fillCheckpointQuantity = executedTotal earlier

/-- The counters of an entry are within the totals of its orders, and are the totals once every
order's final fill was reported. -/
structure Accounted (book : EntryBook) : Prop where
  within : ∀ leg, book.pending.legFilled leg ≤ executedTotal (book.orders leg)
  exact : ∀ leg, (∀ order ∈ book.orders leg, order.reported = true) →
    book.pending.legFilled leg = executedTotal (book.orders leg)

end EntryBook

/-- The books that an entry reaches by moves that meet a condition. -/
inductive EntryBookRun (start : EntryBook) (meets : EntryBook → EntryMove → Prop) :
    EntryBook → Prop where
  | start : EntryBookRun start meets start
  | step {book : EntryBook} (run : EntryBookRun start meets book) (move : EntryMove)
      (admits : book.Admits move) (sound : meets book move) :
      EntryBookRun start meets (book.step move)

/-! ## Totals of lists of orders -/

theorem executedTotal_cons (order : EntryOrder) (rest : List EntryOrder) :
    executedTotal (order :: rest) = order.executed + executedTotal rest := by
  simp [executedTotal]

theorem settledTotal_cons (order : EntryOrder) (rest : List EntryOrder) :
    settledTotal (order :: rest) = order.settled + settledTotal rest := by
  simp [settledTotal]

theorem executedTotal_nonneg {orders : List EntryOrder}
    (regular : ∀ order ∈ orders, 0 ≤ order.executed) : 0 ≤ executedTotal orders := by
  apply List.sum_nonneg
  intro executed listed
  obtain ⟨order, among, rfl⟩ := List.mem_map.mp listed
  exact regular order among

theorem settled_le_executed {order : EntryOrder} (executed : 0 ≤ order.executed) :
    order.settled ≤ order.executed := by
  rw [EntryOrder.settled]
  split_ifs
  · exact le_rfl
  · exact executed

theorem settledTotal_le_executedTotal {orders : List EntryOrder}
    (regular : ∀ order ∈ orders, 0 ≤ order.executed) :
    settledTotal orders ≤ executedTotal orders :=
  List.sum_le_sum fun order listed => settled_le_executed (regular order listed)

theorem settledTotal_nonneg {orders : List EntryOrder}
    (regular : ∀ order ∈ orders, 0 ≤ order.executed) : 0 ≤ settledTotal orders := by
  apply List.sum_nonneg
  intro settled listed
  obtain ⟨order, among, rfl⟩ := List.mem_map.mp listed
  rw [EntryOrder.settled]
  split_ifs
  · exact regular order among
  · exact le_rfl

theorem executed_le_executedTotal {orders : List EntryOrder} {index : Nat} {order : EntryOrder}
    (regular : ∀ order ∈ orders, 0 ≤ order.executed) (found : orders[index]? = some order) :
    order.executed ≤ executedTotal orders :=
  List.single_le_sum (by
    intro executed listed
    obtain ⟨other, among, rfl⟩ := List.mem_map.mp listed
    exact regular other among) _ (List.mem_map_of_mem (List.mem_of_getElem? found))

theorem settledTotal_all {orders : List EntryOrder}
    (reported : ∀ order ∈ orders, order.reported = true) :
    settledTotal orders = executedTotal orders := by
  rw [settledTotal, executedTotal]
  congr 1
  apply List.map_congr_left
  intro order listed
  rw [EntryOrder.settled, if_pos (reported order listed)]

/-- A note settles the order at most once more. -/
theorem settledTotal_note {orders : List EntryOrder} {index : Nat} {order : EntryOrder}
    (quantity : ℚ) (found : orders[index]? = some order) :
    settledTotal (orders.modify index (EntryOrder.note quantity)) = settledTotal orders ∨
      (order.final = true ∧ quantity = order.executed ∧ order.reported = false ∧
        settledTotal (orders.modify index (EntryOrder.note quantity)) =
          settledTotal orders + quantity) := by
  have changed : settledTotal (orders.modify index (EntryOrder.note quantity)) =
      settledTotal orders - order.settled + (order.note quantity).settled :=
    sum_modify EntryOrder.settled _ found
  by_cases final : order.final = true ∧ quantity = order.executed
  · cases known : order.reported with
    | true =>
      left
      rw [changed, EntryOrder.note, if_pos final]
      simp only [EntryOrder.settled, known, if_true]
      ring
    | false =>
      right
      refine ⟨final.1, final.2, rfl, ?_⟩
      rw [changed, EntryOrder.note, if_pos final, final.2]
      simp only [EntryOrder.settled, known, if_true]
      simp
  · left
    rw [changed, EntryOrder.note, if_neg final]
    ring

theorem note_executed (quantity : ℚ) (order : EntryOrder) :
    (order.note quantity).executed = order.executed := by
  rw [EntryOrder.note]
  split_ifs <;> rfl

/-! ## The invariant -/

namespace EntryBook

/-- The counters lie between what is settled and what is executed, and the newest maker order
started from a checkpoint between the same totals of its predecessors. -/
structure Kept (book : EntryBook) : Prop where
  makerLeg : book.pending.makerLeg = "long" ∨ book.pending.makerLeg = "short"
  within : ∀ leg, book.pending.legFilled leg ≤ executedTotal (book.orders leg)
  covers : ∀ leg, settledTotal (book.orders leg) ≤ book.pending.legFilled leg
  regular : book.Regular
  names : book.NamesNewest
  current : ∀ basis, book.pending.passiveOrder.map PendingPassiveOrder.basis = some basis →
    ∃ newest earlier, book.orders .maker = newest :: earlier ∧ basis.1 = newest.quantity ∧
      basis.2 ≤ executedTotal earlier ∧ settledTotal earlier ≤ basis.2

variable {book : EntryBook}

theorem Regular.nonneg (regular : book.Regular) (leg : EntryLeg) :
    ∀ order ∈ book.orders leg, 0 ≤ order.executed :=
  fun order listed => (regular leg order listed).1

theorem Opened.kept (opened : book.Opened) : book.Kept where
  makerLeg := opened.makerLeg
  within leg := (opened.counted leg).le
  covers leg := (settledTotal_le_executedTotal (opened.regular.nonneg leg)).trans
    (opened.counted leg).ge
  regular := opened.regular
  names := opened.names
  current := by
    intro basis shown
    obtain ⟨passive, current, rfl⟩ := Option.map_eq_some_iff.mp shown
    obtain ⟨newest, earlier, orders, target, checkpoint⟩ := opened.current passive current
    refine ⟨newest, earlier, orders, target, checkpoint.le, ?_⟩
    have nonneg := opened.regular.nonneg .maker
    rw [orders] at nonneg
    exact (settledTotal_le_executedTotal fun order listed =>
      nonneg order (List.mem_cons_of_mem _ listed)).trans checkpoint.ge

theorem Kept.accounted (kept : book.Kept) : book.Accounted where
  within := kept.within
  exact leg reported :=
    le_antisymm (kept.within leg) ((settledTotal_all reported).ge.trans (kept.covers leg))

theorem Kept.filled_nonneg (kept : book.Kept) (leg : EntryLeg) :
    0 ≤ book.pending.legFilled leg :=
  (settledTotal_nonneg (kept.regular.nonneg leg)).trans (kept.covers leg)

/-- The invariant survives counters that rise within the totals. -/
theorem Kept.climb (kept : book.Kept) {after : PendingEntry ℚ}
    (climbs : book.pending.Climbs after (fun leg => executedTotal (book.orders leg))) :
    { book with pending := after }.Kept where
  makerLeg := by
    change after.makerLeg = "long" ∨ after.makerLeg = "short"
    rw [climbs.same.makerLeg]
    exact kept.makerLeg
  within leg := (climbs.within leg).trans (max_le (kept.within leg) le_rfl)
  covers leg := (kept.covers leg).trans (climbs.grows leg)
  regular := kept.regular
  names := by
    intro newest earlier orders
    obtain ⟨orderId, clientOrderId, named, clientNamed, distinct⟩ :=
      kept.names newest earlier orders
    refine ⟨orderId, clientOrderId, ?_, ?_, distinct⟩
    · exact (climbs.same.makerOrderId (named ▸ orderId)).trans named
    · exact climbs.same.makerClientOrderId.trans clientNamed
  current basis shown := kept.current basis (climbs.same.passiveOrder ▸ shown)

/-- A changed order is the newest one or among its predecessors. -/
theorem modify_cons_cases {newest order : EntryOrder} {earlier : List EntryOrder} {index : Nat}
    (change : EntryOrder → EntryOrder) (found : (newest :: earlier)[index]? = some order) :
    (order = newest ∧ (newest :: earlier).modify index change = change newest :: earlier) ∨
      (index ≠ 0 ∧ ∃ later, earlier[later]? = some order ∧
        (newest :: earlier).modify index change = newest :: earlier.modify later change) := by
  cases index with
  | zero => exact .inl ⟨(by simpa using found : newest = order).symm, List.modify_zero_cons ..⟩
  | succ later => exact .inr ⟨by simp, later, by simpa using found, List.modify_succ_cons ..⟩

/-- The invariant survives a change of one order that keeps its identity and takes back no
execution, as long as the counter still covers what is settled; below the newest maker order
nothing may be settled. -/
theorem Kept.modify (kept : book.Kept) {leg : EntryLeg} {index : Nat}
    {change : EntryOrder → EntryOrder} {order : EntryOrder}
    (found : (book.orders leg)[index]? = some order)
    (identity : (change order).orderId = order.orderId ∧
      (change order).clientOrderId = order.clientOrderId ∧
      (change order).quantity = order.quantity)
    (grows : order.executed ≤ (change order).executed)
    (bounded : 0 < (change order).executed → (change order).executed ≤ order.quantity)
    (final : (change order).reported = true → (change order).final = true)
    (covers : settledTotal ((book.orders leg).modify index change) ≤ book.pending.legFilled leg)
    (settled : leg = .maker → index = 0 ∨ (change order).settled = order.settled) :
    (book.modifyOrder leg index change).Kept := by
  have changed : (book.modifyOrder leg index change).orders leg =
      (book.orders leg).modify index change := book.setOrders_self leg _
  have kept_others : ∀ other, other ≠ leg →
      (book.modifyOrder leg index change).orders other = book.orders other :=
    fun other differs => book.setOrders_other differs _
  have executed : executedTotal (book.orders leg) ≤
      executedTotal ((book.orders leg).modify index change) := by
    have total := sum_modify EntryOrder.executed change found
    change executedTotal _ = executedTotal _ - _ + _ at total
    linarith
  refine ⟨kept.makerLeg, ?_, ?_, ?_, ?_, ?_⟩
  · intro other
    by_cases same : other = leg
    · rw [same, changed]
      exact (kept.within leg).trans executed
    · rw [kept_others other same]
      exact kept.within other
  · intro other
    by_cases same : other = leg
    · rw [same, changed]
      exact covers
    · rw [kept_others other same]
      exact kept.covers other
  · intro other changedOrder listed
    by_cases same : other = leg
    · rw [same, changed] at listed
      rcases mem_modify listed with among | ⟨item, here, rfl⟩
      · exact kept.regular leg changedOrder among
      · obtain rfl : order = item := Option.some.inj (found.symm.trans here)
        have before := kept.regular leg order (List.mem_of_getElem? found)
        exact ⟨before.1.trans grows, fun some => identity.2.2 ▸ bounded some, final⟩
    · rw [kept_others other same] at listed
      exact kept.regular other changedOrder listed
  · intro newest earlier orders
    by_cases same : leg = .maker
    · subst same
      rw [changed] at orders
      cases booked : book.orders .maker with
      | nil => simp [booked] at found
      | cons first others =>
        obtain ⟨orderId, clientOrderId, named, clientNamed, distinct⟩ :=
          kept.names first others booked
        rw [booked] at found orders
        rcases modify_cons_cases change found with ⟨rfl, shape⟩ | ⟨_, later, here, shape⟩
        · obtain ⟨rfl, rfl⟩ := List.cons.inj (shape.symm.trans orders)
          rw [identity.1, identity.2.1]
          exact ⟨orderId, clientOrderId, named, clientNamed, distinct⟩
        · obtain ⟨rfl, rfl⟩ := List.cons.inj (shape.symm.trans orders)
          refine ⟨orderId, clientOrderId, named, clientNamed, ?_⟩
          intro other listed
          rcases mem_modify listed with among | ⟨item, found', rfl⟩
          · exact distinct other among
          · obtain rfl : order = item := Option.some.inj (here.symm.trans found')
            rw [identity.1, identity.2.1]
            exact distinct order (List.mem_of_getElem? here)
    · rw [kept_others .maker (Ne.symm same)] at orders
      exact kept.names newest earlier orders
  · intro basis shown
    obtain ⟨newest, earlier, orders, target, checkpoint, known⟩ := kept.current basis shown
    by_cases same : leg = .maker
    · subst same
      rw [changed, orders]
      rw [orders] at found
      rcases modify_cons_cases change found with ⟨rfl, shape⟩ | ⟨below, later, here, shape⟩
      · exact ⟨change order, earlier, shape, target.trans identity.2.2.symm, checkpoint, known⟩
      · have unsettled := (settled rfl).resolve_left below
        have total := sum_modify EntryOrder.executed change here
        have settledSum := sum_modify EntryOrder.settled change here
        change executedTotal _ = executedTotal _ - _ + _ at total
        change settledTotal _ = settledTotal _ - _ + _ at settledSum
        exact ⟨newest, earlier.modify later change, shape, target, by linarith, by linarith⟩
    · rw [kept_others .maker (Ne.symm same)]
      exact ⟨newest, earlier, orders, target, checkpoint, known⟩

end EntryBook

/-! ## One move -/

namespace EntryBook

variable {book : EntryBook}

theorem Truthful.within (regular : book.Regular) {leg : EntryLeg} {index : Nat} {quantity : ℚ}
    (truthful : book.Truthful leg index quantity) : quantity ≤ executedTotal (book.orders leg) := by
  obtain ⟨order, found, _, executed⟩ := truthful
  exact executed.trans (executed_le_executedTotal (regular.nonneg leg) found)

/-- The invariant survives a final report that the counter covers beside the others. -/
theorem Kept.note (kept : book.Kept) {leg : EntryLeg} {index : Nat} {quantity : ℚ}
    {order : EntryOrder} (found : (book.orders leg)[index]? = some order)
    (newest : leg = .maker → index = 0)
    (covered : order.final = true → quantity = order.executed → order.reported = false →
      settledTotal (book.orders leg) + quantity ≤ book.pending.legFilled leg) :
    (book.modifyOrder leg index (EntryOrder.note quantity)).Kept := by
  have regular := kept.regular leg order (List.mem_of_getElem? found)
  have identity : (order.note quantity).orderId = order.orderId ∧
      (order.note quantity).clientOrderId = order.clientOrderId ∧
      (order.note quantity).quantity = order.quantity := by
    rw [EntryOrder.note]
    split_ifs <;> exact ⟨rfl, rfl, rfl⟩
  refine kept.modify found identity (note_executed quantity order).ge ?_ ?_ ?_ ?_
  · rw [note_executed]
    exact regular.2.1
  · intro reported
    rw [EntryOrder.note] at reported ⊢
    split_ifs at reported ⊢ with final
    · exact final.1
    · exact regular.2.2 reported
  · rcases settledTotal_note quantity found with same | ⟨final, names, fresh, more⟩
    · exact same.le.trans (kept.covers leg)
    · exact more.le.trans (covered final names fresh)
  · exact fun maker => .inl (newest maker)

/-- What a report compared with the counter needs, once the counter has reached it. -/
theorem Alone.covered {leg : EntryLeg} {index : Nat} {quantity : ℚ} {order : EntryOrder}
    (alone : book.Alone leg index quantity) (found : (book.orders leg)[index]? = some order)
    {filled : ℚ} (grows : book.pending.legFilled leg ≤ filled) (reaches : quantity ≤ filled)
    (final : order.final = true) (names : quantity = order.executed)
    (fresh : order.reported = false) :
    settledTotal (book.orders leg) + quantity ≤ filled := by
  rcases alone order found final names with known | nothing | room
  · exact absurd known (by simp [fresh])
  · rw [nothing, zero_add]
    exact reaches
  · exact room.trans grows

theorem Kept.execute (kept : book.Kept) {leg : EntryLeg} {index : Nat} {quantity : ℚ}
    (admits : book.Admits (.execute leg index quantity)) :
    (book.step (.execute leg index quantity)).Kept := by
  obtain ⟨positive, order, found, unfinished, room⟩ := admits
  have regular := kept.regular leg order (List.mem_of_getElem? found)
  have fresh : order.reported = false := by
    cases known : order.reported with
    | false => rfl
    | true => exact absurd (regular.2.2 known) (by simp [unfinished])
  have settled : (order.execute quantity).settled = order.settled := by
    simp [EntryOrder.settled, EntryOrder.execute, fresh]
  refine kept.modify found ⟨rfl, rfl, rfl⟩ (le_add_of_nonneg_right positive.le) (fun _ => room)
    (fun known => absurd known (by simp [EntryOrder.execute, fresh])) ?_ (fun _ => .inr settled)
  have total := sum_modify EntryOrder.settled (EntryOrder.execute quantity) found
  change settledTotal _ = settledTotal _ - _ + _ at total
  rw [settled] at total
  linarith [kept.covers leg]

theorem Kept.finish (kept : book.Kept) {leg : EntryLeg} {index : Nat}
    (admits : book.Admits (.finish leg index)) : (book.step (.finish leg index)).Kept := by
  obtain ⟨order, found⟩ := admits
  have regular := kept.regular leg order (List.mem_of_getElem? found)
  refine kept.modify found ⟨rfl, rfl, rfl⟩ le_rfl regular.2.1 (fun _ => rfl) ?_
    (fun _ => .inr rfl)
  have total := sum_modify EntryOrder.settled EntryOrder.finish found
  change settledTotal _ = settledTotal _ - order.settled + order.settled at total
  linarith [kept.covers leg]

/-- A new order of a leg executes nothing yet. -/
theorem regular_cons (regular : book.Regular) (leg : EntryLeg) {fresh : EntryOrder}
    (unexecuted : fresh.executed = 0) (unreported : fresh.reported = false) :
    (book.setOrders leg (fresh :: book.orders leg)).Regular := by
  intro other order listed
  by_cases same : other = leg
  · subst same
    rw [setOrders_self] at listed
    rcases List.mem_cons.mp listed with rfl | among
    · exact ⟨unexecuted.ge, fun positive => absurd unexecuted positive.ne',
        fun known => absurd known (by simp [unreported])⟩
    · exact regular other order among
  · rw [setOrders_other book same] at listed
    exact regular other order listed

/-- A new order changes no total. -/
theorem totals_cons (book : EntryBook) (leg other : EntryLeg) (fresh : EntryOrder)
    (unexecuted : fresh.executed = 0) :
    executedTotal ((book.setOrders leg (fresh :: book.orders leg)).orders other) =
        executedTotal (book.orders other) ∧
      settledTotal ((book.setOrders leg (fresh :: book.orders leg)).orders other) =
        settledTotal (book.orders other) := by
  by_cases same : other = leg
  · subst same
    rw [setOrders_self, executedTotal_cons, settledTotal_cons, EntryOrder.settled, unexecuted,
      ite_self, zero_add, zero_add]
    exact ⟨rfl, rfl⟩
  · rw [setOrders_other book same]
    exact ⟨rfl, rfl⟩

/-- The counters stay between the totals when an order is added. -/
theorem Kept.opens (kept : book.Kept) (leg : EntryLeg) {fresh : EntryOrder}
    (unexecuted : fresh.executed = 0) (other : EntryLeg) :
    settledTotal ((book.setOrders leg (fresh :: book.orders leg)).orders other) ≤
        book.pending.legFilled other ∧
      book.pending.legFilled other ≤
        executedTotal ((book.setOrders leg (fresh :: book.orders leg)).orders other) := by
  obtain ⟨executed, settled⟩ := totals_cons book leg other fresh unexecuted
  rw [executed, settled]
  exact ⟨kept.covers other, kept.within other⟩

theorem Kept.cycle (kept : book.Kept) {cycle : PassiveCycle}
    (admits : book.Admits (.cycle cycle)) : (book.step (.cycle cycle)).Kept := by
  obtain ⟨orderId, clientOrderId, fresh⟩ := admits
  let newest : EntryOrder :=
    { orderId := cycle.orderId
      clientOrderId := cycle.clientOrderId
      quantity := cycle.targetQuantity }
  have orders : (book.step (.cycle cycle)).orders .maker = newest :: book.orders .maker :=
    book.setOrders_self .maker _
  have filled : ∀ leg, (book.step (.cycle cycle)).pending.legFilled leg =
      book.pending.legFilled leg := by
    intro leg
    cases leg <;> rfl
  have opens := fun leg => kept.opens .maker (show newest.executed = 0 from rfl) leg
  refine ⟨kept.makerLeg, ?_, ?_, regular_cons kept.regular .maker rfl rfl, ?_, ?_⟩
  · exact fun leg => (filled leg).le.trans (opens leg).2
  · exact fun leg => (opens leg).1.trans (filled leg).ge
  · intro first earlier split
    obtain ⟨rfl, rfl⟩ := List.cons.inj (split.symm.trans orders)
    exact ⟨orderId, clientOrderId, rfl, rfl, fresh⟩
  · intro basis shown
    obtain rfl : (cycle.targetQuantity, book.pending.makerLegFilled) = basis :=
      Option.some.inj shown
    exact ⟨newest, book.orders .maker, orders, rfl, kept.within .maker, kept.covers .maker⟩

theorem Kept.attempt (kept : book.Kept) (inflight : HedgeInflight ℚ) (orderId : String) :
    (book.step (.attempt inflight orderId)).Kept := by
  let newest : EntryOrder :=
    { orderId := orderId
      clientOrderId := inflight.clientOrderId
      quantity := inflight.quantity }
  have filled : ∀ leg, (book.step (.attempt inflight orderId)).pending.legFilled leg =
      book.pending.legFilled leg := by
    intro leg
    cases leg <;> rfl
  have opens := fun leg => kept.opens .hedge (show newest.executed = 0 from rfl) leg
  have maker : (book.step (.attempt inflight orderId)).orders .maker = book.orders .maker :=
    book.setOrders_other (show EntryLeg.maker ≠ .hedge by simp) (newest :: book.orders .hedge)
  refine ⟨kept.makerLeg, ?_, ?_, regular_cons kept.regular .hedge rfl rfl, ?_, ?_⟩
  · exact fun leg => (filled leg).le.trans (opens leg).2
  · exact fun leg => (opens leg).1.trans (filled leg).ge
  · intro first earlier split
    exact kept.names first earlier (maker ▸ split)
  · intro basis shown
    rw [maker]
    exact kept.current basis shown

end EntryBook

/-! ## Moves that report -/

namespace EntryBook

variable {book : EntryBook}

/-- The quantity that a truthful report brings the newest maker order to. -/
theorem updatedQuantity_truthful {passive : PendingPassiveOrder ℚ} {newest : EntryOrder}
    {cumulative : ℚ} (target : passive.targetQuantity = newest.quantity)
    (bounded : 0 < newest.executed → newest.executed ≤ newest.quantity)
    (nonneg : 0 ≤ cumulative) (executed : cumulative ≤ newest.executed) :
    passive.updatedQuantity cumulative = passive.fillCheckpointQuantity + cumulative := by
  rw [PendingPassiveOrder.updatedQuantity, max_eq_right nonneg]
  split_ifs with positive
  · congr 1
    rcases nonneg.eq_or_lt with rfl | some
    · exact min_eq_left positive.le
    · exact min_eq_left (by linarith [bounded (some.trans_le executed)])
  · rfl

theorem Kept.progress (kept : book.Kept) {progress : PassiveOrderProgress}
    (admits : book.Admits (.progress progress)) (sound : book.Sound (.progress progress)) :
    (book.step (.progress progress)).Kept := by
  obtain ⟨resting, order, found, nonneg, executed⟩ := admits
  have regular := kept.regular .maker order (List.mem_of_getElem? found)
  cases current : book.pending.passiveOrder with
  | none => exact absurd current resting
  | some passive =>
    obtain ⟨newest, earlier, orders, target, checkpoint, known⟩ :=
      kept.current passive.basis (by rw [current]; rfl)
    obtain rfl : newest = order := by simpa [orders] using found
    have updated := updatedQuantity_truthful target regular.2.1 nonneg executed
    obtain ⟨raises, reaches⟩ := PendingEntry.passiveProgress_raises current progress
    have total : executedTotal (book.orders .maker) = newest.executed + executedTotal earlier := by
      rw [orders, executedTotal_cons]
    change passive.fillCheckpointQuantity ≤ executedTotal earlier at checkpoint
    have within : passive.updatedQuantity progress.cumulativeQuantity ≤
        executedTotal (book.orders .maker) := by
      rw [updated, total]
      linarith
    refine (kept.climb (raises.climbs within)).note found (fun _ => rfl) ?_
    intro final names fresh
    have settled : settledTotal (book.orders .maker) = settledTotal earlier := by
      rw [orders, settledTotal_cons, EntryOrder.settled, fresh]
      simp
    have counted : passive.fillCheckpointQuantity + progress.cumulativeQuantity ≤
        (applyPendingEntryPassiveProgress book.pending (some progress)).1.makerLegFilled := by
      rw [← updated]
      rcases sound passive current with covered | more
      · exact covered.trans raises.grows
      · exact (reaches more).ge
    exact le_trans (by rw [settled]; exact add_le_add_left known _) counted

/-- The answer of the newest hedge order is added to a counter that does not know it. -/
theorem Kept.filled (kept : book.Kept) {fill : LegFill} (admits : book.Admits (.filled fill))
    (sound : book.Sound (.filled fill)) : (book.step (.filled fill)).Kept := by
  obtain ⟨positive, order, found, _, executed⟩ := admits
  obtain ⟨whole, unknown⟩ := sound
  let report : HedgeProgress :=
    { newTotalQuantity := book.pending.hedgeLegFilled + fill.quantity
      price := fill.averagePrice
      orderId := fill.orderId }
  have raises := PendingEntry.hedgeProgress_raises book.pending report
  have reaches := PendingEntry.hedgeProgress_reaches book.pending report
    (.inr (add_lt_add_right whole _))
  have within : book.pending.hedgeLegFilled + fill.quantity ≤
      executedTotal (book.orders .hedge) := by
    cases orders : book.orders .hedge with
    | nil => simp [orders] at found
    | cons newest earlier =>
      rw [orders] at found unknown
      obtain rfl : newest = order := by simpa using found
      rw [executedTotal_cons]
      change book.pending.hedgeLegFilled ≤ executedTotal earlier at unknown
      linarith
  have answered := raises.answered
  refine (kept.climb (answered.climbs within)).note found (fun impossible => nomatch impossible) ?_
  intro _ _ _
  exact (add_le_add_left (kept.covers .hedge) _).trans reaches

theorem Kept.status (kept : book.Kept) {index : Nat} {quantity : ℚ}
    (admits : book.Admits (.status index quantity)) (sound : book.Sound (.status index quantity)) :
    (book.step (.status index quantity)).Kept := by
  obtain ⟨alone, counts⟩ := sound
  have within := Truthful.within kept.regular admits
  obtain ⟨order, found, _, _⟩ := admits
  let report : HedgeProgress :=
    { newTotalQuantity := quantity
      price := book.pending.hedgeFillPrice
      orderId := book.pending.hedgeOrderId }
  have raises := PendingEntry.hedgeProgress_raises book.pending report
  have reaches := PendingEntry.hedgeProgress_reaches book.pending report counts
  refine (kept.climb (raises.climbs within)).note found (fun impossible => nomatch impossible) ?_
  exact fun final names fresh => alone.covered found raises.grows reaches final names fresh

end EntryBook

/-! ## A reconciliation -/

namespace PendingEntry

theorem correctZeroFill_cases (pending : PendingEntry ℚ) (result : EntryReconciliation) :
    pending.correctZeroFill result = pending ∨
      (pending.verifiedTerminalZeroFill result = true ∧
        pending.correctZeroFill result = pending.clearMakerFill) := by
  unfold correctZeroFill
  split_ifs with corrects
  · exact .inr ⟨corrects.1, rfl⟩
  · exact .inl rfl

theorem clearMakerFill_same (pending : PendingEntry ℚ) :
    pending.SameOrders pending.clearMakerFill := by
  refine ⟨rfl, fun _ => rfl, rfl, ?_⟩
  change (pending.passiveOrder.map _).map _ = _
  rw [Option.map_map]
  rfl

theorem correctZeroFill_same (pending : PendingEntry ℚ) (result : EntryReconciliation) :
    pending.SameOrders (pending.correctZeroFill result) ∧
      (pending.correctZeroFill result).hedgeLegFilled = pending.hedgeLegFilled := by
  rcases correctZeroFill_cases pending result with same | ⟨_, cleared⟩
  · rw [same]
    exact ⟨.refl pending, rfl⟩
  · rw [cleared]
    exact ⟨clearMakerFill_same pending, rfl⟩

theorem uncertain_climbs (pending : PendingEntry ℚ) (totals : EntryLeg → ℚ) :
    pending.Climbs { pending with uncertainOutcome := true } totals := by
  have same : ∀ leg, ({ pending with uncertainOutcome := true } : PendingEntry ℚ).legFilled leg =
      pending.legFilled leg := by
    intro leg
    cases leg <;> rfl
  exact ⟨⟨rfl, fun _ => rfl, rfl, rfl⟩, fun leg => (same leg).ge,
    fun leg => (same leg).le.trans (le_max_left _ _)⟩

end PendingEntry

namespace EntryBook

variable {book : EntryBook} {move : ReconcileMove}

/-- Clearing the maker counter keeps the invariant while no maker fill is settled. -/
theorem Kept.correct (kept : book.Kept) (sound : book.SoundAnswer move) :
    { book with pending := book.pending.correctZeroFill move.result }.Kept := by
  rcases PendingEntry.correctZeroFill_cases book.pending move.result with same | ⟨zero, cleared⟩
  · rw [same]
    exact kept
  · rw [cleared]
    have same := PendingEntry.clearMakerFill_same book.pending
    refine ⟨kept.makerLeg, ?_, ?_, kept.regular, kept.names, ?_⟩
    · intro leg
      cases leg with
      | maker => exact executedTotal_nonneg (kept.regular.nonneg .maker)
      | hedge => exact kept.within .hedge
    · intro leg
      cases leg with
      | maker => exact (sound.zeroFill zero).le
      | hedge => exact kept.covers .hedge
    · exact fun basis shown => kept.current basis (same.passiveOrder ▸ shown)

/-- The asked maker order is the newest one. -/
theorem Kept.asked_newest (kept : book.Kept) {index : Nat} {order : EntryOrder}
    (found : (book.orders .maker)[index]? = some order)
    (answers : order.answersTo
      (book.pending.reconciliationIdentifiers (book.pending.physicalLeg .maker))) :
    index = 0 := by
  have asked : book.pending.reconciliationIdentifiers (book.pending.physicalLeg .maker) =
      book.pending.makerOrderIdentifiers := by
    rcases kept.makerLeg with named | named <;>
      simp [PendingEntry.physicalLeg, PendingEntry.reconciliationIdentifiers, named]
  cases orders : book.orders .maker with
  | nil => simp [orders] at found
  | cons newest earlier =>
    obtain ⟨orderId, clientOrderId, named, clientNamed, distinct⟩ :=
      kept.names newest earlier orders
    have identifiers : book.pending.makerOrderIdentifiers =
        (newest.orderId, newest.clientOrderId) := by
      unfold PendingEntry.makerOrderIdentifiers
      cases book.pending.passiveOrder with
      | none => rw [named, clientNamed]
      | some passive =>
        dsimp only
        rw [named, clientNamed, PendingEntry.textOr_left _ orderId,
          PendingEntry.textOr_left _ clientOrderId]
    rw [asked, identifiers] at answers
    rw [orders] at found
    cases index with
    | zero => rfl
    | succ later =>
      have among : order ∈ earlier := List.mem_of_getElem? (by simpa using found)
      obtain ⟨other, otherClient⟩ := distinct order among
      rcases answers with ⟨_, same⟩ | ⟨_, same⟩
      · exact absurd same other
      · exact absurd same otherClient

theorem part_leg (kept : book.Kept) (move : ReconcileMove) (leg : PhysicalLeg) :
    move.part book.pending (book.pending.entryLeg leg) = move.result.leg leg := by
  rw [ReconcileMove.part, PendingEntry.physicalLeg_entryLeg kept.makerLeg]

theorem reported_fill {pending : PendingEntry ℚ} {leg : EntryLeg} {fill : LegFill}
    (found : (move.part pending leg).fill = some fill) :
    move.reported pending leg = some fill.quantity := by
  rw [ReconcileMove.reported, found]

/-- Truthful answers without other owners' exposure stay within the entry's own totals. -/
theorem SoundAnswer.bounds (sound : book.SoundAnswer move) (kept : book.Kept)
    (truthful : ∀ leg, book.TruthfulAnswer move leg)
    (reached : book.pending.reachesWriteBack move.result = true) :
    book.pending.Bounds move.result (fun leg => executedTotal (book.orders leg)) where
  fill leg fill found := by
    rw [← part_leg kept] at found
    exact ((truthful _).order _ (reported_fill found)).1.within kept.regular
  position leg position found filled := by
    rw [← part_leg kept] at found filled
    obtain ⟨least, most⟩ := sound.position reached _ position found filled
    have own := executedTotal_nonneg (kept.regular.nonneg (book.pending.entryLeg leg))
    rw [(truthful _).quantity position found, abs_abs, liveQuantity, abs_le]
    exact ⟨by linarith, by linarith⟩

theorem noteAnswer_other (book : EntryBook) (pending : PendingEntry ℚ) (move : ReconcileMove)
    {leg other : EntryLeg} (differs : other ≠ leg) :
    (book.noteAnswer pending move leg).orders other = book.orders other ∧
      (book.noteAnswer pending move leg).pending = book.pending := by
  unfold noteAnswer
  cases move.reported pending leg with
  | none => exact ⟨rfl, rfl⟩
  | some quantity => exact ⟨book.setOrders_other differs _, rfl⟩

theorem noteAnswer_pending (book : EntryBook) (pending after : PendingEntry ℚ)
    (move : ReconcileMove) (leg : EntryLeg) :
    { book.noteAnswer pending move leg with pending := after } =
      { book with pending := after }.noteAnswer pending move leg := by
  unfold noteAnswer
  cases move.reported pending leg with
  | none => rfl
  | some quantity => rfl

/-- What is answered for an order is covered by the counter. -/
def AnswerCovered (book : EntryBook) (pending : PendingEntry ℚ) (move : ReconcileMove)
    (leg : EntryLeg) : Prop :=
  ∀ quantity, move.reported pending leg = some quantity →
    ∃ order, (book.orders leg)[move.answered leg]? = some order ∧
      (leg = .maker → move.answered leg = 0) ∧
      (order.final = true → quantity = order.executed → order.reported = false →
        settledTotal (book.orders leg) + quantity ≤ book.pending.legFilled leg)

theorem Kept.noteAnswer (kept : book.Kept) {pending : PendingEntry ℚ} {leg : EntryLeg}
    (covered : book.AnswerCovered pending move leg) :
    (book.noteAnswer pending move leg).Kept := by
  unfold EntryBook.noteAnswer
  cases reported : move.reported pending leg with
  | none => exact kept
  | some quantity =>
    obtain ⟨order, found, newest, covers⟩ := covered quantity reported
    exact kept.note found newest covers

/-- The book with the answer written to the counters. -/
def written (book : EntryBook) (move : ReconcileMove) : EntryBook :=
  { book with pending := book.pending.writeBack book.pending.pendingId move.result }

theorem writeBack_reached {pending : PendingEntry ℚ} {result : EntryReconciliation}
    (reached : pending.reachesWriteBack result = true) (entryId : String) :
    pending.writeBack entryId result =
      (pending.correctZeroFill result).writeBackLegs entryId result := by
  rw [PendingEntry.reachesWriteBack, Bool.and_eq_true, Bool.not_eq_true', Bool.not_eq_true']
    at reached
  unfold PendingEntry.writeBack
  rw [reached.1, reached.2]
  rfl

/-- The counters of a written answer rise from the corrected ones within the totals. -/
theorem SoundAnswer.climbs (sound : book.SoundAnswer move) (kept : book.Kept)
    (truthful : ∀ leg, book.TruthfulAnswer move leg)
    (reached : book.pending.reachesWriteBack move.result = true) :
    (book.pending.correctZeroFill move.result).Climbs (book.written move).pending
      (fun leg => executedTotal (book.orders leg)) := by
  have corrected := PendingEntry.correctZeroFill_same book.pending move.result
  have bounds := (sound.bounds kept truthful reached).same corrected.1
  rw [written, writeBack_reached reached]
  exact (PendingEntry.writeBackLegs_climbs bounds book.pending.pendingId).2

/-- A written answer reaches its counter. -/
theorem SoundAnswer.reaches (sound : book.SoundAnswer move) (kept : book.Kept)
    (truthful : ∀ leg, book.TruthfulAnswer move leg)
    (reached : book.pending.reachesWriteBack move.result = true) {leg : EntryLeg} {quantity : ℚ}
    (reported : move.reported book.pending leg = some quantity) :
    quantity ≤ (book.written move).pending.legFilled leg := by
  have corrected := PendingEntry.correctZeroFill_same book.pending move.result
  have keptCorrected := kept.correct sound
  have bounds := (sound.bounds kept truthful reached).same corrected.1
  cases filled : (move.part book.pending leg).fill with
  | none =>
    have zero : quantity = 0 := by
      rw [ReconcileMove.reported, filled] at reported
      dsimp only at reported
      split_ifs at reported
      exact (Option.some.inj reported).symm
    have climbs := sound.climbs kept truthful reached
    exact zero.le.trans ((keptCorrected.filled_nonneg leg).trans (climbs.grows leg))
  | some fill =>
    obtain rfl : fill.quantity = quantity :=
      Option.some.inj ((reported_fill filled).symm.trans reported)
    obtain ⟨_, counts⟩ := sound.order reached leg _ reported
    have role : (book.pending.correctZeroFill move.result).entryLeg
        (book.pending.physicalLeg leg) = leg := by
      rw [PendingEntry.entryLeg_same corrected.1, PendingEntry.entryLeg_physicalLeg kept.makerLeg]
    have countsCorrected : fill.quantity ≤
          (book.pending.correctZeroFill move.result).legFilled leg ∨
        (book.pending.correctZeroFill move.result).legFilled leg + PendingEntry.writeBackDust leg <
          fill.quantity := by
      cases leg with
      | maker =>
        rw [PendingEntry.writeBackDust, add_zero]
        exact le_or_gt _ _
      | hedge =>
        change _ ≤ (book.pending.correctZeroFill move.result).hedgeLegFilled ∨
          (book.pending.correctZeroFill move.result).hedgeLegFilled + _ < _
        rw [corrected.2]
        exact counts
    have counted := PendingEntry.writeBackLegs_reaches keptCorrected.makerLeg bounds
      book.pending.pendingId keptCorrected.filled_nonneg
      (show (move.result.leg (book.pending.physicalLeg leg)).fill = some fill from filled)
    rw [role] at counted
    rw [written, writeBack_reached reached]
    exact counted countsCorrected

/-- A written answer is counted beside what was settled before. -/
theorem SoundAnswer.covered (sound : book.SoundAnswer move) (kept : book.Kept)
    (truthful : ∀ leg, book.TruthfulAnswer move leg)
    (reached : book.pending.reachesWriteBack move.result = true) (leg : EntryLeg) :
    (book.written move).AnswerCovered book.pending move leg := by
  intro quantity reported
  have climbs := sound.climbs kept truthful reached
  have reaches := sound.reaches kept truthful reached reported
  obtain ⟨⟨order, found, _, _⟩, identified⟩ := (truthful leg).order quantity reported
  obtain ⟨alone, _⟩ := sound.order reached leg quantity reported
  refine ⟨order, found, ?_, ?_⟩
  · rintro rfl
    exact kept.asked_newest found (identified order found)
  · intro final names fresh
    change settledTotal (book.orders leg) + quantity ≤ _
    -- a cleared maker counter has nothing settled to cover
    have basis : settledTotal (book.orders leg) = 0 ∨
        book.pending.legFilled leg ≤ (book.written move).pending.legFilled leg := by
      rcases PendingEntry.correctZeroFill_cases book.pending move.result with same | ⟨zero, _⟩
      · exact .inr (same ▸ climbs.grows leg)
      · cases leg with
        | maker => exact .inl (sound.zeroFill zero)
        | hedge =>
          have corrected := PendingEntry.correctZeroFill_same book.pending move.result
          exact .inr (corrected.2.ge.trans (climbs.grows .hedge))
    rcases basis with nothing | grows
    · rw [nothing, zero_add]
      exact reaches
    · exact alone.covered found grows reaches final names fresh

theorem Kept.reconcile (kept : book.Kept) (truthful : ∀ leg, book.TruthfulAnswer move leg)
    (sound : book.SoundAnswer move) : (book.step (.reconcile move)).Kept := by
  have corrected := kept.correct sound
  by_cases reached : book.pending.reachesWriteBack move.result = true
  · have written : (book.written move).Kept :=
      corrected.climb (sound.climbs kept truthful reached)
    have covered := sound.covered kept truthful reached
    have maker := written.noteAnswer (covered .maker)
    obtain ⟨orders, pending⟩ := noteAnswer_other (book.written move) book.pending move
      (show EntryLeg.hedge ≠ .maker by simp)
    have hedge := maker.noteAnswer (show AnswerCovered _ book.pending move .hedge by
      rw [AnswerCovered, orders, pending]
      exact covered .hedge)
    have step : book.step (.reconcile move) =
        ((book.written move).noteAnswer book.pending move .maker).noteAnswer book.pending move
          .hedge := by
      simp only [EntryBook.step, if_pos reached, noteAnswer_pending]
      rfl
    rw [step]
    exact hedge
  · simp only [EntryBook.step, if_neg reached, PendingEntry.writeBack]
    rw [PendingEntry.reachesWriteBack, Bool.and_eq_true, Bool.not_eq_true', Bool.not_eq_true',
      not_and, Bool.not_eq_false] at reached
    split_ifs with unavailable conflict
    · exact kept.climb (PendingEntry.uncertain_climbs book.pending _)
    · exact corrected.climb (PendingEntry.uncertain_climbs _ _)
    · exact absurd (reached (by simpa using unavailable)) conflict

theorem Kept.step (kept : book.Kept) {move : EntryMove} (admits : book.Admits move)
    (sound : book.Sound move) : (book.step move).Kept := by
  cases move with
  | execute leg index quantity => exact kept.execute admits
  | finish leg index => exact kept.finish admits
  | cycle cycle => exact kept.cycle admits
  | progress progress => exact kept.progress admits sound
  | attempt inflight orderId => exact kept.attempt inflight orderId
  | filled fill => exact kept.filled admits sound
  | status index quantity => exact kept.status admits sound
  | reconcile move => exact kept.reconcile admits sound

end EntryBook

/-- In every run of an entry whose moves meet the condition, the counters of both legs are
within the totals of the entry's own orders, and are these totals when every order's final fill
was reported. -/
theorem sound_run_totals {start book : EntryBook} (opened : start.Opened)
    (run : EntryBookRun start EntryBook.Sound book) : book.Accounted := by
  have kept : book.Kept := by
    induction run with
    | start => exact opened.kept
    | step _ move admits sound ih => exact ih.step admits sound
  exact kept.accounted

/-! ## Two entries -/

def newBook : EntryBook := { pending := PendingEntry.unfilledEntry }

theorem newBook_opened : newBook.Opened where
  makerLeg := .inl rfl
  counted leg := by cases leg <;> rfl
  regular leg order listed := nomatch listed
  names newest earlier orders := nomatch orders
  current passive shown := nomatch shown

def firstCycle : EntryMove :=
  .cycle { orderId := "m1", clientOrderId := "c1", targetQuantity := 10 }

/-- The first maker order fills 6 of 10 and is polled. -/
def polledBook : EntryBook :=
  (((newBook.step firstCycle).step (.execute .maker 0 6)).step (.finish .maker 0)).step
    (.progress { cumulativeQuantity := 6, averagePrice := 100 })

def secondCycle : EntryMove :=
  .cycle { orderId := "m2", clientOrderId := "c2", targetQuantity := 4 }

/-- The answer for the second maker order; the positions are not known. -/
def secondFill : EntryReconciliation where
  long :=
    { status := "filled"
      fill := some { side := .buy, quantity := 4, averagePrice := 100, orderId := "m2" } }

/-- The second maker order fills 4 and is reconciled. -/
def reconciledBook : EntryBook :=
  (((polledBook.step secondCycle).step (.execute .maker 0 4)).step (.finish .maker 0)).step
    (.reconcile { result := secondFill })

/-- The hedge venue shows a position before any hedge is sent. -/
def shortPosition : EntryReconciliation where
  short := { position := some { side := .sell, quantity := 5 } }

/-- Another owner is short 5 on the hedge venue. -/
def sharedBook : EntryBook :=
  polledBook.step (.reconcile
    { result := shortPosition, others := fun leg => if leg = .hedge then 5 else 0 })

theorem polledBook_run {meets : EntryBook → EntryMove → Prop}
    (free : ∀ book move, book.Sound move → meets book move) :
    EntryBookRun newBook meets polledBook := by
  have cycle := (EntryBookRun.start : EntryBookRun newBook meets newBook).step firstCycle
    ⟨by decide, by decide, fun _ listed => nomatch listed⟩ (free _ _ trivial)
  have executed := cycle.step (.execute .maker 0 6)
    ⟨by norm_num, _, rfl, rfl, by decide +kernel⟩ (free _ _ trivial)
  have finished := executed.step (.finish .maker 0) ⟨_, rfl⟩ (free _ _ trivial)
  refine finished.step (.progress { cumulativeQuantity := 6, averagePrice := 100 })
    ⟨Option.some_ne_none _, _, rfl, by norm_num, by decide +kernel⟩ (free _ _ ?_)
  intro order current
  obtain rfl := Option.some.inj current
  exact .inr (by decide +kernel)

theorem part_long {pending : PendingEntry ℚ} (named : pending.makerLeg = "long")
    (move : ReconcileMove) :
    move.part pending .maker = move.result.long ∧ move.part pending .hedge = move.result.short := by
  simp [ReconcileMove.part, PendingEntry.physicalLeg, named, EntryReconciliation.leg]

/-- A leg without an answer says nothing untrue. -/
theorem silent_truthful {book : EntryBook} {move : ReconcileMove} {leg : EntryLeg}
    (silent : move.part book.pending leg = {}) : book.TruthfulAnswer move leg := by
  refine ⟨?_, ?_, ?_, ?_⟩
  · intro quantity reported
    rw [ReconcileMove.reported, silent] at reported
    exact nomatch reported
  · intro zero
    rw [silent] at zero
    exact nomatch zero
  all_goals
    intro _ shown
    rw [silent] at shown
    exact nomatch shown

/-- An answered fill is truthful where it is the asked order's. -/
theorem fill_truthful {book : EntryBook} {move : ReconcileMove} {leg : EntryLeg} {fill : LegFill}
    (answered : move.part book.pending leg = { status := "filled", fill := some fill })
    (truthful : book.Truthful leg (move.answered leg) fill.quantity)
    (asked : ∀ order, (book.orders leg)[move.answered leg]? = some order →
      order.answersTo (book.pending.reconciliationIdentifiers (book.pending.physicalLeg leg))) :
    book.TruthfulAnswer move leg := by
  refine ⟨?_, ?_, ?_, ?_⟩
  · intro quantity reported
    rw [ReconcileMove.reported, answered] at reported
    obtain rfl := Option.some.inj reported
    exact ⟨truthful, asked⟩
  · intro zero
    rw [answered] at zero
    exact nomatch zero
  all_goals
    intro _ shown
    rw [answered] at shown
    exact nomatch shown

/-- The answer for the first maker order. -/
def firstFill : EntryReconciliation where
  long :=
    { status := "filled"
      fill := some { side := .buy, quantity := 6, averagePrice := 100, orderId := "m1" } }

/-- The first maker order fills 6 and ends, and 4 of it are polled. -/
def endedBook : { book : EntryBook // EntryBookRun newBook EntryBook.Sound book } where
  val :=
    ((((newBook.step firstCycle).step (.execute .maker 0 4)).step
      (.progress { cumulativeQuantity := 4, averagePrice := 100 })).step
      (.execute .maker 0 2)).step (.finish .maker 0)
  property := by
    have cycle := (EntryBookRun.start : EntryBookRun newBook EntryBook.Sound newBook).step firstCycle
      ⟨by decide, by decide, fun _ listed => nomatch listed⟩ trivial
    have executed := cycle.step (.execute .maker 0 4)
      ⟨by norm_num, _, rfl, rfl, by decide +kernel⟩ trivial
    have polled := executed.step (.progress { cumulativeQuantity := 4, averagePrice := 100 })
      ⟨Option.some_ne_none _, _, rfl, by norm_num, by decide +kernel⟩ (by
        intro order current
        obtain rfl := Option.some.inj current
        exact .inr (by decide +kernel))
    have filled := polled.step (.execute .maker 0 2)
      ⟨by norm_num, _, rfl, rfl, by decide +kernel⟩ trivial
    exact filled.step (.finish .maker 0) ⟨_, rfl⟩ trivial

/-- A poll and a reconciliation raise the counter to what the maker order executed. -/
theorem sound_run_totals_reconciled :
    (endedBook.val.step (.reconcile { result := firstFill })).Accounted := by
  have named : endedBook.val.pending.makerLeg = "long" := by decide +kernel
  obtain ⟨maker, hedge⟩ := part_long named { result := firstFill }
  refine sound_run_totals newBook_opened
    (endedBook.property.step (.reconcile { result := firstFill }) (fun leg => ?_) ⟨?_, ?_, ?_⟩)
  · cases leg with
    | maker =>
      refine fill_truthful maker ⟨_, rfl, by norm_num, by decide +kernel⟩ fun order found => ?_
      obtain rfl := Option.some.inj found
      exact .inl (by decide +kernel)
    | hedge => exact silent_truthful hedge
  · intro _
    decide +kernel
  · intro _ leg quantity reported
    cases leg with
    | maker =>
      rw [ReconcileMove.reported, maker] at reported
      obtain rfl := Option.some.inj reported
      exact ⟨fun _ _ _ _ => .inr (.inl (by decide +kernel)), .inr (by decide +kernel)⟩
    | hedge =>
      rw [ReconcileMove.reported, hedge] at reported
      exact nomatch reported
  · intro _ leg position shown
    cases leg with
    | maker =>
      rw [maker] at shown
      exact nomatch shown
    | hedge =>
      rw [hedge] at shown
      exact nomatch shown

theorem reconciledBook_run : EntryBookRun newBook (fun _ _ => True) reconciledBook := by
  have cycle := (polledBook_run fun _ _ _ => trivial).step secondCycle
    ⟨by decide, by decide, by decide +kernel⟩ trivial
  have executed := cycle.step (.execute .maker 0 4)
    ⟨by norm_num, _, rfl, rfl, by decide +kernel⟩ trivial
  have finished := executed.step (.finish .maker 0) ⟨_, rfl⟩ trivial
  refine finished.step (.reconcile { result := secondFill }) ?_ trivial
  have named : (((polledBook.step secondCycle).step (.execute .maker 0 4)).step
      (.finish .maker 0)).pending.makerLeg = "long" := by decide +kernel
  obtain ⟨maker, hedge⟩ := part_long named { result := secondFill }
  intro leg
  cases leg with
  | maker =>
    refine fill_truthful maker ⟨_, rfl, by norm_num, by decide +kernel⟩ fun order found => ?_
    obtain rfl := Option.some.inj found
    exact .inl (by decide +kernel)
  | hedge => exact silent_truthful hedge

theorem sharedBook_run : EntryBookRun newBook (fun _ _ => True) sharedBook := by
  let move : ReconcileMove :=
    { result := shortPosition, others := fun leg => if leg = .hedge then 5 else 0 }
  refine (polledBook_run fun _ _ _ => trivial).step (.reconcile move) ?_ trivial
  have named : polledBook.pending.makerLeg = "long" := by decide +kernel
  obtain ⟨maker, hedge⟩ := part_long named move
  intro leg
  cases leg with
  | maker => exact silent_truthful maker
  | hedge =>
    refine ⟨?_, ?_, ?_, ?_⟩
    · intro quantity reported
      rw [ReconcileMove.reported, hedge] at reported
      exact nomatch reported
    · intro zero
      rw [hedge] at zero
      exact nomatch zero
    · intro position shown
      rw [hedge] at shown
      obtain rfl := Option.some.inj shown
      decide +kernel
    · intro position shown
      rw [hedge] at shown
      obtain rfl := Option.some.inj shown
      exact ⟨fun _ => by decide +kernel, fun against => absurd against (by decide +kernel)⟩

/-- A reconciled order of a second cycle is lost behind the first cycle's fill, and another
owner's position is counted as a hedge. -/
theorem reconciliation_misses_totals :
    (EntryBookRun newBook (fun _ _ => True) reconciledBook ∧
      (∀ order ∈ reconciledBook.orders .maker, order.reported = true) ∧
      reconciledBook.pending.legFilled .maker < executedTotal (reconciledBook.orders .maker)) ∧
    (EntryBookRun newBook (fun _ _ => True) sharedBook ∧
      executedTotal (sharedBook.orders .hedge) < sharedBook.pending.legFilled .hedge) :=
  ⟨⟨reconciledBook_run, by decide +kernel, by decide +kernel⟩, sharedBook_run, by decide +kernel⟩

end LightFee.Engine
