import LightFee.Engine.HedgeAccounting

/-!
# Driving a passive close

The driver keeps one handle for the maker's order. A venue may have accepted an order whose
acknowledgement was lost, and an accepted order lives until it is filled, canceled or expired.
The moves of the driver act on the pending close; the orders that venues hold are kept beside
it, and no move of the driver reads them.

Prices, tick sizes and the limits on operations decide which move the driver takes. They are
left out, as are the looks at live positions that may stop a cycle.
-/

namespace LightFee.Engine

open LightFee.Venues

/-! ## The driver's changes -/

namespace PendingPassiveClose

/-- `_amend_maker_order` after its acknowledgement. -/
def amendMaker (pending : PendingPassiveClose) (price : ExactFloat) (ack : MakerAck)
    (nowMs : Int) : PendingPassiveClose :=
  acknowledgeCloseOrderIdentity
    { pending with
      phaseState :=
        { pending.phaseState with
          makerOrderId := ack.orderId
          makerClientOrderId := ack.clientOrderId
          makerRestingLimitPrice := some price
          makerRestingSinceMs := ack.acceptedAtMs } }
    pending.phaseState.activeMakerLeg ack.orderId
    (orText ack.clientOrderId pending.phaseState.makerClientOrderId) nowMs

/-- A cycle without a fill: the next one waits, and an exhausted phase gives way. -/
def zeroFillCycle (pending : PendingPassiveClose) (maxZeroFillCycles retryDelay nowMs : Int) :
    PendingPassiveClose :=
  let cycles := pending.phaseState.zeroFillCyclesInPhase + 1
  let counted := { pending with
    phaseState := { pending.phaseState with zeroFillCyclesInPhase := cycles } }
  if cycles < maxZeroFillCycles then
    { counted with
      phaseState :=
        { counted.phaseState with cycleAttempt := cycles + 1, cycleStartedAtMs := nowMs }
      nextRetryAtMs := nowMs + retryDelay }
  else if pending.phaseState.phase = .highSlippageMaker then counted.switchPhase nowMs
  else counted.setPhase .dualTaker

end PendingPassiveClose

/-! ## Orders at the venues -/

/-- A maker order that a venue accepted. -/
structure MakerOrder where
  leg : ActiveMakerLeg
  orderId : String
  clientOrderId : String
  quantity : ℚ
  executed : ℚ := 0
  live : Bool := true
  /-- It belongs to the phase that is worked on. -/
  current : Bool := true

/-- The handle names the order. -/
def MakerOrder.HeldBy (phase : PassivePhaseState) (order : MakerOrder) : Prop :=
  order.leg = phase.activeMakerLeg ∧
    ((phase.makerOrderId ≠ "" ∧ order.orderId = phase.makerOrderId) ∨
      (phase.makerClientOrderId ≠ "" ∧ order.clientOrderId = phase.makerClientOrderId))

/-- A passive close and the orders of its run. The hedge carries the pending close. -/
structure PassiveDrive where
  hedge : HedgeChunk
  /-- Accepted maker orders, the newest first. -/
  makers : List MakerOrder := []
  /-- What hedges of earlier phases executed on each leg. -/
  hedgedBefore : ActiveMakerLeg → ℚ := fun _ => 0

inductive DriveMove where
  /-- The driver reads the maker's fill. -/
  | cycle
  /-- An order for the whole chunk, without a handle. The venue may accept it under an order
  id. -/
  | submit (clientOrderId : String) (price : ExactFloat) (nowMs : Int) (answer : MakerAnswer)
      (accepted : Option String)
  /-- An order for the rest, when the held order is seen to be dead. -/
  | replace (clientOrderId : String) (price : ExactFloat) (nowMs : Int) (answer : MakerAnswer)
      (accepted : Option String)
  | amend (index : Nat) (price : ExactFloat) (ack : MakerAck) (nowMs : Int)
  /-- A held order is reported; a canceled, expired or rejected one may be forgotten. -/
  | report (index : Nat) (progress : MakerProgress) (nowMs : Int) (forgets : Bool)
  | hedge (call : HedgeCall)
  | zeroFill (maxZeroFillCycles retryDelay nowMs : Int)
  | advance (nowMs : Int)
  /-- Timers, small-fill counters, and other passes over the queue. -/
  | rest (after : PendingPassiveClose) (queue : List DynValue)
  /-- The venue executes more of a live order, or ends it. -/
  | venue (index : Nat) (executed : ℚ) (live : Bool)

namespace PassiveDrive

def pending (drive : PassiveDrive) : PendingPassiveClose := drive.hedge.run.pending

def withPending (drive : PassiveDrive) (after : PendingPassiveClose) : PassiveDrive :=
  { drive with hedge := { drive.hedge with run := { drive.hedge.run with pending := after } } }

/-- What hedges of the phase executed on a leg. -/
def hedgedOn (drive : PassiveDrive) (leg : ActiveMakerLeg) : ℚ :=
  if drive.pending.hedgeLeg = leg then executedQuantity drive.hedge.run.orders else 0

/-- What all orders of the run executed on a leg. -/
def executedOn (drive : PassiveDrive) (leg : ActiveMakerLeg) : ℚ :=
  (drive.makers.map (fun order => if order.leg = leg then order.executed else 0)).sum +
    drive.hedgedBefore leg + drive.hedgedOn leg

/-- The phase is left: its orders stay behind with what they executed. -/
def leave (drive : PassiveDrive) (after : PendingPassiveClose) : PassiveDrive where
  hedge :=
    { run := { pending := after, queue := drive.hedge.run.queue }
      earlier := drive.hedge.earlier ++ drive.hedge.run.orders
      before := after.fillsOn after.hedgeLeg }
  makers := drive.makers.map (fun order => { order with current := false })
  hedgedBefore leg := drive.hedgedBefore leg + drive.hedgedOn leg

/-- The name under which the venue knows an accepted order. -/
def acceptedId (clientOrderId : String) : MakerAnswer → String
  | .accepted ack => orText ack.clientOrderId clientOrderId
  | _ => clientOrderId

/-- An order is submitted, and accepted or not. -/
def place (drive : PassiveDrive) (quantity : ExactFloat) (clientOrderId : String)
    (price : ExactFloat) (nowMs : Int) (answer : MakerAnswer) (accepted : Option String) :
    PassiveDrive :=
  let leg := drive.pending.phaseState.activeMakerLeg
  let submitted := drive.withPending
    (drive.pending.submitMakerOrder leg clientOrderId price nowMs answer)
  match accepted with
  | none => submitted
  | some orderId => { submitted with
      makers :=
        { leg := leg, orderId := orderId, clientOrderId := acceptedId clientOrderId answer
          quantity := quantity.toRat } :: drive.makers }

def step [TextCase] (context : HedgeContext) (drive : PassiveDrive) : DriveMove → PassiveDrive
  | .cycle => { drive with hedge := drive.hedge.step context .cycle }
  | .submit clientOrderId price nowMs answer accepted =>
    drive.place drive.pending.currentChunkQuantity clientOrderId price nowMs answer accepted
  | .replace clientOrderId price nowMs answer accepted =>
    drive.place drive.pending.remainingChunkQuantity clientOrderId price nowMs answer accepted
  | .amend index price ack nowMs =>
    let quantity := drive.pending.remainingChunkQuantity.toRat
    { drive.withPending (drive.pending.amendMaker price ack nowMs) with
      makers := drive.makers.modify index (fun order =>
        { order with
          orderId := ack.orderId
          clientOrderId := orText ack.clientOrderId order.clientOrderId
          quantity := max order.executed quantity }) }
  | .report _ progress nowMs forgets =>
    let reported := applyMakerProgress drive.pending progress nowMs
    drive.withPending (if forgets then reported.clearMaker else reported)
  | .hedge call => { drive with hedge := drive.hedge.step context (.hedge call) }
  | .zeroFill maxZeroFillCycles retryDelay nowMs =>
    let after := drive.pending.zeroFillCycle maxZeroFillCycles retryDelay nowMs
    if drive.pending.phaseState.phase = .highSlippageMaker ∧
        after.phaseState.phase = .lowSlippageMaker then drive.leave after
    else drive.withPending after
  | .advance nowMs => drive.leave (nextChunk drive.pending.bumpChunk nowMs)
  | .rest after queue =>
    { drive with hedge := { drive.hedge with
        run := { drive.hedge.run with pending := after, queue := queue } } }
  | .venue index executed live =>
    { drive with makers := drive.makers.modify index (fun order =>
        { order with executed := executed, live := live }) }

/-- The venue accepts an order exactly when it says so; a failure may hide the acceptance. -/
def Answers (answer : MakerAnswer) (accepted : Option String) : Prop :=
  match answer with
  | .accepted ack => accepted = some ack.orderId
  | .unsupported | .rejected => accepted = none
  | .failed => True

/-- A new order has names that no other order has. -/
def Unused (orders : List MakerOrder) (orderId clientOrderId : String) : Prop :=
  ∀ order ∈ orders, (orderId ≠ "" → order.orderId ≠ orderId) ∧
    (clientOrderId ≠ "" → order.clientOrderId ≠ clientOrderId)

/-- An order may be placed under new names. -/
def Places (drive : PassiveDrive) (clientOrderId : String) (answer : MakerAnswer)
    (accepted : Option String) : Prop :=
  clientOrderId ≠ "" ∧ Answers answer accepted ∧
    ∀ orderId ∈ "" :: accepted.toList,
      Unused drive.makers orderId clientOrderId ∧
        Unused drive.makers orderId (acceptedId clientOrderId answer)

/-- States in which an order is not live any more. -/
def terminal (state : PassiveOrderState) : Bool :=
  [PassiveOrderState.filled, .canceled, .rejected, .expired].contains state

/-- A truthful report of a held order; it may be late. -/
structure Reports (drive : PassiveDrive) (index : Nat) (progress : MakerProgress)
    (forgets : Bool) : Prop where
  names : ∃ order quantity, drive.makers[index]? = some order ∧
    order.HeldBy drive.pending.phaseState ∧ progress.cumulativeQuantity = .finite quantity ∧
      quantity ≤ order.executed ∧ (terminal progress.state = true → order.live = false)
  forgets : forgets = true → terminal progress.state = true ∧ progress.state ≠ .filled

/-- Counters, fills, chunks and target stay. -/
structure KeepsAmounts (before after : PendingPassiveClose) : Prop where
  hedge : before.KeepsHedge after
  maker : before.KeepsMaker after
  targetQuantity : after.targetQuantity = before.targetQuantity

/-- Work that concerns neither orders nor fills. -/
structure Rests (before after : PendingPassiveClose) : Prop extends KeepsAmounts before after where
  makerOrderId : after.phaseState.makerOrderId = before.phaseState.makerOrderId
  makerClientOrderId : after.phaseState.makerClientOrderId = before.phaseState.makerClientOrderId

/-- What the driver and the venues can do. -/
def Admits [TextCase] (context : HedgeContext) (drive : PassiveDrive) : DriveMove → Prop
  | .cycle => True
  | .submit clientOrderId _ _ answer accepted =>
    drive.pending.phaseState.makerOrderId = "" ∧
      drive.pending.phaseState.makerClientOrderId = "" ∧
        drive.Places clientOrderId answer accepted
  | .replace clientOrderId _ _ answer accepted =>
    progressTolerance.lt drive.pending.remainingChunkQuantity = true ∧
      (∃ order ∈ drive.makers, order.HeldBy drive.pending.phaseState ∧ order.live = false) ∧
        drive.Places clientOrderId answer accepted
  | .amend index _ ack _ =>
    progressTolerance.lt drive.pending.remainingChunkQuantity = true ∧ ack.orderId ≠ "" ∧
      ∃ order, drive.makers[index]? = some order ∧ order.HeldBy drive.pending.phaseState ∧
        order.live = true ∧
          Unused (drive.makers.eraseIdx index) ack.orderId ack.clientOrderId
  | .report index progress _ forgets => drive.Reports index progress forgets
  | .hedge call => drive.hedge.Admits context (.hedge call)
  | .zeroFill _ _ _ => True
  | .advance _ =>
    drive.pending.currentChunkQuantity.le
        (drive.pending.makerFill.quantity.add progressTolerance) = true ∧
      drive.pending.makerFill.quantity.le
        (drive.pending.hedgeFill.quantity.add progressTolerance) = true ∧
      drive.pending.bumpChunk.completed = false
  | .rest after _ => Rests drive.pending after
  | .venue index executed _ => ∃ order, drive.makers[index]? = some order ∧
      order.live = true ∧ order.executed ≤ executed ∧ executed ≤ order.quantity

/-! ## The claim -/

/-- The live order, if there is one, is the one that the handle names. -/
structure HoldsOrder (drive : PassiveDrive) : Prop where
  single : (drive.makers.filter MakerOrder.live).length ≤ 1
  held : ∀ order ∈ drive.makers, order.live = true → order.HeldBy drive.pending.phaseState

/-- No leg is closed beyond the target. -/
def WithinTarget (drive : PassiveDrive) : Prop :=
  ∀ leg, (ExactFloat.finite (drive.executedOn leg)).le
    (drive.pending.targetQuantity.add progressTolerance) = true

end PassiveDrive

/-- The states that a passive close reaches by moves that meet a condition, until it falls
back to takers on both legs. -/
inductive DriveRun [TextCase] (context : HedgeContext) (start : PassiveDrive)
    (meets : PassiveDrive → DriveMove → Prop) : PassiveDrive → Prop where
  | start : DriveRun context start meets start
  | step {drive : PassiveDrive} (run : DriveRun context start meets drive) (move : DriveMove)
      (passive : drive.pending.phaseState.phase ≠ .dualTaker)
      (admits : drive.Admits context move) (sound : meets drive move) :
      DriveRun context start meets (drive.step context move)

end LightFee.Engine
