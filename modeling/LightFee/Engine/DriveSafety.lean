import LightFee.Engine.CloseExecutor
import LightFee.Engine.PassiveDrive

/-!
# Live orders and executed quantities of a passive close

While only the newest order can be live and the handle names it, no live order is lost. What
the orders of a phase can still execute fits into the chunk, and the hedge stays behind the
maker, so no leg is closed beyond the target.
-/

namespace LightFee.Engine

open LightFee.Venues

/-! ## What a hedge leaves alone -/

/-- Handle, chunks and target. -/
structure PendingPassiveClose.SameFrame (before after : PendingPassiveClose) : Prop where
  phaseState : after.phaseState = before.phaseState
  chunkQuantities : after.chunkQuantities = before.chunkQuantities
  activeChunkIndex : after.activeChunkIndex = before.activeChunkIndex
  targetQuantity : after.targetQuantity = before.targetQuantity

namespace PendingPassiveClose

theorem SameFrame.refl (pending : PendingPassiveClose) : pending.SameFrame pending :=
  ⟨rfl, rfl, rfl, rfl⟩

theorem SameFrame.trans {first second third : PendingPassiveClose}
    (left : first.SameFrame second) (right : second.SameFrame third) : first.SameFrame third :=
  ⟨right.phaseState.trans left.phaseState, right.chunkQuantities.trans left.chunkQuantities,
    right.activeChunkIndex.trans left.activeChunkIndex,
    right.targetQuantity.trans left.targetQuantity⟩

theorem sameFrame_setLegs (pending : PendingPassiveClose) (side : ActiveMakerLeg)
    (legs : List PersistedCloseExecutionLeg) : pending.SameFrame (pending.setLegs side legs) := by
  cases side <;> exact ⟨rfl, rfl, rfl, rfl⟩

theorem sameFrame_acknowledge (pending : PendingPassiveClose) (side : ActiveMakerLeg)
    (orderId clientOrderId : String) (nowMs : Int) :
    pending.SameFrame
      (acknowledgeCloseOrderIdentity pending side orderId clientOrderId nowMs) := by
  rw [acknowledgeCloseOrderIdentity]
  split_ifs
  · exact sameFrame_setLegs pending side _
  · exact .refl pending

/-- The intent of a hedge does not touch the maker's handle. -/
theorem sameFrame_claim (pending : PendingPassiveClose) (side : ActiveMakerLeg)
    (clientOrderId : String) {operation : String} (nowMs : Int)
    (other : operation ≠ "submit_passive_order") :
    pending.SameFrame (claimCloseOrderIntent pending side clientOrderId operation nowMs) := by
  unfold claimCloseOrderIntent
  extract_lets legs claimed
  rw [if_neg other]
  change pending.SameFrame (if _ then _ else _)
  split_ifs
  · exact .refl pending
  · exact sameFrame_setLegs pending side _

theorem sameFrame_record (pending : PendingPassiveClose) (fill : OrderFill) (hedgeCid : String)
    (submittedAtMs : Int) :
    pending.SameFrame (pending.recordHedgeFill fill hedgeCid submittedAtMs) := by
  rw [recordHedgeFill]
  cases pending.hedgeLeg <;> exact ⟨rfl, rfl, rfl, rfl⟩

end PendingPassiveClose

section Frame

variable (context : HedgeContext) (call : HedgeCall) (run : HedgeRun)

namespace HedgeRun

theorem place_pending (venue : Venue) (clientOrderId : String) (executed : Option ℚ) :
    (run.place venue clientOrderId executed).pending = run.pending := by
  cases executed <;> rfl

end HedgeRun

theorem HedgeRun.claim_frame (clientOrderId : String) {operation : String} (nowMs : Int)
    (other : operation ≠ "submit_passive_order") :
    run.pending.SameFrame (run.claim clientOrderId operation nowMs).pending :=
  run.pending.sameFrame_claim _ clientOrderId nowMs other

theorem retryHedge_frame (found : DuplicateReconcile) :
    run.pending.SameFrame (retryHedge context call found run).2.pending := by
  unfold retryHedge
  extract_lets placed
  have sent : run.pending.SameFrame placed.pending := by
    rw [HedgeRun.place_pending]
    exact run.claim_frame _ _ (by decide)
  split
  · exact sent
  · extract_lets acknowledged own counted
    have after : run.pending.SameFrame acknowledged.pending :=
      sent.trans (placed.pending.sameFrame_acknowledge placed.pending.hedgeLeg _ _ _)
    change run.pending.SameFrame (if _ then _ else _ : HedgeRun).pending
    split_ifs
    · exact after.trans (PendingPassiveClose.sameFrame_record _ _ _ _)
    · exact after

theorem afterDuplicateHedge_frame (normalized : ExactFloat) :
    run.pending.SameFrame (afterDuplicateHedge context normalized call run).2.pending := by
  unfold afterDuplicateHedge
  extract_lets hedgeCid reconciled found counted
  have after : run.pending.SameFrame counted.pending := by
    change run.pending.SameFrame (if _ then _ else _ : HedgeRun).pending
    split_ifs
    · exact PendingPassiveClose.sameFrame_record _ _ _ _
    · exact .refl _
  split_ifs
  · exact after
  · exact after.trans (retryHedge_frame context call counted found)
  · exact after

theorem afterHedgeError_frame [TextCase] (error : HedgeError) :
    run.pending.SameFrame (afterHedgeError context call error run).2.pending := by
  unfold afterHedgeError
  extract_lets hedgeCid accepted
  split
  · exact PendingPassiveClose.sameFrame_record _ _ _ _
  · split_ifs
    · change run.pending.SameFrame (run.registerTruthGap context _ accepted call.nowMs).pending
      rw [HedgeRun.registerTruthGap]
      split_ifs
      · exact PendingPassiveClose.sameFrame_acknowledge _ _ _ _ _
      · exact .refl _
    · exact .refl _

theorem afterHedgeAck_frame (fill : OrderFill) :
    run.pending.SameFrame (afterHedgeAck context call fill run).2.pending := by
  unfold afterHedgeAck
  extract_lets hedgeCid venue named filledQty acknowledged asks residual success partly counted
  have after : run.pending.SameFrame acknowledged.pending :=
    PendingPassiveClose.sameFrame_acknowledge _ _ _ _ _
  split
  · exact after.trans (PendingPassiveClose.sameFrame_record _ _ _ _)
  · change run.pending.SameFrame (if _ then _ else _ : HedgeRun).pending
    split_ifs
    · exact after.trans (PendingPassiveClose.sameFrame_record _ _ _ _)
    · exact after

/-- No path of a hedge touches the maker's handle, the chunks or the target. -/
theorem submitHedgeForDelta_frame [TextCase] :
    run.pending.SameFrame (submitHedgeForDelta context call run).2.pending := by
  unfold submitHedgeForDelta
  split_ifs
  · exact .refl _
  · split
    · exact .refl _
    · next normalized known =>
      split_ifs
      · exact .refl _
      · split
        · exact .refl _
        · split
          · next gap found =>
            unfold resolveTruthGap
            extract_lets pending hedgeCid named accepted
            split
            · exact PendingPassiveClose.sameFrame_record _ _ _ _
            · exact .refl _
          · unfold sendHedge
            extract_lets hedgeCid venue sent
            have placed : run.pending.SameFrame sent.pending := by
              rw [HedgeRun.place_pending]
              exact run.claim_frame _ _ (by decide)
            split
            · exact placed.trans (afterHedgeAck_frame context call sent _)
            · split_ifs
              · exact placed.trans (afterDuplicateHedge_frame context call sent _)
              · exact placed.trans (afterHedgeError_frame context call sent _)

end Frame

/-! ## What the maker's moves leave alone -/

namespace PassiveDrive

theorem KeepsAmounts.trans {first second third : PendingPassiveClose}
    (left : KeepsAmounts first second) (right : KeepsAmounts second third) :
    KeepsAmounts first third where
  hedge := {
    hedgeFill := right.hedge.hedgeFill.trans left.hedge.hedgeFill
    activeMakerLeg := right.hedge.activeMakerLeg.trans left.hedge.activeMakerLeg
    chunkQuantities := right.hedge.chunkQuantities.trans left.hedge.chunkQuantities
    activeChunkIndex := right.hedge.activeChunkIndex.trans left.hedge.activeChunkIndex
    shortStage := right.hedge.shortStage.trans left.hedge.shortStage
    longStage := right.hedge.longStage.trans left.hedge.longStage
    fills := by
      have later := right.hedge.fills
      rw [left.hedge.same.leg] at later
      exact later.trans left.hedge.fills
    maker := fun {filled} known => by
      obtain ⟨more, second, raises⟩ := left.hedge.maker known
      obtain ⟨most, third, further⟩ := right.hedge.maker second
      exact ⟨most, third, raises.trans further⟩ }
  maker := left.maker.trans right.maker
  targetQuantity := right.targetQuantity.trans left.targetQuantity

/-- A change of the phase state and of the timer, on the same leg. -/
theorem keepsAmounts_phase (pending : PendingPassiveClose) (phase : PassivePhaseState)
    (nextRetryAtMs : Int) (leg : phase.activeMakerLeg = pending.phaseState.activeMakerLeg) :
    KeepsAmounts pending
      { pending with phaseState := phase, nextRetryAtMs := nextRetryAtMs } where
  hedge := ⟨rfl, leg, rfl, rfl, rfl, rfl, rfl,
    fun {filled} known => ⟨filled, known, le_refl filled⟩⟩
  maker := ⟨rfl, leg, rfl, rfl, rfl⟩
  targetQuantity := rfl

theorem keepsAmounts_claim (pending : PendingPassiveClose) (side : ActiveMakerLeg)
    (clientOrderId operation : String) (nowMs : Int) :
    KeepsAmounts pending (claimCloseOrderIntent pending side clientOrderId operation nowMs) where
  hedge := pending.keepsHedge_claim side clientOrderId operation nowMs
  maker := pending.keepsMaker_claim side clientOrderId operation nowMs
  targetQuantity := by
    unfold claimCloseOrderIntent
    extract_lets legs claimed
    have kept : claimed.targetQuantity = pending.targetQuantity := by
      change (if _ then _ else _ : PendingPassiveClose).targetQuantity = _
      split_ifs
      · rfl
      · cases side <;> rfl
    split_ifs <;> exact kept

theorem keepsAmounts_acknowledge (pending : PendingPassiveClose) (side : ActiveMakerLeg)
    (orderId clientOrderId : String) (nowMs : Int) :
    KeepsAmounts pending
      (acknowledgeCloseOrderIdentity pending side orderId clientOrderId nowMs) where
  hedge := pending.keepsHedge_acknowledge side orderId clientOrderId nowMs
  maker := pending.keepsMaker_acknowledge side orderId clientOrderId nowMs
  targetQuantity :=
    (pending.sameFrame_acknowledge side orderId clientOrderId nowMs).targetQuantity

/-- The claim of a maker's order names it by its client order id. -/
theorem claimMaker_phaseState (pending : PendingPassiveClose) (side : ActiveMakerLeg)
    (clientOrderId : String) (nowMs : Int) :
    (pending.claimMaker side clientOrderId nowMs).phaseState =
      { pending.phaseState with
        missingL2TickConsecutiveCount := 0
        makerSubmitAttempt := pending.phaseState.makerSubmitAttempt + 1
        makerClientOrderId := clientOrderId } := by
  rw [PendingPassiveClose.claimMaker]
  unfold claimCloseOrderIntent
  extract_lets legs claimed
  rw [if_pos rfl]
  have kept : claimed.phaseState =
      { pending.phaseState with
        missingL2TickConsecutiveCount := 0
        makerSubmitAttempt := pending.phaseState.makerSubmitAttempt + 1 } := by
    change (if _ then _ else _ : PendingPassiveClose).phaseState = _
    split_ifs
    · rfl
    · cases side <;> rfl
  change { claimed.phaseState with makerClientOrderId := clientOrderId } = _
  rw [kept]

theorem keepsAmounts_submit (pending : PendingPassiveClose) (side : ActiveMakerLeg)
    (clientOrderId : String) (price : ExactFloat) (nowMs : Int) (answer : MakerAnswer) :
    KeepsAmounts pending (pending.submitMakerOrder side clientOrderId price nowMs answer) := by
  have claimed : KeepsAmounts pending (pending.claimMaker side clientOrderId nowMs) := by
    rw [PendingPassiveClose.claimMaker]
    refine KeepsAmounts.trans ?_ (keepsAmounts_claim _ side clientOrderId _ nowMs)
    exact keepsAmounts_phase pending _ pending.nextRetryAtMs rfl
  apply claimed.trans
  cases answer with
  | accepted ack =>
    refine KeepsAmounts.trans ?_ (keepsAmounts_acknowledge _ side _ _ nowMs)
    exact keepsAmounts_phase _ _ (pending.claimMaker side clientOrderId nowMs).nextRetryAtMs rfl
  | unsupported => exact keepsAmounts_phase _ _ _ rfl
  | rejected => exact keepsAmounts_phase _ _ _ rfl
  | failed =>
    change KeepsAmounts _ (PendingPassiveClose.countMakerFailure _ nowMs)
    rw [PendingPassiveClose.countMakerFailure]
    split_ifs <;> exact keepsAmounts_phase _ _ _ rfl

/-- The handle after an accepted order. -/
theorem submit_accepted (pending : PendingPassiveClose) (side : ActiveMakerLeg)
    (clientOrderId : String) (price : ExactFloat) (nowMs : Int) (ack : MakerAck) :
    let phase := (pending.submitMakerOrder side clientOrderId price nowMs
      (.accepted ack)).phaseState
    phase.makerOrderId = ack.orderId ∧
      phase.makerClientOrderId = orText ack.clientOrderId clientOrderId := by
  change let phase := (acknowledgeCloseOrderIdentity _ side _ _ nowMs).phaseState
    phase.makerOrderId = _ ∧ phase.makerClientOrderId = _
  rw [(PendingPassiveClose.sameFrame_acknowledge _ _ _ _ _).phaseState]
  exact ⟨rfl, rfl⟩

/-- The handle after an order that was not acknowledged. -/
theorem submit_unacknowledged (pending : PendingPassiveClose) (side : ActiveMakerLeg)
    (clientOrderId : String) (price : ExactFloat) (nowMs : Int) {answer : MakerAnswer}
    (unacknowledged : ∀ ack, answer ≠ .accepted ack) :
    let phase := (pending.submitMakerOrder side clientOrderId price nowMs answer).phaseState
    phase.makerOrderId = pending.phaseState.makerOrderId ∧
      phase.makerClientOrderId = clientOrderId := by
  have claimed := claimMaker_phaseState pending side clientOrderId nowMs
  have orderId := congrArg PassivePhaseState.makerOrderId claimed
  have named := congrArg PassivePhaseState.makerClientOrderId claimed
  cases answer with
  | accepted ack => exact absurd rfl (unacknowledged ack)
  | unsupported => exact ⟨orderId, named⟩
  | rejected => exact ⟨orderId, named⟩
  | failed =>
    change let phase := (PendingPassiveClose.countMakerFailure _ nowMs).phaseState
      phase.makerOrderId = _ ∧ phase.makerClientOrderId = _
    rw [PendingPassiveClose.countMakerFailure]
    split_ifs <;> exact ⟨orderId, named⟩

theorem keepsAmounts_amend (pending : PendingPassiveClose) (price : ExactFloat) (ack : MakerAck)
    (nowMs : Int) : KeepsAmounts pending (pending.amendMaker price ack nowMs) := by
  rw [PendingPassiveClose.amendMaker]
  refine KeepsAmounts.trans ?_ (keepsAmounts_acknowledge _ _ _ _ _)
  exact keepsAmounts_phase pending _ pending.nextRetryAtMs rfl

theorem amend_handle (pending : PendingPassiveClose) (price : ExactFloat) (ack : MakerAck)
    (nowMs : Int) :
    let phase := (pending.amendMaker price ack nowMs).phaseState
    phase.makerOrderId = ack.orderId ∧ phase.makerClientOrderId = ack.clientOrderId := by
  change let phase := (acknowledgeCloseOrderIdentity _ _ _ _ nowMs).phaseState
    phase.makerOrderId = _ ∧ phase.makerClientOrderId = _
  rw [(PendingPassiveClose.sameFrame_acknowledge _ _ _ _ _).phaseState]
  exact ⟨rfl, rfl⟩

theorem keepsAmounts_clear (pending : PendingPassiveClose) :
    KeepsAmounts pending pending.clearMaker := keepsAmounts_phase pending _ _ rfl

end PassiveDrive

namespace PassiveDrive

/-! ## The condition -/

/-- What the maker orders of the phase executed. -/
def currentExecuted (orders : List MakerOrder) : ℚ :=
  (orders.map (fun order => if order.current then order.executed else 0)).sum

/-- The counter knows what the maker orders of the phase executed. -/
def Counted (drive : PassiveDrive) : Prop :=
  (ExactFloat.finite (currentExecuted drive.makers)).le drive.pending.makerFill.quantity = true

/-- No order is live when the handle is given up, a phase is left only when it executed
nothing, an order for the whole chunk is placed only when none of its orders executed
anything, and one for the rest only when everything executed was counted. A replacement that
fails was not accepted, and the hedge asks for what it lacks. -/
def Sound [TextCase] (context : HedgeContext) (drive : PassiveDrive) : DriveMove → Prop
  | .cycle | .report _ _ _ _ | .rest _ _ | .venue _ _ _ => True
  | .submit _ _ _ _ _ => ∀ order ∈ drive.makers, order.current = true → order.executed = 0
  | .replace _ _ _ answer accepted =>
    drive.Counted ∧ (accepted.isSome = true → ∃ ack, answer = .accepted ack)
  | .amend _ _ _ _ => drive.Counted
  | .hedge call => drive.hedge.SoundCall context call ∧
      call.delta = drive.pending.makerFill.quantity.sub drive.pending.hedgeFill.quantity
  | .zeroFill maxZeroFillCycles _ _ =>
    drive.pending.phaseState.phase = .highSlippageMaker →
      maxZeroFillCycles ≤ drive.pending.phaseState.zeroFillCyclesInPhase + 1 →
        (∀ order ∈ drive.makers, order.live = false ∧
          (order.current = true → order.executed = 0)) ∧
        ∀ order ∈ drive.hedge.run.orders, order.executed = 0
  | .advance _ => ∀ order ∈ drive.makers, order.live = false

/-! ## The handle -/

/-- Only the newest order can be live, and then the handle names no other one. -/
def OnlyNewest (phase : PassivePhaseState) : List MakerOrder → Prop
  | [] => True
  | newest :: older => (∀ order ∈ older, order.live = false) ∧
      (newest.live = true → newest.HeldBy phase ∧ ∀ order ∈ older, ¬ order.HeldBy phase)

/-- The handle names orders of the phase, which are on the maker's leg. -/
structure HandleKept (phase : PassivePhaseState) (orders : List MakerOrder) : Prop where
  newest : OnlyNewest phase orders
  current : ∀ order ∈ orders, order.HeldBy phase → order.current = true
  legs : ∀ order ∈ orders, order.current = true → order.leg = phase.activeMakerLeg

theorem heldBy_congr {before after : PassivePhaseState}
    (leg : after.activeMakerLeg = before.activeMakerLeg)
    (orderId : after.makerOrderId = before.makerOrderId)
    (clientOrderId : after.makerClientOrderId = before.makerClientOrderId) (order : MakerOrder) :
    order.HeldBy after ↔ order.HeldBy before := by
  rw [MakerOrder.HeldBy, MakerOrder.HeldBy, leg, orderId, clientOrderId]

theorem HandleKept.congr {before after : PassivePhaseState} {orders : List MakerOrder}
    (kept : HandleKept before orders)
    (leg : after.activeMakerLeg = before.activeMakerLeg)
    (orderId : after.makerOrderId = before.makerOrderId)
    (clientOrderId : after.makerClientOrderId = before.makerClientOrderId) :
    HandleKept after orders where
  newest := by
    have newest := kept.newest
    cases orders with
    | nil => trivial
    | cons first older =>
      refine ⟨newest.1, fun live => ?_⟩
      simp only [heldBy_congr leg orderId clientOrderId]
      exact newest.2 live
  current := by
    intro order member held
    exact kept.current order member ((heldBy_congr leg orderId clientOrderId order).mp held)
  legs := by
    rw [leg]
    exact kept.legs

theorem OnlyNewest.of_dead {phase : PassivePhaseState} {orders : List MakerOrder}
    (dead : ∀ order ∈ orders, order.live = false) : OnlyNewest phase orders := by
  cases orders with
  | nil => trivial
  | cons first older =>
    refine ⟨fun order member => dead order (List.mem_cons_of_mem _ member), fun live => ?_⟩
    rw [dead first List.mem_cons_self] at live
    cases live

/-- A dead held order shows that no order is live. -/
theorem OnlyNewest.dead {phase : PassivePhaseState} {orders : List MakerOrder}
    (newest : OnlyNewest phase orders) {order : MakerOrder} (member : order ∈ orders)
    (held : order.HeldBy phase) (ended : order.live = false) :
    ∀ other ∈ orders, other.live = false := by
  cases orders with
  | nil => exact fun other among => absurd among List.not_mem_nil
  | cons first older =>
    have firstDead : first.live = false := by
      rw [← Bool.not_eq_true]
      intro live
      rcases List.mem_cons.mp member with same | later
      · rw [same, live] at ended
        cases ended
      · exact (newest.2 live).2 order later held
    intro other among
    rcases List.mem_cons.mp among with rfl | later
    · exact firstDead
    · exact newest.1 other later

/-- Without a handle no order is live. -/
theorem OnlyNewest.none {phase : PassivePhaseState} {orders : List MakerOrder}
    (newest : OnlyNewest phase orders) (orderId : phase.makerOrderId = "")
    (clientOrderId : phase.makerClientOrderId = "") :
    ∀ order ∈ orders, order.live = false := by
  cases orders with
  | nil => exact fun other among => absurd among List.not_mem_nil
  | cons first older =>
    intro other among
    rcases List.mem_cons.mp among with rfl | later
    · rw [← Bool.not_eq_true]
      intro live
      rcases (newest.2 live).1.2 with ⟨named, -⟩ | ⟨named, -⟩
      · exact named orderId
      · exact named clientOrderId
    · exact newest.1 other later

/-- A live order is the newest one. -/
theorem OnlyNewest.index {phase : PassivePhaseState} {orders : List MakerOrder}
    (newest : OnlyNewest phase orders) {index : Nat} {order : MakerOrder}
    (found : orders[index]? = some order) (live : order.live = true) :
    index = 0 ∧ ∃ older, orders = order :: older := by
  cases orders with
  | nil => cases found
  | cons first older =>
    cases index with
    | zero => exact ⟨rfl, older, by rw [Option.some.inj found]⟩
    | succ index =>
      rw [newest.1 order (List.mem_of_getElem? found)] at live
      cases live

/-- The claim about the handle. -/
theorem HandleKept.holds {drive : PassiveDrive}
    (kept : HandleKept drive.pending.phaseState drive.makers) : drive.HoldsOrder := by
  have newest := kept.newest
  cases orders : drive.makers with
  | nil =>
    constructor
    · rw [orders]
      exact Nat.zero_le 1
    · rw [orders]
      exact fun order member => absurd member List.not_mem_nil
  | cons first older =>
    rw [orders] at newest
    constructor
    · have noOlder : older.filter MakerOrder.live = [] := by
        rw [List.filter_eq_nil_iff]
        intro order member live
        rw [newest.1 order member] at live
        cases live
      rw [orders, List.filter_cons, noOlder]
      split_ifs <;> simp
    · rw [orders]
      intro order member live
      rcases List.mem_cons.mp member with rfl | later
      · exact (newest.2 live).1
      · rw [newest.1 order later] at live
        cases live

end PassiveDrive

namespace PassiveDrive

/-! ## The handle under the moves -/

/-- A new order is the only live one, and the handle names it alone. -/
theorem HandleKept.cons {before after : PassivePhaseState} {orders : List MakerOrder}
    {order : MakerOrder} (kept : HandleKept before orders)
    (leg : after.activeMakerLeg = before.activeMakerLeg)
    (dead : ∀ other ∈ orders, other.live = false) (named : order.HeldBy after)
    (others : ∀ other ∈ orders, ¬ other.HeldBy after) (current : order.current = true) :
    HandleKept after (order :: orders) where
  newest := ⟨dead, fun _ => ⟨named, others⟩⟩
  current := by
    intro other member held
    rcases List.mem_cons.mp member with rfl | older
    · exact current
    · exact absurd held (others other older)
  legs := by
    intro other member among
    rcases List.mem_cons.mp member with rfl | older
    · exact named.1
    · rw [leg]
      exact kept.legs other older among

/-- An order is placed when no other one is live. -/
theorem HandleKept.place {drive : PassiveDrive} {clientOrderId : String} {answer : MakerAnswer}
    {accepted : Option String} (kept : HandleKept drive.pending.phaseState drive.makers)
    (dead : ∀ order ∈ drive.makers, order.live = false)
    (places : drive.Places clientOrderId answer accepted)
    (sure : drive.pending.phaseState.makerOrderId = "" ∨
      (accepted.isSome = true → ∃ ack, answer = .accepted ack))
    (quantity price : ExactFloat) (nowMs : Int) :
    let after := drive.place quantity clientOrderId price nowMs answer accepted
    HandleKept after.pending.phaseState after.makers := by
  intro after
  obtain ⟨named, answers, unused⟩ := places
  have phase : after.pending.phaseState = (drive.pending.submitMakerOrder
      drive.pending.phaseState.activeMakerLeg clientOrderId price nowMs answer).phaseState := by
    cases accepted <;> rfl
  have leg : after.pending.phaseState.activeMakerLeg =
      drive.pending.phaseState.activeMakerLeg := by
    rw [phase]
    exact (keepsAmounts_submit _ _ _ _ _ _).maker.activeMakerLeg
  by_cases acknowledged : ∃ ack, answer = .accepted ack
  · obtain ⟨ack, rfl⟩ := acknowledged
    obtain rfl : accepted = some ack.orderId := answers
    obtain ⟨orderId, heldId⟩ := submit_accepted drive.pending
      drive.pending.phaseState.activeMakerLeg clientOrderId price nowMs ack
    rw [← phase] at orderId heldId
    have unused := (unused ack.orderId (by simp)).2
    apply kept.cons leg dead
    · refine ⟨leg.symm, .inr ⟨?_, heldId.symm⟩⟩
      rw [heldId, orText]
      split_ifs with empty
      · exact named
      · exact empty
    · rintro other member ⟨-, ⟨given, same⟩ | ⟨given, same⟩⟩
      · rw [orderId] at given same
        exact (unused other member).1 given same
      · rw [heldId] at given same
        exact (unused other member).2 given same
    · rfl
  · obtain ⟨orderId, heldId⟩ := submit_unacknowledged drive.pending
      drive.pending.phaseState.activeMakerLeg clientOrderId price nowMs
      (fun ack same => acknowledged ⟨ack, same⟩)
    rw [← phase] at orderId heldId
    have unnamed : acceptedId clientOrderId answer = clientOrderId := by
      cases answer with
      | accepted ack => exact absurd ⟨ack, rfl⟩ acknowledged
      | unsupported | rejected | failed => rfl
    have fresh (other : MakerOrder) (member : other ∈ drive.makers) :
        other.clientOrderId ≠ clientOrderId :=
      ((unused "" (by simp)).1 other member).2 named
    cases accepted with
    | none =>
      refine ⟨.of_dead dead, ?_, by rw [leg]; exact kept.legs⟩
      rintro other member ⟨side, ⟨given, same⟩ | ⟨given, same⟩⟩
      · rw [orderId] at given same
        rw [leg] at side
        exact kept.current other member ⟨side, .inl ⟨given, same⟩⟩
      · rw [heldId] at same
        exact absurd same (fresh other member)
    | some id =>
      have empty : drive.pending.phaseState.makerOrderId = "" :=
        sure.resolve_right (fun only => acknowledged (only rfl))
      apply kept.cons leg dead
      · refine ⟨leg.symm, .inr ⟨?_, ?_⟩⟩
        · rw [heldId]
          exact named
        · rw [heldId]
          exact unnamed
      · rintro other member ⟨-, ⟨given, same⟩ | ⟨given, same⟩⟩
        · rw [orderId] at given
          exact given empty
        · rw [heldId] at same
          exact fresh other member same
      · rfl

/-- Without live orders an empty handle is right. -/
theorem HandleKept.empty {before after : PassivePhaseState} {orders : List MakerOrder}
    (kept : HandleKept before orders)
    (leg : after.activeMakerLeg = before.activeMakerLeg)
    (dead : ∀ order ∈ orders, order.live = false) (orderId : after.makerOrderId = "")
    (clientOrderId : after.makerClientOrderId = "") : HandleKept after orders where
  newest := .of_dead dead
  current := by
    rintro order - ⟨-, ⟨given, -⟩ | ⟨given, -⟩⟩
    · exact absurd orderId given
    · exact absurd clientOrderId given
  legs := by
    rw [leg]
    exact kept.legs

/-- A phase is left without live orders. -/
theorem HandleKept.leave {drive : PassiveDrive} {after : PendingPassiveClose}
    (dead : ∀ order ∈ drive.makers, order.live = false)
    (orderId : after.phaseState.makerOrderId = "")
    (clientOrderId : after.phaseState.makerClientOrderId = "") :
    HandleKept (drive.leave after).pending.phaseState (drive.leave after).makers where
  newest := by
    apply OnlyNewest.of_dead
    intro order member
    obtain ⟨earlier, among, rfl⟩ := List.mem_map.mp member
    exact dead earlier among
  current := by
    rintro order - ⟨-, ⟨given, -⟩ | ⟨given, -⟩⟩
    · exact absurd orderId given
    · exact absurd clientOrderId given
  legs := by
    intro order member among
    obtain ⟨earlier, -, rfl⟩ := List.mem_map.mp member
    cases among

/-- An amended order is named by its new ids. -/
theorem HandleKept.amend {before after : PassivePhaseState} {order amended : MakerOrder}
    {older : List MakerOrder} (kept : HandleKept before (order :: older))
    (leg : after.activeMakerLeg = before.activeMakerLeg) (held : order.HeldBy before)
    (named : after.makerOrderId ≠ "") (orderId : amended.orderId = after.makerOrderId)
    (same : amended.leg = order.leg ∧ amended.current = order.current)
    (unused : Unused older after.makerOrderId after.makerClientOrderId) :
    HandleKept after (amended :: older) := by
  have former : HandleKept before older := {
    newest := .of_dead kept.newest.1
    current := fun other member => kept.current other (List.mem_cons_of_mem _ member)
    legs := fun other member => kept.legs other (List.mem_cons_of_mem _ member) }
  apply former.cons leg kept.newest.1
  · refine ⟨?_, .inl ⟨named, orderId⟩⟩
    rw [same.1, leg]
    exact held.1
  · rintro other member ⟨-, ⟨given, equal⟩ | ⟨given, equal⟩⟩
    · exact (unused other member).1 given equal
    · exact (unused other member).2 given equal
  · rw [same.2]
    exact kept.current order List.mem_cons_self held

/-- A venue works on the live order only. -/
theorem HandleKept.venue {phase : PassivePhaseState} {order worked : MakerOrder}
    {older : List MakerOrder} (kept : HandleKept phase (order :: older))
    (live : order.live = true)
    (same : ∀ phase, worked.HeldBy phase ↔ order.HeldBy phase)
    (fields : worked.leg = order.leg ∧ worked.current = order.current) :
    HandleKept phase (worked :: older) where
  newest := by
    obtain ⟨dead, named⟩ := kept.newest
    refine ⟨dead, fun _ => ?_⟩
    rw [same]
    exact named live
  current := by
    intro other member held
    rcases List.mem_cons.mp member with rfl | later
    · rw [fields.2]
      exact kept.current order List.mem_cons_self ((same phase).mp held)
    · exact kept.current other (List.mem_cons_of_mem _ later) held
  legs := by
    intro other member among
    rcases List.mem_cons.mp member with rfl | later
    · rw [fields.1]
      rw [fields.2] at among
      exact kept.legs order List.mem_cons_self among
    · exact kept.legs other (List.mem_cons_of_mem _ later) among

end PassiveDrive

/-- What an order executes at most. -/
def MakerOrder.potential (order : MakerOrder) : ℚ :=
  if order.live then order.quantity else order.executed

namespace PassiveDrive

/-! ## Quantities -/

/-- What the maker orders of the phase execute at most. -/
def currentPotential (orders : List MakerOrder) : ℚ :=
  (orders.map (fun order => if order.current then order.potential else 0)).sum

/-- What maker orders of earlier phases executed on a leg. -/
def doneExecuted (orders : List MakerOrder) (leg : ActiveMakerLeg) : ℚ :=
  (orders.map (fun order =>
    if order.current = false ∧ order.leg = leg then order.executed else 0)).sum

/-- Amounts of the phase: the counter does not run ahead of the orders, the hedge does not run
ahead of the counter, and what the orders can still execute fits into the chunk. -/
structure Amounts (context : HedgeContext) (drive : PassiveDrive) (chunk maker done : ℚ) :
    Prop where
  hedge : drive.hedge.run.Kept context drive.hedge.before maker maker
  counted : maker ≤ currentExecuted drive.makers
  sizes : ∀ order ∈ drive.makers, 0 ≤ order.executed ∧ order.executed ≤ order.quantity
  room : currentPotential drive.makers ≤ chunk
  done : ∀ leg, doneExecuted drive.makers leg + drive.hedgedBefore leg ≤ done

/-- The chunks divide the target. -/
structure Planned (pending : PendingPassiveClose) (quantities : List ℚ) (index : Nat)
    (target : ℚ) : Prop where
  chunkQuantities : pending.chunkQuantities = quantities.map ExactFloat.finite
  activeChunkIndex : pending.activeChunkIndex = index
  targetQuantity : pending.targetQuantity = .finite target
  nonneg : ∀ quantity ∈ quantities, 0 ≤ quantity
  total : quantities.sum ≤ target

theorem currentExecuted_cons (order : MakerOrder) (older : List MakerOrder) :
    currentExecuted (order :: older) =
      (if order.current then order.executed else 0) + currentExecuted older := by
  rw [currentExecuted, List.map_cons, List.sum_cons, currentExecuted]

theorem currentPotential_cons (order : MakerOrder) (older : List MakerOrder) :
    currentPotential (order :: older) =
      (if order.current then order.potential else 0) + currentPotential older := by
  rw [currentPotential, List.map_cons, List.sum_cons, currentPotential]

theorem doneExecuted_cons (order : MakerOrder) (older : List MakerOrder)
    (leg : ActiveMakerLeg) :
    doneExecuted (order :: older) leg =
      (if order.current = false ∧ order.leg = leg then order.executed else 0) +
        doneExecuted older leg := by
  rw [doneExecuted, List.map_cons, List.sum_cons, doneExecuted]

theorem executed_le_potential {order : MakerOrder}
    (size : order.executed ≤ order.quantity) : order.executed ≤ order.potential := by
  rw [MakerOrder.potential]
  split_ifs
  · exact size
  · exact le_refl _

theorem currentExecuted_le {orders : List MakerOrder}
    (sizes : ∀ order ∈ orders, order.executed ≤ order.quantity) :
    currentExecuted orders ≤ currentPotential orders := by
  apply List.sum_le_sum
  intro order member
  split_ifs
  · exact executed_le_potential (sizes order member)
  · exact le_refl _

/-- Dead orders execute nothing more. -/
theorem currentPotential_dead {orders : List MakerOrder}
    (dead : ∀ order ∈ orders, order.live = false) :
    currentPotential orders = currentExecuted orders := by
  rw [currentPotential, currentExecuted]
  congr 1
  apply List.map_congr_left
  intro order member
  rw [MakerOrder.potential, dead order member]
  rfl

/-- A current order is part of what the phase executed. -/
theorem executed_le_current {orders : List MakerOrder}
    (nonneg : ∀ order ∈ orders, 0 ≤ order.executed) {order : MakerOrder}
    (member : order ∈ orders) (current : order.current = true) :
    order.executed ≤ currentExecuted orders := by
  have single := List.single_le_sum
    (l := orders.map (fun order => if order.current then order.executed else 0))
    (by
      intro quantity among
      obtain ⟨other, present, rfl⟩ := List.mem_map.mp among
      split_ifs
      · exact nonneg other present
      · exact le_refl _)
    _ (List.mem_map_of_mem member)
  rw [if_pos current] at single
  exact single

/-- What a phase left behind, and what the maker of the phase added. -/
theorem doneExecuted_leave {orders : List MakerOrder} {side : ActiveMakerLeg}
    (legs : ∀ order ∈ orders, order.current = true → order.leg = side) (leg : ActiveMakerLeg) :
    doneExecuted (orders.map (fun order => { order with current := false })) leg =
      doneExecuted orders leg + if side = leg then currentExecuted orders else 0 := by
  induction orders with
  | nil =>
    split_ifs <;> simp [doneExecuted, currentExecuted]
  | cons order older hyp =>
    have earlier := hyp (fun other member => legs other (List.mem_cons_of_mem _ member))
    have here := legs order List.mem_cons_self
    rw [List.map_cons, doneExecuted_cons, doneExecuted_cons, currentExecuted_cons, earlier]
    cases current : order.current with
    | false => simp [add_assoc]
    | true =>
      rw [here current]
      by_cases same : side = leg
      · simp [same, add_left_comm]
      · simp [same]

/-- What all orders of the run executed on a leg. -/
theorem executed_split {orders : List MakerOrder} {side : ActiveMakerLeg}
    (legs : ∀ order ∈ orders, order.current = true → order.leg = side) (leg : ActiveMakerLeg) :
    (orders.map (fun order => if order.leg = leg then order.executed else 0)).sum =
      doneExecuted orders leg + if side = leg then currentExecuted orders else 0 := by
  rw [← doneExecuted_leave legs leg, doneExecuted, List.map_map]
  congr 1
  apply List.map_congr_left
  intro order _
  simp

end PassiveDrive

namespace PassiveDrive

/-! ## The plan -/

section Plan

variable {pending : PendingPassiveClose} {quantities : List ℚ} {index : Nat} {target : ℚ}

theorem sum_take_succ (quantities : List ℚ) (index : Nat) :
    (quantities.take (index + 1)).sum = (quantities.take index).sum + quantities.getD index 0 := by
  rw [List.getD_eq_getElem?_getD, List.take_add_one, List.sum_append]
  cases quantities[index]? <;> simp

theorem Planned.chunk (planned : Planned pending quantities index target) :
    pending.currentChunkQuantity = .finite (quantities.getD index 0) := by
  rw [PendingPassiveClose.currentChunkQuantity, planned.chunkQuantities, planned.activeChunkIndex,
    Int.toNat_natCast, List.getD_eq_getElem?_getD, List.getD_eq_getElem?_getD, List.getElem?_map]
  cases quantities[index]? <;> rfl

theorem Planned.chunk_nonneg (planned : Planned pending quantities index target) :
    0 ≤ quantities.getD index 0 := by
  rw [List.getD_eq_getElem?_getD]
  cases found : quantities[index]? with
  | none => exact le_refl _
  | some quantity => exact planned.nonneg quantity (List.mem_of_getElem? found)

/-- The chunk and the ones before it stay within the target. -/
theorem Planned.within (planned : Planned pending quantities index target) :
    (quantities.take index).sum + quantities.getD index 0 ≤ target := by
  rw [← sum_take_succ]
  apply le_trans ?_ planned.total
  conv_rhs => rw [← List.take_append_drop (index + 1) quantities, List.sum_append]
  have rest : 0 ≤ (quantities.drop (index + 1)).sum := by
    apply List.sum_nonneg
    exact fun quantity member => planned.nonneg quantity (List.mem_of_mem_drop member)
  linarith

theorem Planned.congr (planned : Planned pending quantities index target)
    {after : PendingPassiveClose} (chunks : after.chunkQuantities = pending.chunkQuantities)
    (active : after.activeChunkIndex = pending.activeChunkIndex)
    (targets : after.targetQuantity = pending.targetQuantity) :
    Planned after quantities index target where
  chunkQuantities := by rw [chunks, planned.chunkQuantities]
  activeChunkIndex := by rw [active, planned.activeChunkIndex]
  targetQuantity := by rw [targets, planned.targetQuantity]
  nonneg := planned.nonneg
  total := planned.total

theorem Planned.keeps (planned : Planned pending quantities index target)
    {after : PendingPassiveClose} (keeps : KeepsAmounts pending after) :
    Planned after quantities index target :=
  planned.congr keeps.maker.chunkQuantities keeps.maker.activeChunkIndex keeps.targetQuantity

theorem Planned.next (planned : Planned pending quantities index target) (nowMs : Int) :
    Planned (nextChunk pending.bumpChunk nowMs) quantities (index + 1) target where
  chunkQuantities := planned.chunkQuantities
  activeChunkIndex := by
    change pending.activeChunkIndex + 1 = _
    rw [planned.activeChunkIndex]
    rfl
  targetQuantity := planned.targetQuantity
  nonneg := planned.nonneg
  total := planned.total

/-- Equal parts. -/
theorem chunkParts_equal (base : ℚ) (count : Nat) :
    chunkParts (.finite base) count (.finite (count * base)) =
      (List.replicate count base).map ExactFloat.finite := by
  induction count with
  | zero => rfl
  | succ count hyp =>
    cases count with
    | zero =>
      rw [chunkParts, Nat.cast_one, one_mul]
      rfl
    | succ count =>
      rw [chunkParts, ExactFloat.sub_finite, List.replicate_succ, List.map_cons, ← hyp]
      congr 3
      push_cast
      ring

/-- Computed chunks divide a positive quantity. -/
theorem computeCloseChunks_divides {total : ℚ} {longHint shortHint maxNotional : ExactFloat}
    {chunks : List ExactFloat} (positive : 0 < total)
    (computed : computeCloseChunks (.finite total) longHint shortHint maxNotional =
      some chunks) :
    ∃ quantities : List ℚ, chunks = quantities.map ExactFloat.finite ∧
      (∀ quantity ∈ quantities, 0 ≤ quantity) ∧ quantities.sum ≤ total := by
  unfold computeCloseChunks at computed
  extract_lets pricePerUnit totalNotional minAllowed at computed
  split_ifs at computed
  · exact ⟨[], (Option.some.inj computed).symm, by simp, by simpa using positive.le⟩
  · refine ⟨[total], (Option.some.inj computed).symm, ?_, by simp⟩
    intro quantity member
    rw [List.mem_singleton.mp member]
    exact positive.le
  · split at computed
    · next ratio known =>
      have unknown : (ExactFloat.finite 0).lt minAllowed = false := by
        simp [minAllowed, minAllowedQuantity]
      simp only [unknown, Bool.false_and, Bool.false_eq_true, if_false, Option.map_some] at computed
      set count := ⌈ratio⌉.toNat
      obtain rfl := Option.some.inj computed
      by_cases zero : count = 0
      · rw [zero]
        exact ⟨[], rfl, by simp, by simpa using positive.le⟩
      · have several : (count : ℚ) ≠ 0 := Nat.cast_ne_zero.mpr zero
        have whole : (count : ℚ) * (total / count) = total := by field_simp
        refine ⟨List.replicate count (total / count), ?_, ?_, ?_⟩
        · rw [← chunkParts_equal, whole, ExactFloat.div]
        · intro quantity member
          rw [List.eq_of_mem_replicate member]
          positivity
        · rw [List.sum_replicate, nsmul_eq_mul, whole]
    · cases computed

end Plan

/-! ## Amounts under the moves -/

section Moves

variable {context : HedgeContext} {drive : PassiveDrive} {chunk maker done : ℚ}

/-- Changes of the pending close that keep fills and counters. -/
theorem Amounts.keeps (amounts : Amounts context drive chunk maker done)
    {after : PendingPassiveClose} (keeps : KeepsAmounts drive.pending after)
    (queue : List DynValue) :
    Amounts context
      { drive with hedge := { drive.hedge with
          run := { drive.hedge.run with pending := after, queue := queue } } }
      chunk maker done where
  hedge := by
    apply amounts.hedge.keeps keeps.hedge queue ?_ (le_refl maker)
    rw [keeps.maker.makerFill]
    exact amounts.hedge.makerFill
  counted := amounts.counted
  sizes := amounts.sizes
  room := amounts.room
  done := amounts.done

/-- A new order takes what the chunk leaves. -/
theorem Amounts.cons (amounts : Amounts context drive chunk maker done) {order : MakerOrder}
    (current : order.current = true) (live : order.live = true) (unfilled : order.executed = 0)
    (nonneg : 0 ≤ order.quantity)
    (room : order.quantity + currentPotential drive.makers ≤ chunk) :
    Amounts context { drive with makers := order :: drive.makers } chunk maker done where
  hedge := amounts.hedge
  counted := by
    rw [currentExecuted_cons, if_pos current, unfilled, zero_add]
    exact amounts.counted
  sizes := by
    intro other member
    rcases List.mem_cons.mp member with rfl | older
    · rw [unfilled]
      exact ⟨le_refl _, nonneg⟩
    · exact amounts.sizes other older
  room := by
    rw [currentPotential_cons, if_pos current, MakerOrder.potential, if_pos live]
    exact room
  done := by
    intro leg
    rw [doneExecuted_cons, if_neg (by simp [current]), zero_add]
    exact amounts.done leg

/-- An accepted order fits when the chunk has room for it. -/
theorem Amounts.place (amounts : Amounts context drive chunk maker done) {quantity : ℚ}
    (nonneg : 0 ≤ quantity) (room : quantity + currentPotential drive.makers ≤ chunk)
    (clientOrderId : String) (price : ExactFloat) (nowMs : Int) (answer : MakerAnswer)
    (accepted : Option String) :
    Amounts context (drive.place (.finite quantity) clientOrderId price nowMs answer accepted)
      chunk maker done := by
  have submitted := amounts.keeps
    (keepsAmounts_submit drive.pending drive.pending.phaseState.activeMakerLeg clientOrderId price
      nowMs answer) drive.hedge.run.queue
  cases accepted with
  | none => exact submitted
  | some orderId => exact submitted.cons rfl rfl rfl nonneg room

/-- The live order is changed. -/
theorem Amounts.modify (amounts : Amounts context drive chunk maker done)
    {order changed : MakerOrder} {older : List MakerOrder} (orders : drive.makers = order :: older)
    (fields : changed.leg = order.leg ∧ changed.current = order.current)
    (current : order.current = true) (more : order.executed ≤ changed.executed)
    (size : changed.executed ≤ changed.quantity)
    (room : changed.potential + currentPotential older ≤ chunk) :
    Amounts context { drive with makers := changed :: older } chunk maker done where
  hedge := amounts.hedge
  counted := by
    have counted := amounts.counted
    rw [orders, currentExecuted_cons, if_pos current] at counted
    rw [currentExecuted_cons, fields.2, if_pos current]
    linarith
  sizes := by
    have sizes := amounts.sizes
    rw [orders] at sizes
    intro other member
    rcases List.mem_cons.mp member with rfl | later
    · exact ⟨(sizes order List.mem_cons_self).1.trans more, size⟩
    · exact sizes other (List.mem_cons_of_mem _ later)
  room := by
    rw [currentPotential_cons, fields.2, if_pos current]
    exact room
  done := by
    intro leg
    have done := amounts.done leg
    rw [orders, doneExecuted_cons, if_neg (by simp [current])] at done
    rw [doneExecuted_cons, if_neg (by simp [fields.2, current])]
    exact done

/-- A truthful report of a current order. -/
theorem Amounts.report (amounts : Amounts context drive chunk maker done)
    {progress : MakerProgress} {quantity : ℚ} {order : MakerOrder}
    (names : progress.cumulativeQuantity = .finite quantity) (member : order ∈ drive.makers)
    (current : order.current = true) (truthful : quantity ≤ order.executed) (nowMs : Int) :
    ∃ more, Amounts context (drive.withPending (applyMakerProgress drive.pending progress nowMs))
      chunk more done := by
  have keeps := drive.pending.keepsHedge_progress names nowMs
  by_cases raises : (drive.pending.makerFill.quantity.add progressTolerance).lt
      progress.cumulativeQuantity = true
  · obtain ⟨makerFill, -⟩ := applyMakerProgress_raises nowMs raises
    have counter : (applyMakerProgress drive.pending progress nowMs).makerFill.quantity =
        .finite quantity :=
      (congrArg PendingPassiveLegFill.quantity makerFill).trans names
    have higher : maker ≤ quantity := by
      obtain ⟨more, known, raised⟩ := keeps.maker amounts.hedge.makerFill
      rw [counter] at known
      exact raised.trans_eq (ExactFloat.finite.inj known).symm
    refine ⟨quantity, amounts.hedge.keeps keeps drive.hedge.run.queue counter higher, ?_,
      amounts.sizes, amounts.room, amounts.done⟩
    exact truthful.trans (executed_le_current
      (fun other among => (amounts.sizes other among).1) member current)
  · refine ⟨maker, ?_⟩
    rw [applyMakerProgress, if_neg raises]
    exact amounts

/-- The hedge asks for what it lacks. -/
theorem Amounts.hedged [TextCase] (amounts : Amounts context drive chunk maker done)
    {call : HedgeCall} (honest : drive.hedge.Honest context call)
    (sound : drive.hedge.SoundCall context call)
    (lacks : call.delta = drive.pending.makerFill.quantity.sub drive.pending.hedgeFill.quantity) :
    Amounts context (drive.step context (.hedge call)) chunk maker done where
  hedge := by
    have asks : call.delta = .finite (maker - resolvedQuantity drive.hedge.run.orders) := by
      rw [lacks, PassiveDrive.pending, amounts.hedge.makerFill, amounts.hedge.counter,
        ExactFloat.sub_finite]
    apply sound.submits honest amounts.hedge asks
    linarith
  counted := amounts.counted
  sizes := amounts.sizes
  room := amounts.room
  done := amounts.done

/-- The maker works on one leg and the hedge on the other. -/
theorem executedOn_split
    (legs : ∀ order ∈ drive.makers, order.current = true →
      order.leg = drive.pending.phaseState.activeMakerLeg) (leg : ActiveMakerLeg) :
    drive.executedOn leg = doneExecuted drive.makers leg + drive.hedgedBefore leg +
      if drive.pending.phaseState.activeMakerLeg = leg then currentExecuted drive.makers
      else executedQuantity drive.hedge.run.orders := by
  rw [executedOn, executed_split legs leg, hedgedOn, PendingPassiveClose.hedgeLeg]
  cases drive.pending.phaseState.activeMakerLeg <;> cases leg <;> simp [add_right_comm]

theorem Amounts.executedOn_le (amounts : Amounts context drive chunk maker done)
    (legs : ∀ order ∈ drive.makers, order.current = true →
      order.leg = drive.pending.phaseState.activeMakerLeg) {bound : ℚ}
    (makers : currentExecuted drive.makers ≤ bound)
    (hedge : executedQuantity drive.hedge.run.orders ≤ bound) (leg : ActiveMakerLeg) :
    drive.executedOn leg ≤ done + bound := by
  have earlier := amounts.done leg
  rw [executedOn_split legs leg]
  split_ifs <;> linarith

/-- Maker and hedge of a phase execute at most the chunk. -/
theorem Amounts.executedOn_le_chunk (amounts : Amounts context drive chunk maker done)
    (legs : ∀ order ∈ drive.makers, order.current = true →
      order.leg = drive.pending.phaseState.activeMakerLeg) (leg : ActiveMakerLeg) :
    drive.executedOn leg ≤ done + chunk := by
  have makers : currentExecuted drive.makers ≤ chunk :=
    (currentExecuted_le (fun order member => (amounts.sizes order member).2)).trans amounts.room
  apply amounts.executedOn_le legs makers
  exact amounts.hedge.bounded.trans (amounts.counted.trans makers)

/-- A phase is left; what it executed stays on its legs. -/
theorem Amounts.leave (amounts : Amounts context drive chunk maker done)
    {after : PendingPassiveClose}
    (legs : ∀ order ∈ drive.makers, order.current = true →
      order.leg = drive.pending.phaseState.activeMakerLeg)
    (hedgeFill : after.hedgeFill = {}) (makerFill : after.makerFill = {})
    {next later : ℚ} (nonneg : 0 ≤ next) (executed : ∀ leg, drive.executedOn leg ≤ later) :
    Amounts context (drive.leave after) next 0 later where
  hedge := {
    counter := congrArg PendingPassiveLegFill.quantity hedgeFill
    recorded := (add_zero _).symm
    makerFill := congrArg PendingPassiveLegFill.quantity makerFill
    bounded := le_refl _
    nonneg := fun order member => absurd member List.not_mem_nil
    keys := List.nodup_nil
    settled := .inr (fun order member => absurd member List.not_mem_nil) }
  counted := by
    apply le_of_eq
    symm
    apply List.sum_eq_zero
    intro quantity member
    obtain ⟨order, among, rfl⟩ := List.mem_map.mp member
    obtain ⟨earlier, -, rfl⟩ := List.mem_map.mp among
    rfl
  sizes := by
    intro order member
    obtain ⟨earlier, among, rfl⟩ := List.mem_map.mp member
    exact amounts.sizes earlier among
  room := by
    apply le_trans (le_of_eq ?_) nonneg
    apply List.sum_eq_zero
    intro quantity member
    obtain ⟨order, among, rfl⟩ := List.mem_map.mp member
    obtain ⟨earlier, -, rfl⟩ := List.mem_map.mp among
    rfl
  done := by
    intro leg
    have left := executed leg
    rw [executedOn, executed_split legs leg, ← doneExecuted_leave legs leg] at left
    rw [add_assoc] at left
    exact left

end Moves

end PassiveDrive

namespace PassiveDrive

/-! ## Runs -/

/-- The chunk that is worked on, its amounts, and the handle. -/
structure Safe (context : HedgeContext) (quantities : List ℚ) (target : ℚ)
    (drive : PassiveDrive) (index : Nat) (maker : ℚ) : Prop where
  handle : HandleKept drive.pending.phaseState drive.makers
  plan : Planned drive.pending quantities index target
  amounts : Amounts context drive (quantities.getD index 0) maker (quantities.take index).sum

section Step

variable {context : HedgeContext} {quantities : List ℚ} {target : ℚ} {drive : PassiveDrive}
  {index : Nat} {maker : ℚ}

/-- A handle is given up without live orders. -/
theorem Safe.submit (safe : Safe context quantities target drive index maker)
    {clientOrderId : String} {answer : MakerAnswer} {accepted : Option String}
    (orderId : drive.pending.phaseState.makerOrderId = "")
    (heldId : drive.pending.phaseState.makerClientOrderId = "")
    (places : drive.Places clientOrderId answer accepted)
    (unfilled : ∀ order ∈ drive.makers, order.current = true → order.executed = 0)
    (price : ExactFloat) (nowMs : Int) :
    Safe context quantities target (drive.place drive.pending.currentChunkQuantity clientOrderId
      price nowMs answer accepted) index maker := by
  have dead := safe.handle.newest.none orderId heldId
  have potential : currentPotential drive.makers = 0 := by
    rw [currentPotential_dead dead]
    apply List.sum_eq_zero
    intro quantity member
    obtain ⟨order, among, rfl⟩ := List.mem_map.mp member
    split_ifs with current
    · exact unfilled order among current
    · rfl
  refine ⟨safe.handle.place dead places (.inl orderId) _ price nowMs, ?_, ?_⟩
  · cases accepted <;> exact safe.plan.keeps (keepsAmounts_submit _ _ _ _ _ _)
  · rw [safe.plan.chunk]
    apply safe.amounts.place safe.plan.chunk_nonneg
    rw [potential, add_zero]

/-- What remains of the chunk. -/
theorem Safe.remaining (safe : Safe context quantities target drive index maker) :
    drive.pending.remainingChunkQuantity = .finite (max (quantities.getD index 0 - maker) 0) := by
  rw [PendingPassiveClose.remainingChunkQuantity, safe.plan.chunk, PassiveDrive.pending,
    safe.amounts.hedge.makerFill, ExactFloat.sub_finite, ExactFloat.max_finite]

/-- A counter that knows everything equals what the phase executed. -/
theorem Safe.counts (safe : Safe context quantities target drive index maker)
    (counted : drive.Counted) : currentExecuted drive.makers = maker := by
  apply le_antisymm ?_ safe.amounts.counted
  rw [Counted, PassiveDrive.pending, safe.amounts.hedge.makerFill, ExactFloat.le_finite,
    decide_eq_true_iff] at counted
  exact counted

/-- A dead order is replaced by one for the rest. -/
theorem Safe.replace (safe : Safe context quantities target drive index maker)
    {clientOrderId : String} {answer : MakerAnswer} {accepted : Option String}
    (remains : progressTolerance.lt drive.pending.remainingChunkQuantity = true)
    (ended : ∃ order ∈ drive.makers, order.HeldBy drive.pending.phaseState ∧ order.live = false)
    (places : drive.Places clientOrderId answer accepted) (counted : drive.Counted)
    (sure : accepted.isSome = true → ∃ ack, answer = .accepted ack) (price : ExactFloat)
    (nowMs : Int) :
    Safe context quantities target (drive.place drive.pending.remainingChunkQuantity clientOrderId
      price nowMs answer accepted) index maker := by
  obtain ⟨order, member, held, ended⟩ := ended
  have dead := safe.handle.newest.dead member held ended
  refine ⟨safe.handle.place dead places (.inr sure) _ price nowMs, ?_, ?_⟩
  · cases accepted <;> exact safe.plan.keeps (keepsAmounts_submit _ _ _ _ _ _)
  · rw [safe.remaining, progressTolerance, ExactFloat.lt_finite, decide_eq_true_iff] at remains
    have rest : 0 ≤ quantities.getD index 0 - maker := by
      rcases lt_max_iff.mp remains with positive | positive
      · linarith [show (0 : ℚ) < 1 / 10 ^ 9 by norm_num]
      · norm_num at positive
    rw [safe.remaining, max_eq_left rest]
    apply safe.amounts.place rest
    rw [currentPotential_dead dead, safe.counts counted]
    linarith

/-- A live order is amended to what remains. -/
theorem Safe.amend (safe : Safe context quantities target drive index maker) {position : Nat}
    {order : MakerOrder} {ack : MakerAck}
    (found : drive.makers[position]? = some order) (held : order.HeldBy drive.pending.phaseState)
    (live : order.live = true) (named : ack.orderId ≠ "")
    (unused : Unused (drive.makers.eraseIdx position) ack.orderId ack.clientOrderId)
    (counted : drive.Counted) (price : ExactFloat) (nowMs : Int) [TextCase] :
    Safe context quantities target (drive.step context (.amend position price ack nowMs)) index
      maker := by
  obtain ⟨rfl, older, orders⟩ := safe.handle.newest.index found live
  obtain ⟨orderId, heldId⟩ := amend_handle drive.pending price ack nowMs
  have keeps := keepsAmounts_amend drive.pending price ack nowMs
  have handle := safe.handle
  have current := handle.current order (List.mem_of_getElem? found) held
  have counts := safe.counts counted
  have size := safe.amounts.sizes order (List.mem_of_getElem? found)
  have room := safe.amounts.room
  have others : currentPotential older = currentExecuted older := by
    rw [orders] at handle
    exact currentPotential_dead handle.newest.1
  rw [orders, currentExecuted_cons, if_pos current] at counts
  rw [orders, currentPotential_cons, if_pos current, MakerOrder.potential, if_pos live, others]
    at room
  rw [step, orders, List.modify_zero_cons]
  refine ⟨?_, safe.plan.keeps keeps, ?_⟩
  · rw [orders] at handle unused
    apply handle.amend keeps.maker.activeMakerLeg held
    · rw [orderId]
      exact named
    · exact orderId.symm
    · exact ⟨rfl, rfl⟩
    · rw [orderId, heldId]
      exact unused
  · refine (safe.amounts.keeps keeps drive.hedge.run.queue).modify orders ⟨?_, ?_⟩ current ?_ ?_ ?_
    · rfl
    · rfl
    · exact le_refl _
    · exact le_max_left _ _
    · rw [MakerOrder.potential, if_pos live, safe.remaining, ExactFloat.toRat, others]
      rcases max_choice order.executed (max (quantities.getD index 0 - maker) 0) with most | most
      · rw [most]
        linarith
      · rw [most]
        rcases max_choice (quantities.getD index 0 - maker) 0 with rest | rest
        · rw [rest]
          linarith
        · rw [rest]
          linarith

/-- A report counts what a held order executed; a dead one may be forgotten. -/
theorem Safe.report (safe : Safe context quantities target drive index maker) {position : Nat}
    {progress : MakerProgress} {forgets : Bool}
    (reports : drive.Reports position progress forgets) (nowMs : Int) [TextCase] :
    ∃ more, Safe context quantities target
      (drive.step context (.report position progress nowMs forgets)) index more := by
  obtain ⟨order, quantity, found, held, names, truthful, ended⟩ := reports.names
  have member := List.mem_of_getElem? found
  obtain ⟨more, amounts⟩ := safe.amounts.report names member
    (safe.handle.current order member held) truthful nowMs
  have kept : (applyMakerProgress drive.pending progress nowMs).phaseState =
      drive.pending.phaseState ∧
      Planned (applyMakerProgress drive.pending progress nowMs) quantities index target := by
    by_cases raises : (drive.pending.makerFill.quantity.add progressTolerance).lt
        progress.cumulativeQuantity = true
    · obtain ⟨-, phase, chunks, active, -⟩ := applyMakerProgress_raises nowMs raises
      refine ⟨phase, safe.plan.congr chunks active ?_⟩
      rw [applyMakerProgress, if_pos raises]
      cases drive.pending.phaseState.activeMakerLeg <;> rfl
    · rw [applyMakerProgress, if_neg raises]
      exact ⟨rfl, safe.plan⟩
  refine ⟨more, ?_⟩
  cases forgets with
  | false =>
    refine ⟨?_, kept.2, amounts⟩
    change HandleKept (applyMakerProgress drive.pending progress nowMs).phaseState drive.makers
    rw [kept.1]
    exact safe.handle
  | true =>
    have dead := safe.handle.newest.dead member held (ended (reports.forgets rfl).1)
    refine ⟨?_, kept.2.keeps (keepsAmounts_clear _), ?_⟩
    · apply safe.handle.empty ?_ dead rfl rfl
      change (applyMakerProgress drive.pending progress nowMs).phaseState.activeMakerLeg = _
      rw [kept.1]
    · exact amounts.keeps (keepsAmounts_clear _) drive.hedge.run.queue

/-- The hedge leaves the handle and the plan alone. -/
theorem Safe.hedged [TextCase] (safe : Safe context quantities target drive index maker)
    {call : HedgeCall} (honest : drive.hedge.Honest context call)
    (sound : drive.hedge.SoundCall context call)
    (lacks : call.delta = drive.pending.makerFill.quantity.sub drive.pending.hedgeFill.quantity) :
    Safe context quantities target (drive.step context (.hedge call)) index maker := by
  have frame := submitHedgeForDelta_frame context call drive.hedge.run
  refine ⟨?_, ?_, safe.amounts.hedged honest sound lacks⟩
  · change HandleKept (submitHedgeForDelta context call drive.hedge.run).2.pending.phaseState
      drive.makers
    rw [frame.phaseState]
    exact safe.handle
  · exact safe.plan.congr frame.chunkQuantities frame.activeChunkIndex frame.targetQuantity

/-- A cycle without a fill waits, falls back to takers, or leaves an idle phase. -/
theorem Safe.zeroFill [TextCase] (safe : Safe context quantities target drive index maker)
    {maxZeroFillCycles : Int}
    (idle : drive.pending.phaseState.phase = .highSlippageMaker →
      maxZeroFillCycles ≤ drive.pending.phaseState.zeroFillCyclesInPhase + 1 →
        (∀ order ∈ drive.makers, order.live = false ∧
          (order.current = true → order.executed = 0)) ∧
        ∀ order ∈ drive.hedge.run.orders, order.executed = 0) (retryDelay nowMs : Int) :
    ∃ more, Safe context quantities target
      (drive.step context (.zeroFill maxZeroFillCycles retryDelay nowMs)) index more := by
  rw [step]
  set after := drive.pending.zeroFillCycle maxZeroFillCycles retryDelay nowMs with afterIs
  split_ifs with leaves
  · obtain ⟨high, low⟩ := leaves
    have exhausted : ¬ drive.pending.phaseState.zeroFillCyclesInPhase + 1 < maxZeroFillCycles := by
      intro early
      have same : after.phaseState.phase = drive.pending.phaseState.phase := by
        simp only [afterIs, PendingPassiveClose.zeroFillCycle, if_pos early]
      rw [same, high] at low
      cases low
    obtain ⟨orders, hedges⟩ := idle high (not_lt.mp exhausted)
    have left : after = ({ drive.pending with
        phaseState := { drive.pending.phaseState with
          zeroFillCyclesInPhase := drive.pending.phaseState.zeroFillCyclesInPhase + 1 } } :
        PendingPassiveClose).switchPhase nowMs := by
      simp only [afterIs, PendingPassiveClose.zeroFillCycle, if_neg exhausted, if_pos high]
    have makers : currentExecuted drive.makers = 0 := by
      apply List.sum_eq_zero
      intro quantity member
      obtain ⟨order, among, rfl⟩ := List.mem_map.mp member
      split_ifs with current
      · exact (orders order among).2 current
      · rfl
    have hedge : executedQuantity drive.hedge.run.orders = 0 := by
      apply List.sum_eq_zero
      intro quantity member
      obtain ⟨order, among, rfl⟩ := List.mem_map.mp member
      exact hedges order among
    rw [left]
    refine ⟨0, .leave (fun order member => (orders order member).1) rfl rfl, ?_, ?_⟩
    · exact safe.plan.congr rfl rfl rfl
    · apply safe.amounts.leave safe.handle.legs rfl rfl safe.plan.chunk_nonneg
      intro leg
      have executed := safe.amounts.executedOn_le safe.handle.legs makers.le hedge.le leg
      rw [add_zero] at executed
      exact executed
  · have kept : KeepsAmounts drive.pending after ∧
        after.phaseState.makerOrderId = drive.pending.phaseState.makerOrderId ∧
        after.phaseState.makerClientOrderId = drive.pending.phaseState.makerClientOrderId := by
      simp only [afterIs, PendingPassiveClose.zeroFillCycle]
      split_ifs with early high
      · exact ⟨keepsAmounts_phase _ _ _ rfl, rfl, rfl⟩
      · exfalso
        apply leaves
        refine ⟨high, ?_⟩
        simp only [afterIs, PendingPassiveClose.zeroFillCycle, if_neg early, if_pos high]
        rfl
      · exact ⟨keepsAmounts_phase _ _ _ rfl, rfl, rfl⟩
    obtain ⟨keeps, orderId, heldId⟩ := kept
    exact ⟨maker, safe.handle.congr keeps.maker.activeMakerLeg orderId heldId,
      safe.plan.keeps keeps, safe.amounts.keeps keeps drive.hedge.run.queue⟩

/-- A chunk is left; what it executed fits into it. -/
theorem Safe.advance [TextCase] (safe : Safe context quantities target drive index maker)
    (dead : ∀ order ∈ drive.makers, order.live = false) (nowMs : Int) :
    Safe context quantities target (drive.step context (.advance nowMs)) (index + 1) 0 := by
  have plan := safe.plan.next nowMs
  refine ⟨.leave dead rfl rfl, plan, ?_⟩
  apply safe.amounts.leave safe.handle.legs rfl rfl plan.chunk_nonneg
  rw [sum_take_succ]
  exact safe.amounts.executedOn_le_chunk safe.handle.legs

/-- A venue executes at most what it accepted. -/
theorem Safe.venue [TextCase] (safe : Safe context quantities target drive index maker)
    {position : Nat} {order : MakerOrder} {executed : ℚ}
    (found : drive.makers[position]? = some order) (live : order.live = true)
    (more : order.executed ≤ executed) (size : executed ≤ order.quantity) (lives : Bool) :
    Safe context quantities target (drive.step context (.venue position executed lives)) index
      maker := by
  obtain ⟨rfl, older, orders⟩ := safe.handle.newest.index found live
  have handle := safe.handle
  have room := safe.amounts.room
  rw [orders] at handle
  have current : order.current = true :=
    handle.current order List.mem_cons_self (handle.newest.2 live).1
  rw [orders, currentPotential_cons, if_pos current, MakerOrder.potential, if_pos live] at room
  rw [step, orders, List.modify_zero_cons]
  refine ⟨handle.venue live (fun _ => Iff.rfl) ⟨rfl, rfl⟩, safe.plan, ?_⟩
  refine safe.amounts.modify orders ⟨rfl, rfl⟩ current more size ?_
  rw [MakerOrder.potential]
  split_ifs
  · exact room
  · change executed + currentPotential older ≤ _
    linarith

/-- A sound move keeps a close safe. -/
theorem Safe.step [TextCase] (safe : Safe context quantities target drive index maker)
    {move : DriveMove} (admits : drive.Admits context move) (sound : drive.Sound context move) :
    ∃ next more, Safe context quantities target (drive.step context move) next more := by
  cases move with
  | cycle =>
    obtain ⟨handle, plan, amounts⟩ := safe
    exact ⟨index, maker, handle, plan,
      ⟨amounts.hedge, amounts.counted, amounts.sizes, amounts.room, amounts.done⟩⟩
  | submit clientOrderId price nowMs answer accepted =>
    obtain ⟨orderId, heldId, places⟩ := admits
    exact ⟨index, maker, safe.submit orderId heldId places sound price nowMs⟩
  | replace clientOrderId price nowMs answer accepted =>
    obtain ⟨remains, ended, places⟩ := admits
    obtain ⟨counted, sure⟩ := sound
    exact ⟨index, maker, safe.replace remains ended places counted sure price nowMs⟩
  | amend position price ack nowMs =>
    obtain ⟨-, named, order, found, held, live, unused⟩ := admits
    exact ⟨index, maker, safe.amend found held live named unused sound price nowMs⟩
  | report position progress nowMs forgets =>
    obtain ⟨more, kept⟩ := safe.report admits nowMs
    exact ⟨index, more, kept⟩
  | hedge call =>
    obtain ⟨-, honest⟩ := admits
    obtain ⟨sound, lacks⟩ := sound
    exact ⟨index, maker, safe.hedged honest sound lacks⟩
  | zeroFill maxZeroFillCycles retryDelay nowMs =>
    obtain ⟨more, kept⟩ := safe.zeroFill sound retryDelay nowMs
    exact ⟨index, more, kept⟩
  | advance nowMs => exact ⟨index + 1, 0, safe.advance sound nowMs⟩
  | rest after queue =>
    have rests : Rests drive.pending after := admits
    exact ⟨index, maker,
      safe.handle.congr rests.maker.activeMakerLeg rests.makerOrderId rests.makerClientOrderId,
      safe.plan.keeps rests.toKeepsAmounts, safe.amounts.keeps rests.toKeepsAmounts queue⟩
  | venue position executed lives =>
    obtain ⟨order, found, live, more, size⟩ := admits
    exact ⟨index, maker, safe.venue found live more size lives⟩

/-- A safe close stays within the target. -/
theorem Safe.within (safe : Safe context quantities target drive index maker) :
    drive.WithinTarget := by
  intro leg
  have executed := safe.amounts.executedOn_le_chunk safe.handle.legs leg
  have within := safe.plan.within
  rw [safe.plan.targetQuantity, progressTolerance, ExactFloat.add_finite, ExactFloat.le_finite,
    decide_eq_true_iff]
  linarith [show (0 : ℚ) ≤ 1 / 10 ^ 9 by norm_num]

end Step

/-- `start_passive_close`: chunks of a positive target, no fills, no handle and no orders. -/
structure Fresh (drive : PassiveDrive) : Prop where
  target : ∃ target : ℚ, drive.pending.targetQuantity = .finite target ∧ 0 < target
  chunks : ∃ longHint shortHint maxNotional,
    computeCloseChunks drive.pending.targetQuantity longHint shortHint maxNotional =
      some drive.pending.chunkQuantities
  activeChunkIndex : drive.pending.activeChunkIndex = 0
  makerFill : drive.pending.makerFill = {}
  hedgeFill : drive.pending.hedgeFill = {}
  makerOrderId : drive.pending.phaseState.makerOrderId = ""
  makerClientOrderId : drive.pending.phaseState.makerClientOrderId = ""
  makers : drive.makers = []
  hedges : drive.hedge.run.orders = []
  before : drive.hedge.before = drive.pending.fillsOn drive.pending.hedgeLeg
  hedgedBefore : ∀ leg, drive.hedgedBefore leg = 0

theorem Fresh.safe {drive : PassiveDrive} (fresh : drive.Fresh) (context : HedgeContext) :
    ∃ quantities target, Safe context quantities target drive 0 0 := by
  obtain ⟨target, targets, positive⟩ := fresh.target
  obtain ⟨longHint, shortHint, maxNotional, computed⟩ := fresh.chunks
  rw [targets] at computed
  obtain ⟨quantities, chunks, nonneg, total⟩ := computeCloseChunks_divides positive computed
  have plan : Planned drive.pending quantities 0 target :=
    ⟨chunks, fresh.activeChunkIndex, targets, nonneg, total⟩
  have none {property : MakerOrder → Prop} : ∀ order ∈ drive.makers, property order := by
    rw [fresh.makers]
    exact fun order member => absurd member List.not_mem_nil
  have hedges {property : HedgeOrder → Prop} :
      ∀ order ∈ drive.hedge.run.orders, property order := by
    rw [fresh.hedges]
    exact fun order member => absurd member List.not_mem_nil
  refine ⟨quantities, target, ⟨.of_dead none, none, none⟩, plan, ?_⟩
  exact {
    hedge := {
      counter := by
        rw [fresh.hedges]
        exact congrArg PendingPassiveLegFill.quantity fresh.hedgeFill
      recorded := by
        rw [fresh.before, fresh.hedges]
        exact (add_zero _).symm
      makerFill := congrArg PendingPassiveLegFill.quantity fresh.makerFill
      bounded := by
        rw [fresh.hedges]
        exact le_refl _
      nonneg := hedges
      keys := by
        rw [fresh.hedges]
        exact List.nodup_nil
      settled := .inr hedges }
    counted := by
      rw [fresh.makers]
      exact le_refl _
    sizes := none
    room := by
      rw [fresh.makers]
      exact plan.chunk_nonneg
    done := by
      intro leg
      rw [fresh.makers, fresh.hedgedBefore]
      exact (add_zero _).le }

/-- In a run of sound moves no live order is lost and no leg is closed beyond the target. -/
theorem sound_drive_safe [TextCase] {context : HedgeContext} {start drive : PassiveDrive}
    (fresh : start.Fresh) (run : DriveRun context start (Sound context) drive) :
    drive.HoldsOrder ∧ drive.WithinTarget := by
  obtain ⟨quantities, target, begins⟩ := fresh.safe context
  have safe : ∃ index maker, Safe context quantities target drive index maker := by
    induction run with
    | start => exact ⟨0, 0, begins⟩
    | step run move passive admits sound hyp =>
      obtain ⟨index, maker, safe⟩ := hyp
      exact safe.step admits sound
  obtain ⟨index, maker, safe⟩ := safe
  exact ⟨safe.handle.holds, safe.within⟩

end PassiveDrive

namespace PassiveDrive

section Example

local instance driveCase : TextCase := .ascii

/-- A close of one unit in one chunk. -/
def unitDrive : PassiveDrive where
  hedge := unitChunk

def acceptedOrder (clientOrderId orderId : String) : DriveMove :=
  .submit clientOrderId (.finite 10) 1 (.accepted { orderId := orderId }) (some orderId)

/-- The venue accepted the order of the whole chunk. -/
def resting : PassiveDrive := unitDrive.step bybitContext (acceptedOrder "c1" "m1")

theorem unitDrive_fresh : unitDrive.Fresh where
  target := ⟨1, rfl, by norm_num⟩
  chunks := ⟨.finite 10, .finite 10, .finite 0, by decide +kernel⟩
  activeChunkIndex := rfl
  makerFill := rfl
  hedgeFill := rfl
  makerOrderId := rfl
  makerClientOrderId := rfl
  makers := rfl
  hedges := rfl
  before := rfl
  hedgedBefore := fun _ => rfl

theorem resting_run (meets : PassiveDrive → DriveMove → Prop)
    (sound : meets unitDrive (acceptedOrder "c1" "m1")) :
    DriveRun bybitContext unitDrive meets resting := by
  refine DriveRun.start.step (acceptedOrder "c1" "m1") (by decide) ⟨rfl, rfl, ?_⟩ sound
  refine ⟨by decide, rfl, fun orderId _ => ?_⟩
  exact ⟨fun order member => absurd member List.not_mem_nil,
    fun order member => absurd member List.not_mem_nil⟩

/-- The same close in two chunks. -/
def halvesDrive : { drive : PassiveDrive // drive.Fresh } where
  val :=
    { hedge :=
        { run :=
            { pending := { unitPassive with chunkQuantities := [.finite (1 / 2), .finite (1 / 2)] } } } }
  property :=
    { target := ⟨1, rfl, by norm_num⟩
      chunks := ⟨.finite 10, .finite 10, .finite 5, by decide +kernel⟩
      activeChunkIndex := rfl
      makerFill := rfl
      hedgeFill := rfl
      makerOrderId := rfl
      makerClientOrderId := rfl
      makers := rfl
      hedges := rfl
      before := rfl
      hedgedBefore := fun _ => rfl }

/-- The first chunk's order is filled and reported. -/
def halfReported : PassiveDrive :=
  (((halvesDrive.val.step bybitContext (acceptedOrder "c1" "m1")).step bybitContext
    (.venue 0 (1 / 2) false)).step bybitContext .cycle).step bybitContext
      (.report 0 (tenReport "m1" (1 / 2) 2) 3 false)

/-- Its fill is hedged. -/
def halfDelta : HedgeCall :=
  { firstDelta with
    delta := .finite (1 / 2)
    normalized := .ok (.finite (1 / 2))
    placed := { executed := some (1 / 2), answer := .ok (hedgeOf "h1" (1 / 2)) } }

theorem halfReported_run :
    DriveRun bybitContext halvesDrive.val (Sound bybitContext) halfReported := by
  have none (orderId : String) : Unused halvesDrive.val.makers orderId "c1" :=
    fun order member => absurd member List.not_mem_nil
  have fresh : DriveRun bybitContext halvesDrive.val (Sound bybitContext) halvesDrive := .start
  have placed := fresh.step (acceptedOrder "c1" "m1") (by decide)
    ⟨rfl, rfl, by decide, rfl, fun orderId _ => ⟨none _, none _⟩⟩
    (fun order member => absurd member List.not_mem_nil)
  have filled := placed.step (.venue 0 (1 / 2) false) (by decide +kernel)
    ⟨_, rfl, rfl, by decide +kernel, by decide +kernel⟩ trivial
  have read := filled.step .cycle (by decide +kernel) trivial trivial
  exact read.step (.report 0 (tenReport "m1" (1 / 2) 2) 3 false) (by decide +kernel)
    ⟨⟨_, 1 / 2, rfl, ⟨rfl, .inl ⟨by decide, rfl⟩⟩, rfl, by decide +kernel, fun _ => rfl⟩,
      fun forgets => nomatch forgets⟩ trivial

def halfHedged : PassiveDrive := halfReported.step bybitContext (.hedge halfDelta)

theorem halfHedged_run : DriveRun bybitContext halvesDrive.val (Sound bybitContext) halfHedged := by
  have admits : halfReported.Admits bybitContext (.hedge halfDelta) := by
    refine ⟨⟨_, rfl, by decide +kernel, .inl (by decide +kernel)⟩, ?_⟩
    exact {
      normalized := rfl
      live := fun position known => by cases known
      placed := fun _ => {
        refuses := by
          rintro ⟨order, member, -⟩
          exact absurd member List.not_mem_nil
        within := by
          intro executed known
          obtain rfl := Option.some.inj known
          exact ⟨by norm_num, by decide +kernel⟩
        names := by
          intro fill known
          obtain rfl := Except.ok.inj known
          exact ⟨_, rfl, .inl rfl⟩ }
      reconciled := fun found known => by cases known
      retried := unsent_honest _ _ }
  refine halfReported_run.step (.hedge halfDelta) (by decide +kernel) admits ⟨?_, by decide +kernel⟩
  exact {
    within := by decide +kernel
    uncounted := fun order member => absurd member List.not_mem_nil
    fresh := by decide +kernel
    distinct := fun orderId member => absurd member List.not_mem_nil
    settled := fun found position known => by cases known }

/-- The first chunk is filled, reported and hedged, and the second one begins. -/
theorem sound_drive_safe_advanced :
    (halfHedged.step bybitContext (.advance 5)).HoldsOrder ∧
      (halfHedged.step bybitContext (.advance 5)).WithinTarget := by
  apply sound_drive_safe halvesDrive.property
  refine halfHedged_run.step (.advance 5) (by decide +kernel) ?_ ?_
  · exact ⟨by decide +kernel, by decide +kernel, by decide +kernel⟩
  · have ended : halfHedged.makers.map MakerOrder.live = [false] := by decide +kernel
    intro order member
    have dead := List.mem_map_of_mem (f := MakerOrder.live) member
    rw [ended] at dead
    exact List.mem_singleton.mp dead

/-- Three cycles without a fill exhaust the first phase. -/
def abandoned : PassiveDrive :=
  ((resting.step bybitContext (.zeroFill 3 10 2)).step bybitContext (.zeroFill 3 10 3)).step
    bybitContext (.zeroFill 3 10 4)

/-- The order is canceled with a part filled, and an order for the whole chunk follows. -/
def partlyFilled : PassiveDrive := resting.step bybitContext (.venue 0 (2 / 5) false)

def canceledReport : MakerProgress := { tenReport "m1" (2 / 5) 2 with state := .canceled }

def forgotten : PassiveDrive :=
  partlyFilled.step bybitContext (.report 0 canceledReport 3 true)

def resubmitted : PassiveDrive := forgotten.step bybitContext (acceptedOrder "c2" "m2")

def overfilled : PassiveDrive := resubmitted.step bybitContext (.venue 0 1 false)

theorem abandoned_run : DriveRun bybitContext unitDrive (fun _ _ => True) abandoned :=
  (((resting_run _ trivial).step (.zeroFill 3 10 2) (by decide) trivial trivial).step
    (.zeroFill 3 10 3) (by decide +kernel) trivial trivial).step (.zeroFill 3 10 4)
      (by decide +kernel) trivial trivial

theorem overfilled_run : DriveRun bybitContext unitDrive (fun _ _ => True) overfilled := by
  have filled : DriveRun bybitContext unitDrive (fun _ _ => True) partlyFilled :=
    (resting_run _ trivial).step (.venue 0 (2 / 5) false) (by decide)
      ⟨_, rfl, rfl, by decide +kernel, by decide +kernel⟩ trivial
  have forgot : DriveRun bybitContext unitDrive (fun _ _ => True) forgotten := by
    refine filled.step (.report 0 canceledReport 3 true) (by decide) ?_ trivial
    refine ⟨⟨_, 2 / 5, rfl, ⟨rfl, .inl ⟨by decide, rfl⟩⟩, rfl, by decide +kernel,
      fun _ => rfl⟩, fun _ => ⟨rfl, by decide⟩⟩
  have again : DriveRun bybitContext unitDrive (fun _ _ => True) resubmitted := by
    refine forgot.step (acceptedOrder "c2" "m2") (by decide +kernel)
      ⟨by decide +kernel, by decide +kernel, by decide, rfl, ?_⟩ trivial
    have names : forgotten.makers.map (fun order => (order.orderId, order.clientOrderId)) =
        [("m1", "c1")] := by decide +kernel
    have unused (orderId : String) (among : orderId ∈ ["", "m2"]) :
        Unused forgotten.makers orderId "c2" := by
      intro order member
      have named := List.mem_map_of_mem (f := fun order : MakerOrder =>
        (order.orderId, order.clientOrderId)) member
      rw [names, List.mem_singleton, Prod.mk.injEq] at named
      rw [named.1, named.2]
      rcases List.mem_pair.mp among with rfl | rfl <;> decide
    exact fun orderId among => ⟨unused orderId among, unused orderId among⟩
  exact again.step (.venue 0 1 false) (by decide +kernel)
    ⟨_, rfl, by decide +kernel, by decide +kernel, by decide +kernel⟩ trivial

/-- An exhausted phase abandons its live order, and an order that follows a partial fill closes
more than the target. -/
theorem abandoned_and_overfilled :
    unitDrive.Fresh ∧ DriveRun bybitContext unitDrive (fun _ _ => True) abandoned ∧
      ¬ abandoned.HoldsOrder ∧
      DriveRun bybitContext unitDrive (fun _ _ => True) overfilled ∧
      overfilled.executedOn .long = 7 / 5 ∧ ¬ overfilled.WithinTarget := by
  have executed : overfilled.executedOn .long = 7 / 5 := by decide +kernel
  refine ⟨unitDrive_fresh, abandoned_run, ?_, overfilled_run, executed, ?_⟩
  · rintro ⟨-, held⟩
    have live : abandoned.makers.any MakerOrder.live = true := by decide +kernel
    obtain ⟨order, member, live⟩ := List.any_eq_true.mp live
    obtain ⟨-, ⟨named, -⟩ | ⟨named, -⟩⟩ := held order member live
    · exact named (by decide +kernel)
    · exact named (by decide +kernel)
  · intro within
    have long := within .long
    rw [executed] at long
    exact absurd long (by decide +kernel)

end Example

end PassiveDrive

end LightFee.Engine
