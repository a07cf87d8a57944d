import LightFee.Engine.PassiveClose

/-!
# Orders of a passive close

An order is claimed as an intent with its client order id before it is sent, and bound to the
venue's order id when it is acknowledged. The maker's order is looked up by the handle that
the phase state keeps of it.
-/

namespace LightFee.Engine

open LightFee.Venues

/-! ## Identities -/

/-- `_claim_close_order_intent`: the id is kept as a leg, and as the maker's handle. -/
def claimCloseOrderIntent (pending : PendingPassiveClose) (side : ActiveMakerLeg)
    (clientOrderId operation : String) (nowMs : Int) : PendingPassiveClose :=
  let legs := pending.legsOn side
  let claimed :=
    if legs.any (fun leg => decide (leg.clientOrderId = clientOrderId)) then pending
    else pending.setLegs side
      (legs ++ [{ clientOrderId := clientOrderId, submitStartedAtMs := nowMs }])
  if operation = "submit_passive_order" then
    { claimed with phaseState :=
        { claimed.phaseState with makerClientOrderId := clientOrderId } }
  else claimed

/-- A leg without an order id that was claimed for this client order id. -/
def awaitsOrderId (clientOrderId : String) (leg : PersistedCloseExecutionLeg) : Bool :=
  decide (leg.clientOrderId = clientOrderId) && decide (leg.orderId = "")

/-- The acknowledgement names an order that no leg knows. -/
def acknowledgesNew (legs : List PersistedCloseExecutionLeg) (orderId clientOrderId : String) :
    Bool :=
  decide (orderId ≠ "") && !legs.any (fun leg =>
    decide (leg.orderId = orderId) && decide (leg.clientOrderId = clientOrderId))

def acknowledgedLegs (legs : List PersistedCloseExecutionLeg) (orderId clientOrderId : String)
    (nowMs : Int) : List PersistedCloseExecutionLeg :=
  match changeFirst (awaitsOrderId clientOrderId) (fun leg => { leg with orderId := orderId })
      legs with
  | some legs => legs
  | none => legs ++
      [{ orderId := orderId, clientOrderId := clientOrderId, submitStartedAtMs := nowMs }]

/-- `_acknowledge_close_order_identity`: every distinct order id is kept. -/
def acknowledgeCloseOrderIdentity (pending : PendingPassiveClose) (side : ActiveMakerLeg)
    (orderId clientOrderId : String) (nowMs : Int) : PendingPassiveClose :=
  if acknowledgesNew (pending.legsOn side) orderId clientOrderId then
    pending.setLegs side (acknowledgedLegs (pending.legsOn side) orderId clientOrderId nowMs)
  else pending

/-! ## Submitting the maker's order -/

/-- An accepted resting order. -/
structure MakerAck where
  orderId : String
  clientOrderId : String := ""
  acceptedAtMs : Int := 0

/-- How a venue answers the submission. Another failure may hide an accepted order. -/
inductive MakerAnswer where
  | accepted (ack : MakerAck)
  | unsupported
  | rejected
  | failed

def maxMakerSubmitFailures : Int := 3

/-- Two seconds, doubled with each failure, up to a minute. -/
def makerSubmitBackoffMs (failures : Int) : Int := min (2000 * 2 ^ (failures - 1).toNat) 60000

namespace PendingPassiveClose

def setPhase (pending : PendingPassiveClose) (phase : PassiveExecutionPhase) :
    PendingPassiveClose :=
  { pending with phaseState := { pending.phaseState with phase := phase } }

/-- A claimed attempt of `_submit_maker_order`. -/
def claimMaker (pending : PendingPassiveClose) (side : ActiveMakerLeg) (clientOrderId : String)
    (nowMs : Int) : PendingPassiveClose :=
  let phase := pending.phaseState
  claimCloseOrderIntent
    { pending with
      phaseState :=
        { phase with
          missingL2TickConsecutiveCount := 0
          makerSubmitAttempt := phase.makerSubmitAttempt + 1 } }
    side clientOrderId "submit_passive_order" nowMs

/-- The handle names the accepted order. -/
def holdMaker (pending : PendingPassiveClose) (side : ActiveMakerLeg) (clientOrderId : String)
    (price : ExactFloat) (ack : MakerAck) (nowMs : Int) : PendingPassiveClose :=
  let held := if ack.clientOrderId = "" then clientOrderId else ack.clientOrderId
  acknowledgeCloseOrderIdentity
    { pending with
      phaseState :=
        { pending.phaseState with
          makerSubmitConsecutiveFailures := 0
          makerOrderId := ack.orderId
          makerClientOrderId := held
          makerRestingLimitPrice := some price
          makerRestingSinceMs := ack.acceptedAtMs } }
    side ack.orderId held nowMs

/-- An unclear failure is counted; too many end the passive phases. -/
def countMakerFailure (pending : PendingPassiveClose) (nowMs : Int) : PendingPassiveClose :=
  let failures := pending.phaseState.makerSubmitConsecutiveFailures + 1
  let counted := { pending with
    phaseState := { pending.phaseState with makerSubmitConsecutiveFailures := failures } }
  if maxMakerSubmitFailures ≤ failures then counted.setPhase .dualTaker
  else { counted with nextRetryAtMs := nowMs + makerSubmitBackoffMs failures }

/-- `_submit_maker_order` from the claim of its client order id. -/
def submitMakerOrder (pending : PendingPassiveClose) (side : ActiveMakerLeg)
    (clientOrderId : String) (price : ExactFloat) (nowMs : Int) (answer : MakerAnswer) :
    PendingPassiveClose :=
  let claimed := pending.claimMaker side clientOrderId nowMs
  match answer with
  | .accepted ack => claimed.holdMaker side clientOrderId price ack nowMs
  | .unsupported | .rejected => claimed.setPhase .dualTaker
  | .failed => claimed.countMakerFailure nowMs

/-- An exhausted first phase gives way to the second one: the maker changes its leg, its
order is forgotten, and both counters start again. -/
def switchPhase (pending : PendingPassiveClose) (nowMs : Int) : PendingPassiveClose :=
  { pending with
    phaseState :=
      { pending.phaseState with
        phase := .lowSlippageMaker
        activeMakerLeg := match pending.phaseState.preferredMakerLeg with
          | .long => .short
          | .short => .long
        zeroFillCyclesInPhase := 0
        cycleAttempt := 1
        phaseStartedAtMs := nowMs
        cycleStartedAtMs := nowMs
        makerOrderId := ""
        makerClientOrderId := ""
        makerRestingLimitPrice := none }
    makerFill := {}
    hedgeFill := {}
    nextRetryAtMs := 0 }

/-- A terminal order is forgotten. -/
def clearMaker (pending : PendingPassiveClose) : PendingPassiveClose :=
  { pending with
    phaseState :=
      { pending.phaseState with
        makerOrderId := ""
        makerClientOrderId := ""
        makerRestingLimitPrice := none
        makerRestingSinceMs := 0 } }

end PendingPassiveClose

/-! ## Legs under claims and acknowledgements -/

/-- What the persisted legs of a side show as executed. -/
def PendingPassiveClose.fillsOn (pending : PendingPassiveClose) (side : ActiveMakerLeg) :
    List OrderFill :=
  (pending.legsOn side).filterMap PersistedCloseExecutionLeg.fill

@[simp] theorem legsOn_setLegs (pending : PendingPassiveClose) (side other : ActiveMakerLeg)
    (legs : List PersistedCloseExecutionLeg) :
    (pending.setLegs side legs).legsOn other = if side = other then legs else pending.legsOn other := by
  cases side <;> cases other <;> rfl

/-- A change that keeps the fill of each leg keeps the fills. -/
theorem changeFirst_fills {qualifies : PersistedCloseExecutionLeg → Bool}
    {change : PersistedCloseExecutionLeg → PersistedCloseExecutionLeg}
    (keeps : ∀ leg, (change leg).fill = leg.fill)
    {legs changed : List PersistedCloseExecutionLeg}
    (found : changeFirst qualifies change legs = some changed) :
    changed.filterMap PersistedCloseExecutionLeg.fill =
      legs.filterMap PersistedCloseExecutionLeg.fill := by
  induction legs generalizing changed with
  | nil => exact absurd found (by simp [changeFirst])
  | cons leg rest hyp =>
    rw [changeFirst] at found
    split_ifs at found with here
    · obtain rfl := Option.some.inj found
      rw [List.filterMap_cons, List.filterMap_cons, keeps]
    · obtain ⟨tail, later, rfl⟩ := Option.map_eq_some_iff.mp found
      rw [List.filterMap_cons, List.filterMap_cons, hyp later]

theorem acknowledgedLegs_fills (legs : List PersistedCloseExecutionLeg)
    (orderId clientOrderId : String) (nowMs : Int) :
    (acknowledgedLegs legs orderId clientOrderId nowMs).filterMap PersistedCloseExecutionLeg.fill =
      legs.filterMap PersistedCloseExecutionLeg.fill := by
  rw [acknowledgedLegs]
  split
  · next changed found =>
    apply changeFirst_fills ?_ found
    intro leg
    rfl
  · simp

/-- Everything that the account of a maker's chunk reads stays. -/
structure PendingPassiveClose.KeepsMaker (before after : PendingPassiveClose) : Prop where
  makerFill : after.makerFill = before.makerFill
  activeMakerLeg : after.phaseState.activeMakerLeg = before.phaseState.activeMakerLeg
  chunkQuantities : after.chunkQuantities = before.chunkQuantities
  activeChunkIndex : after.activeChunkIndex = before.activeChunkIndex
  fills : after.fillsOn before.phaseState.activeMakerLeg =
    before.fillsOn before.phaseState.activeMakerLeg

namespace PendingPassiveClose

theorem KeepsMaker.refl (pending : PendingPassiveClose) : pending.KeepsMaker pending :=
  ⟨rfl, rfl, rfl, rfl, rfl⟩

theorem KeepsMaker.trans {first second third : PendingPassiveClose}
    (left : first.KeepsMaker second) (right : second.KeepsMaker third) :
    first.KeepsMaker third where
  makerFill := right.makerFill.trans left.makerFill
  activeMakerLeg := right.activeMakerLeg.trans left.activeMakerLeg
  chunkQuantities := right.chunkQuantities.trans left.chunkQuantities
  activeChunkIndex := right.activeChunkIndex.trans left.activeChunkIndex
  fills := by
    have later := right.fills
    rw [left.activeMakerLeg] at later
    exact later.trans left.fills

/-- A change of the legs of one side that keeps their fills. -/
theorem keepsMaker_setLegs (pending : PendingPassiveClose) (side : ActiveMakerLeg)
    {legs : List PersistedCloseExecutionLeg}
    (same : legs.filterMap PersistedCloseExecutionLeg.fill = pending.fillsOn side) :
    pending.KeepsMaker (pending.setLegs side legs) := by
  have fills (other : ActiveMakerLeg) :
      (pending.setLegs side legs).fillsOn other = pending.fillsOn other := by
    rw [fillsOn, legsOn_setLegs]
    split_ifs with equal
    · rw [← equal]
      exact same
    · rfl
  cases side <;> exact ⟨rfl, rfl, rfl, rfl, fills _⟩

theorem keepsMaker_claim (pending : PendingPassiveClose) (side : ActiveMakerLeg)
    (clientOrderId operation : String) (nowMs : Int) :
    pending.KeepsMaker (claimCloseOrderIntent pending side clientOrderId operation nowMs) := by
  have claimed : pending.KeepsMaker
      (if (pending.legsOn side).any (fun leg => decide (leg.clientOrderId = clientOrderId)) then
        pending
      else pending.setLegs side (pending.legsOn side ++
        [{ clientOrderId := clientOrderId, submitStartedAtMs := nowMs }])) := by
    split_ifs
    · exact .refl pending
    · exact keepsMaker_setLegs pending side (by simp [fillsOn])
  unfold claimCloseOrderIntent
  extract_lets legs kept
  split_ifs
  · exact ⟨claimed.makerFill, claimed.activeMakerLeg, claimed.chunkQuantities,
      claimed.activeChunkIndex, claimed.fills⟩
  · exact claimed

theorem keepsMaker_acknowledge (pending : PendingPassiveClose) (side : ActiveMakerLeg)
    (orderId clientOrderId : String) (nowMs : Int) :
    pending.KeepsMaker
      (acknowledgeCloseOrderIdentity pending side orderId clientOrderId nowMs) := by
  rw [acknowledgeCloseOrderIdentity]
  split_ifs
  · exact keepsMaker_setLegs pending side (acknowledgedLegs_fills _ _ _ _)
  · exact .refl pending

/-- A submission leaves the account of the maker alone, whatever the answer. -/
theorem keepsMaker_submit (pending : PendingPassiveClose) (side : ActiveMakerLeg)
    (clientOrderId : String) (price : ExactFloat) (nowMs : Int) (answer : MakerAnswer) :
    pending.KeepsMaker (pending.submitMakerOrder side clientOrderId price nowMs answer) := by
  have claimed : pending.KeepsMaker (pending.claimMaker side clientOrderId nowMs) := by
    have begun : pending.KeepsMaker { pending with
        phaseState :=
          { pending.phaseState with
            missingL2TickConsecutiveCount := 0
            makerSubmitAttempt := pending.phaseState.makerSubmitAttempt + 1 } } :=
      ⟨rfl, rfl, rfl, rfl, rfl⟩
    exact begun.trans (keepsMaker_claim _ side clientOrderId "submit_passive_order" nowMs)
  have phased (before : PendingPassiveClose) (phase : PassiveExecutionPhase) :
      before.KeepsMaker (before.setPhase phase) := ⟨rfl, rfl, rfl, rfl, rfl⟩
  apply claimed.trans
  cases answer with
  | accepted ack =>
    have held (kept : String) : (pending.claimMaker side clientOrderId nowMs).KeepsMaker
        { pending.claimMaker side clientOrderId nowMs with
          phaseState :=
            { (pending.claimMaker side clientOrderId nowMs).phaseState with
              makerSubmitConsecutiveFailures := 0
              makerOrderId := ack.orderId
              makerClientOrderId := kept
              makerRestingLimitPrice := some price
              makerRestingSinceMs := ack.acceptedAtMs } } := ⟨rfl, rfl, rfl, rfl, rfl⟩
    exact (held _).trans (keepsMaker_acknowledge _ side _ _ nowMs)
  | unsupported => exact phased _ _
  | rejected => exact phased _ _
  | failed =>
    change KeepsMaker _ (countMakerFailure _ nowMs)
    rw [countMakerFailure]
    split_ifs <;> exact ⟨rfl, rfl, rfl, rfl, rfl⟩

theorem keepsMaker_clear (pending : PendingPassiveClose) :
    pending.KeepsMaker pending.clearMaker := ⟨rfl, rfl, rfl, rfl, rfl⟩

end PendingPassiveClose

end LightFee.Engine
