import LightFee.Engine.EntryReconciliation
import LightFee.Engine.EntrySync

/-!
# Writers of an entry's counters

Polling, hedge answers and the write-back of a reconciliation raise the counters of the two
legs, each at most to the quantity it was given, and leave the entry's orders alone. A quantity
that is more than dust beyond a counter is reached.
-/

namespace LightFee.Engine

open LightFee.Venues

/-! ## Legs -/

/-- The counter of a leg. -/
def PendingEntry.legFilled (pending : PendingEntry ℚ) : EntryLeg → ℚ
  | .maker => pending.makerLegFilled
  | .hedge => pending.hedgeLegFilled

/-- What the maker or the hedge leg is on the venues. -/
def PendingEntry.physicalLeg (pending : PendingEntry ℚ) : EntryLeg → PhysicalLeg
  | .maker => if pending.makerLeg = "long" then .long else .short
  | .hedge => if pending.makerLeg = "long" then .short else .long

/-- What a write-back of a leg does not count. -/
def PendingEntry.writeBackDust : EntryLeg → ℚ
  | .maker => 0
  | .hedge => 1 / 10 ^ 12

/-! ## What a step leaves alone -/

/-- What an accepted maker order brought to the entry. -/
def PendingPassiveOrder.basis (order : PendingPassiveOrder ℚ) : ℚ × ℚ :=
  (order.targetQuantity, order.fillCheckpointQuantity)

/-- Maker leg, maker order and checkpoint stay. -/
structure PendingEntry.SameOrders (before after : PendingEntry ℚ) : Prop where
  makerLeg : after.makerLeg = before.makerLeg
  makerOrderId : before.makerOrderId ≠ "" → after.makerOrderId = before.makerOrderId
  makerClientOrderId : after.makerClientOrderId = before.makerClientOrderId
  passiveOrder : after.passiveOrder.map PendingPassiveOrder.basis =
    before.passiveOrder.map PendingPassiveOrder.basis

/-- One counter rises, at most to the quantity that is reported. -/
structure PendingEntry.Raises (before after : PendingEntry ℚ) (leg : EntryLeg)
    (quantity : ℚ) : Prop where
  same : before.SameOrders after
  other : ∀ other, other ≠ leg → after.legFilled other = before.legFilled other
  grows : before.legFilled leg ≤ after.legFilled leg
  within : after.legFilled leg ≤ max (before.legFilled leg) quantity

/-- The counters rise, at most to the legs' totals. -/
structure PendingEntry.Climbs (before after : PendingEntry ℚ) (totals : EntryLeg → ℚ) :
    Prop where
  same : before.SameOrders after
  grows : ∀ leg, before.legFilled leg ≤ after.legFilled leg
  within : ∀ leg, after.legFilled leg ≤ max (before.legFilled leg) (totals leg)

namespace PendingEntry

theorem SameOrders.refl (pending : PendingEntry ℚ) : pending.SameOrders pending :=
  ⟨rfl, fun _ => rfl, rfl, rfl⟩

theorem SameOrders.trans {first second third : PendingEntry ℚ} (left : first.SameOrders second)
    (right : second.SameOrders third) : first.SameOrders third where
  makerLeg := right.makerLeg.trans left.makerLeg
  makerOrderId named := by
    have kept := left.makerOrderId named
    rw [right.makerOrderId (kept ▸ named), kept]
  makerClientOrderId := right.makerClientOrderId.trans left.makerClientOrderId
  passiveOrder := right.passiveOrder.trans left.passiveOrder

theorem Raises.refl (pending : PendingEntry ℚ) (leg : EntryLeg) (quantity : ℚ) :
    pending.Raises pending leg quantity :=
  ⟨.refl pending, fun _ _ => rfl, le_rfl, le_max_left _ _⟩

theorem Climbs.refl (pending : PendingEntry ℚ) (totals : EntryLeg → ℚ) :
    pending.Climbs pending totals :=
  ⟨.refl pending, fun _ => le_rfl, fun _ => le_max_left _ _⟩

theorem Climbs.trans {first second third : PendingEntry ℚ} {totals : EntryLeg → ℚ}
    (left : first.Climbs second totals) (right : second.Climbs third totals) :
    first.Climbs third totals where
  same := left.same.trans right.same
  grows leg := (left.grows leg).trans (right.grows leg)
  within leg := (right.within leg).trans (max_le (left.within leg) (le_max_right _ _))

theorem Raises.climbs {before after : PendingEntry ℚ} {leg : EntryLeg} {quantity : ℚ}
    (raises : before.Raises after leg quantity) {totals : EntryLeg → ℚ}
    (within : quantity ≤ totals leg) : before.Climbs after totals where
  same := raises.same
  grows other := by
    by_cases same : other = leg
    · rw [same]
      exact raises.grows
    · exact (raises.other other same).ge
  within other := by
    by_cases same : other = leg
    · rw [same]
      exact raises.within.trans (max_le_max le_rfl within)
    · exact (raises.other other same).le.trans (le_max_left _ _)

/-- A hedge order that is no longer in flight changes no counter. -/
theorem Raises.answered {before after : PendingEntry ℚ} {leg : EntryLeg} {quantity : ℚ}
    (raises : before.Raises after leg quantity) :
    before.Raises { after with hedgeInflight := none } leg quantity := by
  have same : ∀ leg, ({ after with hedgeInflight := none } : PendingEntry ℚ).legFilled leg =
      after.legFilled leg := by
    intro leg
    cases leg <;> rfl
  refine ⟨⟨raises.same.makerLeg, raises.same.makerOrderId, raises.same.makerClientOrderId,
    raises.same.passiveOrder⟩, ?_, ?_, ?_⟩
  · exact fun other differs => (same other).trans (raises.other other differs)
  · exact raises.grows.trans (same leg).ge
  · exact (same leg).le.trans raises.within

theorem textOr_left {first : String} (second : String) (given : first ≠ "") :
    textOr first second = first := if_neg given

/-! ## Writers of the counters -/

theorem fifo_sameOrders (pending : PendingEntry ℚ) (quantity : ℚ) :
    pending.SameOrders (pending.consumeHedgeQuantityFifo quantity).1 := by
  unfold consumeHedgeQuantityFifo pushMakerRemainderSlice
  dsimp only
  split_ifs <;> exact ⟨rfl, fun _ => rfl, rfl, rfl⟩

/-- A hedge report raises the counter to the reported total, unless by less than dust. -/
theorem hedgeProgress_raises (pending : PendingEntry ℚ) (report : HedgeProgress) :
    pending.Raises (applyPendingEntryHedgeProgress pending report).1 .hedge
      report.newTotalQuantity := by
  by_cases counted : 1 / 10 ^ 12 <
      max (max report.newTotalQuantity pending.hedgeLegFilled - pending.hedgeLegFilled) 0
  · simp only [applyPendingEntryHedgeProgress, if_pos counted]
    generalize taken :
      max (max report.newTotalQuantity pending.hedgeLegFilled - pending.hedgeLegFilled) 0 = more
    have frame := fifo_frame
      { pending with hedgeLegFilled := max report.newTotalQuantity pending.hedgeLegFilled } more
    have same := fifo_sameOrders
      { pending with hedgeLegFilled := max report.newTotalQuantity pending.hedgeLegFilled } more
    refine ⟨⟨same.makerLeg, same.makerOrderId, same.makerClientOrderId, same.passiveOrder⟩, ?_,
      ?_, ?_⟩
    · intro other differs
      cases other with
      | maker => exact frame.1
      | hedge => exact absurd rfl differs
    · exact (le_max_right _ _).trans frame.2.2.ge
    · exact (frame.2.2.trans (max_comm _ _)).le
  · simp only [applyPendingEntryHedgeProgress, if_neg counted]
    refine ⟨⟨rfl, fun _ => rfl, rfl, rfl⟩, ?_, le_rfl, le_max_left _ _⟩
    intro other _
    cases other <;> rfl

theorem hedgeProgress_reaches (pending : PendingEntry ℚ) (report : HedgeProgress)
    (counts : report.newTotalQuantity ≤ pending.hedgeLegFilled ∨
      pending.hedgeLegFilled + 1 / 10 ^ 12 < report.newTotalQuantity) :
    report.newTotalQuantity ≤ (applyPendingEntryHedgeProgress pending report).1.hedgeLegFilled := by
  rcases counts with known | more
  · exact known.trans (hedgeProgress_raises pending report).grows
  · have ahead : max report.newTotalQuantity pending.hedgeLegFilled = report.newTotalQuantity :=
      max_eq_left (by linarith [show (0 : ℚ) < 1 / 10 ^ 12 by norm_num])
    have counted : 1 / 10 ^ 12 < max (report.newTotalQuantity - pending.hedgeLegFilled) 0 :=
      lt_max_of_lt_left (by linarith)
    unfold applyPendingEntryHedgeProgress
    dsimp only
    rw [ahead, if_pos counted]
    exact (fifo_frame { pending with hedgeLegFilled := report.newTotalQuantity } _).2.2.ge

/-- The leg of the entry that a physical leg is. -/
def entryLeg (pending : PendingEntry ℚ) (leg : PhysicalLeg) : EntryLeg :=
  if pending.makerLeg = leg.name then .maker else .hedge

theorem writeBackFill_raises (pending : PendingEntry ℚ) (leg : PhysicalLeg)
    (result : LegReconciliation) :
    (result.fill = none ∧ pending.writeBackFill leg result = pending) ∨
      ∃ fill, result.fill = some fill ∧
        pending.Raises (pending.writeBackFill leg result) (pending.entryLeg leg)
          fill.quantity := by
  unfold writeBackFill
  cases found : result.fill with
  | none => exact .inl ⟨rfl, rfl⟩
  | some fill =>
    refine .inr ⟨fill, rfl, ?_⟩
    dsimp only
    split_ifs with nothing maker more more
    · exact .refl pending _ _
    · rw [entryLeg, if_pos maker]
      refine ⟨⟨rfl, fun _ => rfl, rfl, rfl⟩, ?_, more.le, le_max_right _ _⟩
      intro other differs
      cases other with
      | maker => exact absurd rfl differs
      | hedge => rfl
    · exact .refl pending _ _
    · rw [entryLeg, if_neg maker]
      exact hedgeProgress_raises pending _
    · exact .refl pending _ _

/-- A fill that the leg's counter can count is counted. -/
theorem writeBackFill_reaches (pending : PendingEntry ℚ) (leg : PhysicalLeg)
    {result : LegReconciliation} {fill : LegFill} (found : result.fill = some fill)
    (positive : 0 ≤ pending.legFilled (pending.entryLeg leg))
    (counts : fill.quantity ≤ pending.legFilled (pending.entryLeg leg) ∨
      pending.legFilled (pending.entryLeg leg) + writeBackDust (pending.entryLeg leg) <
        fill.quantity) :
    fill.quantity ≤ (pending.writeBackFill leg result).legFilled (pending.entryLeg leg) := by
  unfold writeBackFill
  rw [found]
  dsimp only
  split_ifs with nothing maker more more
  · exact nothing.trans positive
  · rw [entryLeg, if_pos maker]
    exact le_rfl
  · rw [entryLeg, if_pos maker]
    exact not_lt.mp more
  · rw [entryLeg, if_neg maker] at counts ⊢
    exact hedgeProgress_reaches pending _ counts
  · rw [entryLeg, if_neg maker]
    exact not_lt.mp more

theorem raised_within (counter quantity : ℚ) :
    counter ≤ (if counter < quantity then quantity else counter) ∧
      (if counter < quantity then quantity else counter) ≤ max counter quantity := by
  by_cases more : counter < quantity
  · rw [if_pos more]
    exact ⟨more.le, le_max_right _ _⟩
  · rw [if_neg more]
    exact ⟨le_rfl, le_max_left _ _⟩

theorem writeBackMakerPosition_raises (pending : PendingEntry ℚ) (recoveryId status : String)
    (position : LegPosition) :
    (status ≠ "filled" ∧ pending.writeBackMakerPosition recoveryId status position = pending) ∨
      (status = "filled" ∧
        pending.Raises (pending.writeBackMakerPosition recoveryId status position) .maker
          |position.quantity|) := by
  unfold writeBackMakerPosition
  by_cases filled : status = "filled"
  · rw [if_pos filled]
    have bounds := raised_within pending.makerLegFilled |position.quantity|
    refine .inr ⟨filled, ⟨rfl, fun named => textOr_left _ named, rfl, rfl⟩, ?_, bounds.1, bounds.2⟩
    intro other differs
    cases other with
    | maker => exact absurd rfl differs
    | hedge => rfl
  · rw [if_neg filled]
    exact .inl ⟨filled, rfl⟩

theorem writeBackHedgePosition_raises (pending : PendingEntry ℚ) (recoveryId : String)
    (position : LegPosition) :
    pending.Raises (pending.writeBackHedgePosition recoveryId position) .hedge
      |position.quantity| := by
  unfold writeBackHedgePosition
  by_cases more : pending.hedgeLegFilled < |position.quantity|
  · simp only [if_pos more]
    have raises := hedgeProgress_raises pending
      { newTotalQuantity := |position.quantity|
        price := position.entryPrice
        orderId := if pending.hedgeOrderId = "" then recoveryId else "" }
    refine ⟨⟨raises.same.makerLeg, raises.same.makerOrderId, raises.same.makerClientOrderId,
      raises.same.passiveOrder⟩, ?_, raises.grows, raises.within⟩
    intro other differs
    cases other with
    | maker => exact raises.other .maker differs
    | hedge => exact absurd rfl differs
  · simp only [if_neg more]
    refine ⟨⟨rfl, fun _ => rfl, rfl, rfl⟩, ?_, le_rfl, le_max_left _ _⟩
    intro other _
    cases other <;> rfl

/-- What a position raises, when it raises something. -/
theorem writeBackPosition_raises (pending : PendingEntry ℚ) (entryId : String)
    (leg : PhysicalLeg) (result : LegReconciliation) :
    pending.writeBackPosition entryId leg result = pending ∨
      ∃ position, result.position = some position ∧
        (pending.entryLeg leg = .maker → result.status = "filled") ∧
        pending.Raises (pending.writeBackPosition entryId leg result) (pending.entryLeg leg)
          |position.quantity| := by
  unfold writeBackPosition
  cases result.position with
  | none => exact .inl rfl
  | some position =>
    dsimp only
    split_ifs with flat maker
    · exact .inl rfl
    · rcases writeBackMakerPosition_raises pending (recoveryOrderId entryId leg) result.status
        position with ⟨_, same⟩ | ⟨filled, raises⟩
      · exact .inl same
      · rw [entryLeg, if_pos maker]
        exact .inr ⟨position, rfl, fun _ => filled, raises⟩
    · rw [entryLeg, if_neg maker]
      exact .inr ⟨position, rfl, fun impossible => (nomatch impossible),
        writeBackHedgePosition_raises pending _ position⟩

/-- Raising the maker fill pushes a slice and touches nothing else of the entry's orders. -/
theorem raiseMakerFill_same (pending : PendingEntry ℚ) (quantity : ℚ)
    (progress : PassiveOrderProgress) :
    let after := pending.raiseMakerFill quantity progress
    pending.SameOrders after ∧ after.makerLegFilled = quantity ∧
      after.hedgeLegFilled = pending.hedgeLegFilled := by
  unfold raiseMakerFill pushMakerRemainderSlice
  dsimp only
  by_cases dust : max 0 (quantity - pending.makerLegFilled) ≤ quantityDust
  · rw [if_pos dust]
    exact ⟨⟨rfl, fun _ => rfl, rfl, rfl⟩, rfl, rfl⟩
  · rw [if_neg dust]
    exact ⟨⟨rfl, fun _ => rfl, rfl, rfl⟩, rfl, rfl⟩

/-- A report of the passive order raises the maker counter to what the order brings it to. -/
theorem passiveProgress_raises {pending : PendingEntry ℚ} {passive : PendingPassiveOrder ℚ}
    (current : pending.passiveOrder = some passive) (progress : PassiveOrderProgress) :
    let updated := passive.updatedQuantity progress.cumulativeQuantity
    let after := (applyPendingEntryPassiveProgress pending (some progress)).1
    pending.Raises after .maker updated ∧
      (pending.makerLegFilled + quantityDust < updated → after.makerLegFilled = updated) := by
  intro updated after
  let reported := { passive with
    lastProgressState := progress.state.getD passive.lastProgressState }
  let observed := { pending with passiveOrder := some reported }
  have observing : pending.SameOrders observed :=
    ⟨rfl, fun _ => rfl, rfl, by rw [current]; rfl⟩
  have shape : after = if pending.makerLegFilled + quantityDust < updated then
      observed.raiseMakerFill updated progress else observed := by
    simp only [after, applyPendingEntryPassiveProgress, current]
    rfl
  by_cases more : pending.makerLegFilled + quantityDust < updated
  · have raise := raiseMakerFill_same observed updated progress
    rw [if_pos more] at shape
    refine ⟨⟨?_, ?_, ?_, ?_⟩, ?_⟩
    · rw [shape]
      exact observing.trans raise.1
    · intro other differs
      cases other with
      | maker => exact absurd rfl differs
      | hedge =>
        rw [shape]
        exact raise.2.2
    · change pending.makerLegFilled ≤ after.makerLegFilled
      rw [shape, raise.2.1]
      linarith [dust_pos]
    · change after.makerLegFilled ≤ _
      rw [shape, raise.2.1]
      exact le_max_right _ _
    · intro _
      rw [shape, raise.2.1]
  · rw [if_neg more] at shape
    refine ⟨⟨?_, ?_, ?_, ?_⟩, fun counted => absurd counted more⟩
    · rw [shape]
      exact observing
    · intro other _
      rw [shape]
      cases other <;> rfl
    · rw [shape]
      exact le_rfl
    · rw [shape]
      exact le_max_left _ _

end PendingEntry

/-! ## The write-back of both legs -/

namespace PendingEntry

variable {pending : PendingEntry ℚ}

theorem entryLeg_same {after : PendingEntry ℚ} (same : pending.SameOrders after)
    (leg : PhysicalLeg) : after.entryLeg leg = pending.entryLeg leg := by
  rw [entryLeg, entryLeg, same.makerLeg]

theorem entryLeg_physicalLeg (makerLeg : pending.makerLeg = "long" ∨ pending.makerLeg = "short")
    (leg : EntryLeg) : pending.entryLeg (pending.physicalLeg leg) = leg := by
  rcases makerLeg with named | named <;> cases leg <;>
    simp [entryLeg, physicalLeg, named, PhysicalLeg.name]

theorem physicalLeg_entryLeg (makerLeg : pending.makerLeg = "long" ∨ pending.makerLeg = "short")
    (leg : PhysicalLeg) : pending.physicalLeg (pending.entryLeg leg) = leg := by
  rcases makerLeg with named | named <;> cases leg <;>
    simp [entryLeg, physicalLeg, named, PhysicalLeg.name]

/-- The legs of a result are within totals: its fills, and the positions that can be written. -/
structure Bounds (pending : PendingEntry ℚ) (result : EntryReconciliation)
    (totals : EntryLeg → ℚ) : Prop where
  fill : ∀ leg fill, (result.leg leg).fill = some fill →
    fill.quantity ≤ totals (pending.entryLeg leg)
  position : ∀ leg position, (result.leg leg).position = some position →
    (pending.entryLeg leg = .maker → (result.leg leg).status = "filled") →
      |position.quantity| ≤ totals (pending.entryLeg leg)

theorem Bounds.same {after : PendingEntry ℚ} {result : EntryReconciliation}
    {totals : EntryLeg → ℚ} (bounds : pending.Bounds result totals)
    (same : pending.SameOrders after) : after.Bounds result totals where
  fill leg fill found := entryLeg_same same leg ▸ bounds.fill leg fill found
  position leg position found filled := by
    rw [entryLeg_same same leg] at filled ⊢
    exact bounds.position leg position found filled

theorem writeBackFill_climbs {result : EntryReconciliation} {totals : EntryLeg → ℚ}
    (bounds : pending.Bounds result totals) (leg : PhysicalLeg) :
    pending.Climbs (pending.writeBackFill leg (result.leg leg)) totals := by
  rcases writeBackFill_raises pending leg (result.leg leg) with ⟨_, same⟩ | ⟨fill, found, raises⟩
  · rw [same]
    exact .refl pending totals
  · exact raises.climbs (bounds.fill leg fill found)

theorem writeBackPosition_climbs {result : EntryReconciliation} {totals : EntryLeg → ℚ}
    (bounds : pending.Bounds result totals) (entryId : String) (leg : PhysicalLeg) :
    pending.Climbs (pending.writeBackPosition entryId leg (result.leg leg)) totals := by
  rcases writeBackPosition_raises pending entryId leg (result.leg leg) with
    same | ⟨position, found, filled, raises⟩
  · rw [same]
    exact .refl pending totals
  · exact raises.climbs (bounds.position leg position found filled)

theorem writeBackLegs_climbs {result : EntryReconciliation} {totals : EntryLeg → ℚ}
    (bounds : pending.Bounds result totals) (entryId : String) :
    ((pending.writeBackFill .long result.long).writeBackFill .short result.short).Climbs
        (pending.writeBackLegs entryId result) totals ∧
      pending.Climbs (pending.writeBackLegs entryId result) totals := by
  have first := writeBackFill_climbs bounds .long
  have second := first.trans (writeBackFill_climbs (bounds.same first.same) .short)
  have third := writeBackPosition_climbs (bounds.same second.same) entryId .long
  have fourth := writeBackPosition_climbs (bounds.same (second.trans third).same) entryId .short
  exact ⟨third.trans fourth, second.trans (third.trans fourth)⟩

/-- Both legs' fills are counted, since each is written to a counter of its own. -/
theorem writeBackLegs_reaches {result : EntryReconciliation} {totals : EntryLeg → ℚ}
    (makerLeg : pending.makerLeg = "long" ∨ pending.makerLeg = "short")
    (bounds : pending.Bounds result totals) (entryId : String)
    (positive : ∀ leg, 0 ≤ pending.legFilled leg) {leg : PhysicalLeg} {fill : LegFill}
    (found : (result.leg leg).fill = some fill)
    (counts : fill.quantity ≤ pending.legFilled (pending.entryLeg leg) ∨
      pending.legFilled (pending.entryLeg leg) + writeBackDust (pending.entryLeg leg) <
        fill.quantity) :
    fill.quantity ≤ (pending.writeBackLegs entryId result).legFilled (pending.entryLeg leg) := by
  have later := (writeBackLegs_climbs bounds entryId).1.grows (pending.entryLeg leg)
  refine le_trans ?_ later
  have first := writeBackFill_climbs bounds .long
  cases leg with
  | long =>
    exact (writeBackFill_reaches pending .long found (positive _) counts).trans
      ((writeBackFill_climbs (bounds.same first.same) .short).grows _)
  | short =>
    have differs : pending.entryLeg .short ≠ pending.entryLeg .long := by
      rcases makerLeg with named | named <;> simp [entryLeg, named, PhysicalLeg.name]
    have untouched : (pending.writeBackFill .long result.long).legFilled (pending.entryLeg .short) =
        pending.legFilled (pending.entryLeg .short) := by
      rcases writeBackFill_raises pending .long result.long with ⟨_, same⟩ | ⟨_, _, raises⟩
      · rw [same]
      · exact raises.other _ differs
    have same := entryLeg_same first.same .short
    have reached := writeBackFill_reaches (pending.writeBackFill .long result.long) .short
      (show result.short.fill = some fill from found)
    rw [show (pending.writeBackFill .long result.long).entryLeg .short =
      pending.entryLeg .short from same, untouched] at reached
    exact reached (positive _) counts

end PendingEntry

end LightFee.Engine
