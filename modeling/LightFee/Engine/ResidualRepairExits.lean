import LightFee.Engine.ResidualRepairReplay
import Mathlib.Tactic.Linarith

/-!
# Why a residual repair is dropped

A repair that leaves without a successor is proven settled when the venue's position was seen
without excess and no order was open, when confirmed fills cover the excess that was seen, or when
that excess is below the venue's minimum. Nine exits drop a repair. What each of them proves
depends on the answers it got: a position that is missing is read as flat, a fill of an accepted
order is compared with the recorded quantity, and a refused client order id clears on a flat
position alone.

The gates of a pair are let go of by the first of its repairs that is dropped.
-/

namespace LightFee.Engine

open LightFee.Venues ExactFloat

/-! ## Proof -/

namespace RepairTask

/-- The venue and the side that a task names. -/
def direction [TextCase] (task : RepairTask) : Option (Venue × Side) :=
  let venueRaw := if task.repairVenue = "" then task.exposureVenue else task.repairVenue
  let sideRaw := if task.repairSide = "" then task.exposureSide else task.repairSide
  match Venue.fromStr venueRaw, sideFromText sideRaw with
  | some venue, some side => some (venue, side)
  | _, _ => none

def namedQuantity (task : RepairTask) : ExactFloat :=
  task.repairQuantity.getD (task.exposureQuantity.getD (.finite 0))

theorem fields_of_direction [TextCase] {task : RepairTask} {venue : Venue} {side : Side}
    (direction : task.direction = some (venue, side)) :
    task.fields =
      if task.namedQuantity.le flatDust then none else some (venue, side, task.namedQuantity) := by
  unfold RepairTask.direction at direction
  unfold fields namedQuantity
  dsimp only at direction ⊢
  generalize Venue.fromStr _ = readVenue at direction ⊢
  generalize sideFromText _ = readSide at direction ⊢
  cases readVenue with
  | none => cases direction
  | some other =>
    cases readSide with
    | none => cases direction
    | some otherSide =>
      cases direction
      rfl

end RepairTask

namespace RepairWork

section Proof

variable (work : RepairWork) (side : Side)

/-- The excess that a position shows. -/
def excessOf (position : Option LivePosition) : ExactFloat :=
  liveExcess side (signedPositionSize position) work.baseline

/-- The position was seen, without excess, and the look found no open order. -/
def SeenFlat (look : RepairLook) (position : Option LivePosition) : Prop :=
  ∃ seen ∈ position, (work.excessOf side (some seen)).le flatDust = true ∧
    look.openOrderCount = 0

/-- The executed quantities cover the excess that was seen. -/
def FillsCover (look : RepairLook) (executed : List ExactFloat) : Prop :=
  ∃ seen ∈ look.positionOf work.venue,
    (finite 0).lt (ExactFloat.sum executed) = true ∧
      ((work.excessOf side (some seen)).sub (ExactFloat.sum executed)).le flatDust = true

/-- The quantity as the adapter normalizes it. -/
def normalized (quantity : ExactFloat) : Option ExactFloat :=
  match work.answers.normalizeQuantity with
  | none => some quantity
  | some (.ok rounded) => some rounded
  | some (.error _) => none

/-- What an order for the excess of the seen position would be rounds to nothing, or is below the
venue's minimum notional. -/
def BelowMinimum (look : RepairLook) : Prop :=
  ∃ seen ∈ look.positionOf work.venue,
    ∃ quantity ∈ work.normalized (work.excessOf side (some seen)),
      quantity.le flatDust = true ∨
        work.belowMinNotional
          { task := work.task
            side := side
            excess := work.excessOf side (some seen)
            look := look } quantity = true

/-- The side that the task was worked on with. -/
def sideIn (evidence : RepairEvidence) : Side := evidence.side.getD work.side

/-- What was seen and confirmed proves that the task may be dropped. -/
inductive DropProven (evidence : RepairEvidence) : Prop
  | flat (look : RepairLook) (looked : evidence.look = some look)
      (seen : work.SeenFlat (work.sideIn evidence) look (look.positionOf work.venue))
  | flatAfterRefusal (look : RepairLook) (looked : evidence.look = some look)
      (position : Option LivePosition) (asked : evidence.refusedPosition = some position)
      (seen : work.SeenFlat (work.sideIn evidence) look position)
  | flatAfterAcceptance (look : RepairLook) (looked : evidence.acceptedLook = some look)
      (seen : work.SeenFlat (work.sideIn evidence) look (look.positionOf work.venue))
  | covered (look : RepairLook) (looked : evidence.look = some look)
      (fills : work.FillsCover (work.sideIn evidence) look evidence.executed)
  | belowMinimum (look : RepairLook) (looked : evidence.look = some look)
      (dust : work.BelowMinimum (work.sideIn evidence) look)

/-! ## What the exits rest on -/

/-- A look was answered with the repair venue's position. -/
def Answered (look : Option RepairLook) : Prop :=
  ∃ answered ∈ look, (answered.positionOf work.venue).isSome

/-- After the refusal of a client order id the position was seen flat. -/
def RefusedFlat (evidence : RepairEvidence) : Prop :=
  ∃ look ∈ evidence.look, ∃ position ∈ evidence.refusedPosition,
    work.SeenFlat (work.sideIn evidence) look position

def Covered (evidence : RepairEvidence) : Prop :=
  ∃ look ∈ evidence.look, work.FillsCover (work.sideIn evidence) look evidence.executed

/-- The position was seen, and its excess less the executed quantity is a number. -/
def Comparable (evidence : RepairEvidence) : Prop :=
  ∃ look ∈ evidence.look, ∃ seen ∈ look.positionOf work.venue,
    (work.excessOf (work.sideIn evidence) (some seen)).sub
      (ExactFloat.sum evidence.executed) ≠ .notANumber

/-- What an exit needs of the answers to be proven. -/
def DropBacked (evidence : RepairEvidence) : RepairExit → Prop
  | .acceptedFill => False
  | .acceptedFlat => work.Answered evidence.acceptedLook
  | .alreadyFlat | .minQuantityDust => work.Answered evidence.look
  | .minNotionalDust => True
  | .duplicateCleared => work.RefusedFlat evidence ∨ work.Covered evidence
  | .submittedFill | .filled => work.Comparable evidence ∨ work.RefusedFlat evidence
  | .submittedFlat => work.Answered evidence.acceptedLook ∨ work.RefusedFlat evidence ∨
      work.Covered evidence

/-- Where the turn drops the task, it is proven just when the exit is backed. -/
def Judged (decision : RepairDecision) : Prop :=
  ∀ exit, decision.outcome = .left exit none →
    (work.DropProven decision.evidence ↔ work.DropBacked decision.evidence exit)

end Proof

section Judging

variable (work : RepairWork)

/-- A task that stays, or has a successor, needs no proof. -/
theorem judged_of_stays {decision : RepairDecision}
    (stays : ∀ exit, decision.outcome ≠ .left exit none) : work.Judged decision :=
  fun exit dropped => absurd dropped (stays exit)

variable {work}

theorem answered_of_seen {look : Option RepairLook} {answered : RepairLook} {seen : LivePosition}
    (looked : look = some answered) (position : seen ∈ answered.positionOf work.venue) :
    work.Answered look := by
  refine ⟨answered, looked, ?_⟩
  rw [Option.mem_def.mp position]
  rfl

/-- Without a refusal and an acceptance, a proof is from the look. -/
theorem answered_of_proven {evidence : RepairEvidence} (refused : evidence.refusedPosition = none)
    (accepted : evidence.acceptedLook = none) (proven : work.DropProven evidence) :
    work.Answered evidence.look := by
  cases proven with
  | flat look looked seen =>
    obtain ⟨position, present, _⟩ := seen
    exact answered_of_seen looked present
  | flatAfterRefusal look looked position asked seen =>
    rw [refused] at asked
    cases asked
  | flatAfterAcceptance look looked seen =>
    rw [accepted] at looked
    cases looked
  | covered look looked fills =>
    obtain ⟨position, present, _⟩ := fills
    exact answered_of_seen looked present
  | belowMinimum look looked dust =>
    obtain ⟨position, present, _⟩ := dust
    exact answered_of_seen looked present

/-- Only the look after an acceptance can prove what the first look was not taken for. -/
theorem accepted_of_proven {evidence : RepairEvidence} (unlooked : evidence.look = none)
    (proven : work.DropProven evidence) :
    ∃ look, evidence.acceptedLook = some look ∧
      work.SeenFlat (work.sideIn evidence) look (look.positionOf work.venue) := by
  cases proven with
  | flatAfterAcceptance look looked seen => exact ⟨look, looked, seen⟩
  | flat look looked _ | flatAfterRefusal look looked _ _ _ | covered look looked _
  | belowMinimum look looked _ =>
    rw [unlooked] at looked
    cases looked

/-! ## Accepted orders -/

variable (work)

/-- A look after an acceptance that is taken for flat shows no excess and no open order. -/
theorem look_after_acceptance_flat {look : Option RepairLook}
    (flat : work.lookAfterAcceptance = (.liveFlat, look)) :
    ∃ answered, look = some answered ∧
      (work.excessOf work.side (answered.positionOf work.venue)).le flatDust = true ∧
      answered.openOrderCount = 0 := by
  unfold lookAfterAcceptance at flat
  split at flat
  · cases flat
  · rename_i answered _
    dsimp only at flat
    split at flat
    · cases flat
    · rename_i noOrder
      split at flat
      · rename_i noExcess
        cases flat
        exact ⟨answered, rfl, noExcess, Nat.eq_zero_of_not_pos noOrder⟩
      · cases flat

theorem look_after_acceptance_not_filled {quantity : ExactFloat} {look : Option RepairLook} :
    work.lookAfterAcceptance ≠ (.filled quantity, look) := by
  intro filled
  unfold lookAfterAcceptance at filled
  split at filled
  · cases filled
  · dsimp only at filled
    split at filled
    · cases filled
    · split at filled <;> cases filled

variable [TextCase]

theorem resolved_flat {look : Option RepairLook}
    (flat : work.resolveAcceptedOrder = (.liveFlat, look)) :
    ∃ answered, look = some answered ∧
      (work.excessOf work.side (answered.positionOf work.venue)).le flatDust = true ∧
      answered.openOrderCount = 0 := by
  unfold resolveAcceptedOrder at flat
  split at flat
  · exact work.look_after_acceptance_flat flat
  · cases flat
  · exact work.look_after_acceptance_flat flat
  · split at flat
    · cases flat
    · split at flat
      · cases flat
      · exact work.look_after_acceptance_flat flat

/-- A confirmed fill needs no look. -/
theorem resolved_filled {quantity : ExactFloat} {look : Option RepairLook}
    (filled : work.resolveAcceptedOrder = (.filled quantity, look)) : look = none := by
  unfold resolveAcceptedOrder at filled
  split at filled
  · exact absurd filled work.look_after_acceptance_not_filled
  · cases filled
  · exact absurd filled work.look_after_acceptance_not_filled
  · split at filled
    · cases filled
      rfl
    · split at filled
      · cases filled
      · exact absurd filled work.look_after_acceptance_not_filled

/-- An accepted order of an earlier pass: the fill proves nothing, and the look proves the task
settled when it was answered. -/
theorem reconcile_accepted_judged (quantity : ExactFloat) :
    work.Judged (work.reconcileAccepted quantity) := by
  intro exit dropped
  unfold reconcileAccepted at dropped ⊢
  generalize resolved : work.resolveAcceptedOrder = result at dropped ⊢
  obtain ⟨status, look⟩ := result
  cases status with
  | filled executed =>
    dsimp only at dropped ⊢
    cases RepairOutcome.left.inj dropped |>.1
    have unseen := work.resolved_filled resolved
    constructor
    · intro proven
      obtain ⟨answered, looked, _⟩ := accepted_of_proven rfl proven
      rw [unseen] at looked
      cases looked
    · exact False.elim
  | liveFlat =>
    cases dropped
    obtain ⟨answered, looked, noExcess, noOrder⟩ := work.resolved_flat resolved
    subst looked
    constructor
    · intro proven
      obtain ⟨look, looked, position, present, _⟩ := accepted_of_proven rfl proven
      exact answered_of_seen looked present
    · rintro ⟨look, looked, present⟩
      cases looked
      obtain ⟨seen, position⟩ := Option.isSome_iff_exists.mp present
      rw [position] at noExcess
      exact .flatAfterAcceptance answered rfl ⟨seen, position, noExcess, noOrder⟩
  | openOrderPresent | truthGap | truthUnavailable => cases dropped

end Judging

/-! ## Orders that are sent -/

/-- The size is the excess that the look shows, and it is no dust. -/
structure Sizing (work : RepairWork) (sized : SizedRepair) : Prop where
  excess : sized.excess = work.excessOf sized.side (sized.look.positionOf work.venue)
  exceeds : sized.excess.le flatDust = false
  symbol : sized.task.symbol = work.task.symbol

/-- The answers to an order that was sent for a size. -/
structure Sending (work : RepairWork) (sized : SizedRepair) (evidence : RepairEvidence) :
    Prop where
  sizing : work.Sizing sized
  notBelow : ¬ work.BelowMinimum sized.side sized.look
  look : evidence.look = some sized.look
  side : evidence.side = some sized.side
  accepted : evidence.acceptedLook = none
  executed : (ExactFloat.sum evidence.executed).lt (finite 0) = false

section Sending

variable {work : RepairWork} {sized : SizedRepair} {evidence : RepairEvidence}

theorem Sizing.excess_of_seen (sizing : work.Sizing sized) {seen : LivePosition}
    (present : seen ∈ sized.look.positionOf work.venue) :
    work.excessOf sized.side (some seen) = sized.excess := by
  rw [sizing.excess, Option.mem_def.mp present]

/-- A sent order leaves three proofs: the fills, and two later looks. -/
theorem proven_of_sent (sizing : work.Sizing sized)
    (notBelow : ¬ work.BelowMinimum sized.side sized.look)
    (look : evidence.look = some sized.look) (side : evidence.side = some sized.side) :
    work.DropProven evidence ↔ work.Covered evidence ∨ work.RefusedFlat evidence ∨
      ∃ later ∈ evidence.acceptedLook,
        work.SeenFlat sized.side later (later.positionOf work.venue) := by
  have current : work.sideIn evidence = sized.side := by rw [sideIn, side]; rfl
  constructor
  · intro proven
    cases proven with
    | flat first looked seen =>
      rw [look] at looked
      cases looked
      rw [current] at seen
      obtain ⟨position, present, noExcess, _⟩ := seen
      rw [sizing.excess_of_seen present, sizing.exceeds] at noExcess
      cases noExcess
    | flatAfterRefusal first looked position asked seen =>
      exact .inr (.inl ⟨first, looked, position, asked, seen⟩)
    | flatAfterAcceptance later looked seen =>
      rw [current] at seen
      exact .inr (.inr ⟨later, looked, seen⟩)
    | covered first looked fills => exact .inl ⟨first, looked, fills⟩
    | belowMinimum first looked dust =>
      rw [look] at looked
      cases looked
      rw [current] at dust
      exact absurd dust notBelow
  · rintro (⟨first, looked, fills⟩ | ⟨first, looked, position, asked, seen⟩ |
      ⟨later, looked, seen⟩)
    · exact .covered first looked fills
    · exact .flatAfterRefusal first looked position asked seen
    · rw [← current] at seen
      exact .flatAfterAcceptance later looked seen

/-- What a fill leaves no successor for is covered, as far as the quantities are numbers. -/
theorem covers_iff {excess earlier quantity : ExactFloat} (exceeds : excess.le flatDust = false)
    (nonneg : earlier.lt (finite 0) = false)
    (nothingLeft : flatDust.lt ((excess.sub quantity).max (finite 0)) = false) :
    ((finite 0).lt (earlier.add quantity) = true ∧
        (excess.sub (earlier.add quantity)).le flatDust = true) ↔
      excess.sub (earlier.add quantity) ≠ .notANumber := by
  have meaningless (value : ExactFloat) (none : value.sub (earlier.add quantity) = .notANumber) :
      ((finite 0).lt (earlier.add quantity) = true ∧
        (value.sub (earlier.add quantity)).le flatDust = true) ↔
      value.sub (earlier.add quantity) ≠ .notANumber := by
    rw [none]
    simp [le]
  cases excess with
  | notANumber => exact meaningless _ rfl
  | infinite negative =>
    cases negative with
    | true => cases exceeds
    | false =>
      -- An infinite excess is left over, unless what is taken from it is infinite as well.
      cases quantity with
      | finite value => cases nothingLeft
      | notANumber => exact meaningless _ (by cases earlier <;> rfl)
      | infinite lower =>
        cases lower with
        | true => cases nothingLeft
        | false =>
          apply meaningless
          cases earlier with
          | finite value | notANumber => rfl
          | infinite below => cases below <;> rfl
  | finite needed =>
    cases earlier with
    | notANumber => exact meaningless _ rfl
    | infinite below =>
      cases below with
      | true => cases nonneg
      | false =>
        cases quantity with
        | finite value => simp [add, sub, neg, lt, le, flatDust]
        | notANumber => exact meaningless _ rfl
        | infinite lower =>
          cases lower with
          | true => exact meaningless _ rfl
          | false => simp [add, sub, neg, lt, le, flatDust]
    | finite taken =>
      cases quantity with
      | notANumber => exact meaningless _ rfl
      | infinite lower =>
        cases lower with
        | true => cases nothingLeft
        | false => simp [add, sub, neg, lt, le, flatDust]
      | finite value =>
        simp only [flatDust, le_finite, lt_finite, sub_finite, add_finite, max_finite,
          decide_eq_false_iff_not, decide_eq_true_iff, ne_eq, reduceCtorEq, not_false_iff,
          iff_true] at exceeds nonneg nothingLeft ⊢
        have less : needed - value ≤ 1 / 10 ^ 9 :=
          (le_max_left _ _).trans (not_lt.mp nothingLeft)
        constructor <;> linarith
theorem sum_append_singleton (values : List ExactFloat) (last : ExactFloat) :
    ExactFloat.sum (values ++ [last]) = (ExactFloat.sum values).add last := by
  rw [ExactFloat.sum, List.foldl_append]
  rfl

/-- After a fill that leaves no successor, the look proves the task settled when the position was
seen and the quantities are numbers. -/
theorem filled_proven_iff {before : RepairEvidence} {quantity : ExactFloat}
    (sending : work.Sending sized before) (look : evidence.look = some sized.look)
    (side : evidence.side = some sized.side) (accepted : evidence.acceptedLook = none)
    (executed : evidence.executed = before.executed ++ [quantity])
    (nothingLeft : flatDust.lt ((sized.excess.sub quantity).max (finite 0)) = false) :
    work.DropProven evidence ↔ work.Comparable evidence ∨ work.RefusedFlat evidence := by
  have current : work.sideIn evidence = sized.side := by rw [sideIn, side]; rfl
  have covers : work.Covered evidence ↔ work.Comparable evidence := by
    have total := covers_iff sending.sizing.exceeds sending.executed nothingLeft
    rw [← sum_append_singleton, ← executed] at total
    constructor
    · rintro ⟨first, looked, seen, present, enough⟩
      refine ⟨first, looked, seen, present, ?_⟩
      cases look.symm.trans looked
      rw [current, sending.sizing.excess_of_seen present] at enough ⊢
      exact total.mp enough
    · rintro ⟨first, looked, seen, present, number⟩
      refine ⟨first, looked, seen, present, ?_⟩
      cases look.symm.trans looked
      rw [current, sending.sizing.excess_of_seen present] at number ⊢
      exact total.mpr number
  rw [proven_of_sent sending.sizing sending.notBelow look side, covers]
  have unlooked : ¬ ∃ later ∈ evidence.acceptedLook,
      work.SeenFlat sized.side later (later.positionOf work.venue) := by
    rw [accepted]
    rintro ⟨later, looked, _⟩
    cases looked
  simp only [unlooked, or_false]

/-- After an acceptance that is taken for flat, the second look counts when it was answered. -/
theorem flat_proven_iff (sizing : work.Sizing sized)
    (notBelow : ¬ work.BelowMinimum sized.side sized.look)
    (look : evidence.look = some sized.look) (side : evidence.side = some sized.side)
    {answered : RepairLook} (accepted : evidence.acceptedLook = some answered)
    (noExcess : (work.excessOf sized.side (answered.positionOf work.venue)).le flatDust = true)
    (noOrder : answered.openOrderCount = 0) :
    work.DropProven evidence ↔ work.Answered evidence.acceptedLook ∨ work.RefusedFlat evidence ∨
      work.Covered evidence := by
  have later : (∃ later ∈ evidence.acceptedLook,
      work.SeenFlat sized.side later (later.positionOf work.venue)) ↔
      work.Answered evidence.acceptedLook := by
    constructor
    · rintro ⟨later, looked, seen, present, _⟩
      exact answered_of_seen looked present
    · rintro ⟨later, looked, present⟩
      cases accepted.symm.trans looked
      obtain ⟨seen, position⟩ := Option.isSome_iff_exists.mp present
      rw [position] at noExcess
      exact ⟨answered, accepted, seen, position, noExcess, noOrder⟩
  rw [proven_of_sent sizing notBelow look side, later, or_comm, or_assoc, or_left_comm]

theorem nothing_left_of_no_successor {task : RepairTask} {executed : ExactFloat}
    (last : work.successorOf sized task executed = none) :
    flatDust.lt ((sized.excess.sub executed).max (finite 0)) = false := by
  unfold successorOf at last
  dsimp only at last
  split at last
  · cases last
  · rename_i little
    exact Bool.eq_false_iff.mpr little

theorem after_fill_judged (sending : work.Sending sized evidence) (task : RepairTask)
    (executed : ExactFloat) (notes : List RepairNote) :
    work.Judged (work.afterFill sized task executed notes evidence) := by
  intro exit dropped
  obtain ⟨sameExit, last⟩ := RepairOutcome.left.inj dropped
  subst sameExit
  exact filled_proven_iff sending sending.look sending.side sending.accepted rfl
    (nothing_left_of_no_successor last)

theorem positive_float_not_negative (value : ExactFloat) :
    (positiveFloat value).lt (finite 0) = false := by
  unfold positiveFloat
  split
  · cases value with
    | finite exact => simp
    | infinite negative => rfl
    | notANumber => rfl
  · rename_i positive
    exact Bool.eq_false_iff.mpr positive

theorem add_not_negative {left right : ExactFloat} (leftNonneg : left.lt (finite 0) = false)
    (rightNonneg : right.lt (finite 0) = false) : (left.add right).lt (finite 0) = false := by
  cases left with
  | notANumber => rfl
  | infinite negative =>
    cases negative with
    | true => cases leftNonneg
    | false =>
      cases right with
      | finite value | notANumber => rfl
      | infinite lower => cases lower <;> rfl
  | finite first =>
    cases right with
    | notANumber => rfl
    | infinite lower => exact rightNonneg
    | finite second =>
      simp only [lt_finite, decide_eq_false_iff_not, not_lt, add_finite] at *
      exact add_nonneg leftNonneg rightNonneg

variable [TextCase]

theorem after_submit_error_judged (sending : work.Sending sized evidence) (task : RepairTask)
    (clientOrderId : String) (error : RepairSubmitError) (blocking : Option String)
    (notes : List RepairNote) :
    work.Judged (work.afterSubmitError sized task clientOrderId error blocking notes evidence) := by
  intro exit dropped
  unfold afterSubmitError at dropped ⊢
  dsimp only at dropped ⊢
  split at dropped
  · rename_i ackOnly
    rw [if_pos ackOnly]
    generalize resolved :
      ({ work with task := task, side := sized.side } : RepairWork).resolveAcceptedOrder = result
      at dropped ⊢
    obtain ⟨status, look⟩ := result
    cases status with
    | filled quantity =>
      obtain ⟨sameExit, last⟩ := RepairOutcome.left.inj dropped
      subst sameExit
      have unseen := resolved_filled _ resolved
      exact filled_proven_iff sending sending.look sending.side unseen rfl
        (nothing_left_of_no_successor last)
    | liveFlat =>
      cases dropped
      obtain ⟨answered, looked, noExcess, noOrder⟩ := resolved_flat _ resolved
      subst looked
      exact flat_proven_iff sending.sizing sending.notBelow sending.look sending.side rfl noExcess
        noOrder
    | openOrderPresent | truthGap | truthUnavailable => cases dropped
  · split at dropped <;> cases dropped

/-- The quantity that a reconciliation after a refusal confirms. -/
def confirmedQuantities : Except String (Option AcceptedReconciliation) → List ExactFloat
  | .ok (some reconciliation) => [positiveFloat reconciliation.quantity]
  | _ => []

omit [TextCase] in
theorem confirmed_not_negative {executed : List ExactFloat}
    (counted : (ExactFloat.sum executed).lt (finite 0) = false)
    (answer : Except String (Option AcceptedReconciliation)) :
    (ExactFloat.sum (executed ++ confirmedQuantities answer)).lt (finite 0) = false := by
  unfold confirmedQuantities
  split
  · rw [sum_append_singleton]
    exact add_not_negative counted (positive_float_not_negative _)
  · rw [List.append_nil]
    exact counted

/-- A refused client order id: it clears, it is sent again, or it failed. -/
theorem after_duplicate_judged (sending : work.Sending sized evidence) (task : RepairTask)
    (quantity : ExactFloat) (clientOrderId : String) (currentAttempt : Int)
    (error : RepairSubmitError) (notes : List RepairNote) :
    work.Judged (work.afterDuplicate sized task quantity clientOrderId currentAttempt error notes
      evidence) := by
  have asked (position : Option (Option LivePosition)) (sent : List OrderRequest) :
      work.Sending sized { evidence with
        refusedPosition := position
        sent := sent
        executed := evidence.executed ++ confirmedQuantities work.answers.refusedReconciliation } :=
    ⟨sending.sizing, sending.notBelow, sending.look, sending.side, sending.accepted,
      confirmed_not_negative sending.executed _⟩
  have proven (position : Option (Option LivePosition)) (sent : List OrderRequest) :=
    proven_of_sent (asked position sent).sizing (asked position sent).notBelow
      (asked position sent).look (asked position sent).side
  unfold afterDuplicate
  dsimp only
  split
  · intro exit dropped
    cases dropped
    refine (proven _ _).trans ?_
    have unlooked : ¬ ∃ later ∈ evidence.acceptedLook,
        work.SeenFlat sized.side later (later.positionOf work.venue) := by
      rw [sending.accepted]
      rintro ⟨later, looked, _⟩
      cases looked
    simp only [unlooked, or_false]
    exact or_comm
  · split
    · split
      · exact after_fill_judged (asked _ _) task _ _
      · split <;> exact after_submit_error_judged (asked _ _) _ _ _ _ _
    · exact after_submit_error_judged (asked _ _) _ _ _ _ _

theorem submit_repair_judged (sizing : work.Sizing sized)
    (notBelow : ¬ work.BelowMinimum sized.side sized.look) (quantity : ExactFloat) :
    work.Judged (work.submitRepair sized quantity) := by
  have sending (sent : List OrderRequest) :
      work.Sending sized { sized.evidence with sent := sent } :=
    ⟨sizing, notBelow, rfl, rfl, rfl, rfl⟩
  unfold submitRepair
  dsimp only
  split
  · exact after_fill_judged (sending _) _ _ _
  · split
    · exact after_duplicate_judged (sending _) _ _ _ _ _ _
    · exact after_submit_error_judged (sending _) _ _ _ _ _

end Sending

/-! ## Dust, and the size -/

section Sizing

variable {work : RepairWork} {sized : SizedRepair}

/-- The venue's minimum depends on the symbol and the look only. -/
theorem Sizing.same_minimum (sizing : work.Sizing sized) (excess quantity : ExactFloat) :
    work.belowMinNotional
        { task := work.task, side := sized.side, excess := excess, look := sized.look } quantity =
      work.belowMinNotional sized quantity := by
  unfold belowMinNotional livePrice
  rw [sizing.symbol]

theorem below_minimum_iff (sizing : work.Sizing sized) {quantity : ExactFloat}
    (normal : work.normalized sized.excess = some quantity) :
    work.BelowMinimum sized.side sized.look ↔
      (sized.look.positionOf work.venue).isSome ∧
        (quantity.le flatDust = true ∨ work.belowMinNotional sized quantity = true) := by
  constructor
  · rintro ⟨seen, present, rounded, isNormal, little⟩
    rw [sizing.excess_of_seen present] at isNormal little
    cases normal.symm.trans isNormal
    rw [sizing.same_minimum] at little
    exact ⟨by rw [Option.mem_def.mp present]; rfl, little⟩
  · rintro ⟨answered, little⟩
    obtain ⟨seen, present⟩ := Option.isSome_iff_exists.mp answered
    refine ⟨seen, present, quantity, ?_, ?_⟩
    · rw [sizing.excess_of_seen present]
      exact normal
    · rw [sizing.same_minimum]
      exact little

/-- A notional is known only with the position's price. -/
theorem seen_of_below_min_notional {quantity : ExactFloat}
    (little : work.belowMinNotional sized quantity = true) :
    (sized.look.positionOf work.venue).isSome := by
  unfold belowMinNotional livePrice at little
  cases seen : sized.look.positionOf work.venue with
  | some position => rfl
  | none => simp [seen] at little

variable [TextCase]

theorem send_unless_dust_judged (sizing : work.Sizing sized) {quantity : ExactFloat}
    (normal : work.normalized sized.excess = some quantity) :
    work.Judged (work.sendUnlessDust sized quantity) := by
  have minimum := below_minimum_iff sizing normal
  unfold sendUnlessDust
  split
  · rename_i little
    split
    · split
      · exact work.judged_of_stays nofun
      · intro exit dropped
        cases dropped
        constructor
        · exact answered_of_proven rfl rfl
        · rintro ⟨look, looked, answered⟩
          cases looked
          exact .belowMinimum sized.look rfl (minimum.mpr ⟨answered, .inl little⟩)
    · exact work.judged_of_stays nofun
  · rename_i enough
    split
    · rename_i little
      split
      · exact work.judged_of_stays nofun
      · intro exit dropped
        cases dropped
        have seen := seen_of_below_min_notional little
        have dust := minimum.mpr ⟨seen, .inr little⟩
        exact ⟨fun _ => trivial, fun _ => .belowMinimum sized.look rfl dust⟩
    · rename_i notLittle
      apply submit_repair_judged sizing
      rw [minimum]
      rintro ⟨_, tiny | little⟩
      · exact enough tiny
      · exact notLittle little

theorem normalize_and_send_judged (sizing : work.Sizing sized) :
    work.Judged (work.normalizeAndSend sized) := by
  unfold normalizeAndSend
  cases answer : work.answers.normalizeQuantity with
  | none => exact send_unless_dust_judged sizing (by rw [normalized, answer])
  | some result =>
    cases result with
    | ok quantity => exact send_unless_dust_judged sizing (by rw [normalized, answer])
    | error text => exact work.judged_of_stays nofun

omit [TextCase] in
/-- Without a position of its own, the excess of a task is the whole live position. -/
theorem excess_of_rebuilt {live : ExactFloat} (held : flatDust.lt live.abs = true) :
    liveExcess (if (finite 0).lt live then .sell else .buy) live (finite 0) = live.abs := by
  cases live with
  | notANumber => cases held
  | infinite negative => cases negative <;> rfl
  | finite size =>
    by_cases long : 0 < size
    · simp [liveExcess, long, abs_of_pos long, long.le]
    · have short : size ≤ 0 := not_lt.mp long
      simp [liveExcess, long, abs_of_nonpos short, short]

omit [TextCase] in
theorem not_dust_of_lt {value : ExactFloat} (above : flatDust.lt value = true) :
    value.le flatDust = false := by
  cases value with
  | notANumber => rfl
  | infinite negative => cases negative with
    | true => cases above
    | false => rfl
  | finite exact =>
    simp only [flatDust, lt_finite, le_finite, decide_eq_true_iff, decide_eq_false_iff_not,
      not_le] at above ⊢
    exact above

omit [TextCase] in
theorem hold_judged (error : String) (look : RepairLook) : work.Judged (work.hold error look) := by
  unfold hold
  dsimp only
  split <;> exact work.judged_of_stays nofun

theorem size_from_look_judged
    (baseline : work.baseline = repairBaseline work.positions work.task.positionId work.venue)
    (look : RepairLook) : work.Judged (work.sizeFromLook look) := by
  unfold sizeFromLook
  dsimp only
  split
  · rename_i noExcess
    split
    · exact hold_judged _ look
    · rename_i noOrder
      split
      · rename_i rebuilt
        obtain ⟨noPosition, held⟩ := rebuilt
        have gone : work.positions.find? work.task.positionId = none := by
          simpa [OrderedDict.contains] using noPosition
        have zero : work.baseline = finite 0 := by
          rw [baseline, repairBaseline, gone]
        refine normalize_and_send_judged ⟨?_, not_dust_of_lt held, rfl⟩
        rw [excessOf, zero]
        exact (excess_of_rebuilt held).symm
      · split
        · exact hold_judged _ look
        · intro exit dropped
          cases dropped
          constructor
          · exact answered_of_proven rfl rfl
          · rintro ⟨answered, looked, present⟩
            cases looked
            obtain ⟨seen, position⟩ := Option.isSome_iff_exists.mp present
            refine .flat look rfl ⟨seen, position, ?_, Nat.eq_zero_of_not_pos noOrder⟩
            rw [position] at noExcess
            exact noExcess
  · rename_i excess
    exact normalize_and_send_judged ⟨rfl, Bool.eq_false_iff.mpr excess, rfl⟩

theorem look_and_repair_judged
    (baseline : work.baseline = repairBaseline work.positions work.task.positionId work.venue) :
    work.Judged work.lookAndRepair := by
  unfold lookAndRepair
  split
  · exact size_from_look_judged baseline _
  · dsimp only
    split <;> exact work.judged_of_stays nofun

omit [TextCase] in
theorem adapter_missing_judged : work.Judged work.adapterMissing := by
  unfold adapterMissing
  split <;> exact work.judged_of_stays nofun

end Sizing

end RepairWork

/-! ## A turn -/

section Turn

variable [TextCase] (env : RepairEnvironment) (nowMs : Int)
  (positions : OrderedDict String OpenPosition)

/-- The locals of the loop's body. -/
def repairWork (answers : RepairAnswers) (task : RepairTask) (venue : Venue) (side : Side) :
    RepairWork where
  env := env
  nowMs := nowMs
  positions := positions
  answers := answers
  task := task
  venue := venue
  side := side
  baseline := repairBaseline positions task.positionId venue
  probes := task.probeVenues env venue

/-- The turn of a readable task is judged. -/
theorem work_on_repair_judged (answers : RepairAnswers) {task : RepairTask} {venue : Venue}
    {side : Side} {quantity : ExactFloat} (readable : task.fields = some (venue, side, quantity)) :
    (repairWork env nowMs positions answers task venue side).Judged
      (workOnRepair env nowMs positions answers task) := by
  unfold workOnRepair
  rw [readable]
  dsimp only
  split
  · exact RepairWork.judged_of_stays _ nofun
  · split
    · exact RepairWork.adapter_missing_judged
    · split
      · exact RepairWork.reconcile_accepted_judged _ quantity
      · exact RepairWork.look_and_repair_judged rfl

end Turn

end LightFee.Engine
