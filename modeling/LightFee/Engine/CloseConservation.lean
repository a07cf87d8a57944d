import Mathlib.Tactic.Linarith
import Mathlib.Tactic.Ring
import LightFee.Engine.CloseWriteback

/-!
# Exposure after a close

A close of a whole position in which the legs report what they closed. Exposure is
conserved when the retained position and the repair that the close records hold, on
each leg, what was not closed.
-/

namespace LightFee.Engine

/-! ## Legs -/

inductive CloseLeg where
  | long
  | short
deriving DecidableEq

/-- The side that closes a leg. -/
def CloseLeg.closingSide : CloseLeg → Side
  | .long => .sell
  | .short => .buy

def OpenPosition.quantityOn (position : OpenPosition) : CloseLeg → ExactFloat
  | .long => position.longQuantity
  | .short => position.shortQuantity

/-- What the position of an id holds on a leg; a removed one holds nothing. -/
def CloseState.heldOn (state : CloseState) (positionId : String) (leg : CloseLeg) : ExactFloat :=
  ((state.positions.find? positionId).map (fun position => position.quantityOn leg)).getD
    (.finite 0)

/-- What the recorded repairs hold on a leg. -/
def CloseState.repairedOn (state : CloseState) (leg : CloseLeg) : ExactFloat :=
  ExactFloat.sum ((state.newRepairs.filter (fun task =>
    decide (task.exposureSide = leg.closingSide))).map ResidualExposureTask.exposureQuantity)

def OpenPosition.Balanced (position : OpenPosition) : Prop :=
  position.matchedQuantity.le (position.longQuantity.min position.shortQuantity) = true

/-! ## A close of a whole position -/

/-- The position holds `whole` on both legs, of which the fills close a part each. -/
structure WholeClose (position : OpenPosition) (collected : CollectedClose)
    (whole longClosed shortClosed : ℚ) : Prop where
  matched : position.matchedQuantity = .finite whole
  long : position.longQuantity = .finite whole
  short : position.shortQuantity = .finite whole
  positive : 0 < whole
  longFills : closedQuantity collected.longLegs = .finite longClosed
  shortFills : closedQuantity collected.shortLegs = .finite shortClosed
  longWithin : 0 ≤ longClosed ∧ longClosed ≤ whole
  shortWithin : 0 ≤ shortClosed ∧ shortClosed ≤ whole

namespace WholeClose

variable {position : OpenPosition} {collected : CollectedClose}
  {whole longClosed shortClosed : ℚ}
  (closing : WholeClose position collected whole longClosed shortClosed)

include closing

theorem written_quantities (call : CloseCall) :
    (collected.settle.written position call).longQuantity = .finite (whole - longClosed) ∧
      (collected.settle.written position call).shortQuantity = .finite (whole - shortClosed) ∧
      (collected.settle.written position call).matchedQuantity =
        .finite (whole - min longClosed shortClosed) := by
  have quantities := writtenPosition_quantities position
    (collected.settle.execution position call.reason) collected.settle call
    (collected.settle.evidenceGaps position)
  have longFills : closedQuantity collected.settle.longLegs = .finite longClosed := closing.longFills
  have shortFills : closedQuantity collected.settle.shortLegs = .finite shortClosed :=
    closing.shortFills
  have longLeft : 0 ≤ whole - longClosed := by linarith [closing.longWithin.2]
  have shortLeft : 0 ≤ whole - shortClosed := by linarith [closing.shortWithin.2]
  have matchedLeft : 0 ≤ whole - min longClosed shortClosed := by
    linarith [min_le_left longClosed shortClosed]
  simp only [reduceQuantities, longFills, shortFills, closing.long, closing.short, closing.matched,
    ExactFloat.sub_finite, ExactFloat.max_finite, ExactFloat.min_finite, max_eq_left longLeft,
    max_eq_left shortLeft, max_eq_left matchedLeft] at quantities
  exact ⟨quantities.2.1, quantities.2.2, quantities.1⟩

/-- The split looks at the difference of what the legs closed. -/
theorem split_none [TextCase] (nowMs deadlineMs : Int)
    (near : |shortClosed - longClosed| ≤ 1 / 10 ^ 9) :
    splitCloseFillResidual position (closedQuantity collected.longLegs)
      (closedQuantity collected.shortLegs) nowMs deadlineMs = none := by
  have longLeft : 0 ≤ whole - longClosed := by linarith [closing.longWithin.2]
  have shortLeft : 0 ≤ whole - shortClosed := by linarith [closing.shortWithin.2]
  have difference : whole - longClosed - (whole - shortClosed) - 0 = shortClosed - longClosed := by
    ring
  rw [splitCloseFillResidual]
  simp only [closeBalanceFromClosedQuantities, closing.matched, closing.longFills, closing.shortFills,
    ExactFloat.sub_finite, ExactFloat.max_finite, max_eq_left longLeft, max_eq_left shortLeft,
    approxEq, ExactFloat.abs_finite, ExactFloat.le_finite, difference]
  rw [if_pos (decide_eq_true near)]

/-- A close of nothing has no fills. -/
theorem closed_nothing (nothing : collected.settle.isEmpty = true) : longClosed = 0 ∧ shortClosed = 0 := by
  simp only [CollectedClose.isEmpty, Bool.and_eq_true, List.isEmpty_iff] at nothing
  have shortLegs : collected.shortLegs = [] := nothing.1.1
  have longLegs : collected.longLegs = [] := nothing.1.2
  have longFills := closing.longFills
  have shortFills := closing.shortFills
  rw [longLegs] at longFills
  rw [shortLegs] at shortFills
  constructor
  · exact (ExactFloat.finite.inj longFills).symm
  · exact (ExactFloat.finite.inj shortFills).symm

end WholeClose

/-! ## Conservation -/

/-- On each leg position and repair hold what was not closed, and no position that
the close left or touched is out of balance. -/
structure ConservesExposure (before after : CloseState) (positionId : String)
    (whole longClosed shortClosed : ℚ) : Prop where
  long : approxEq ((after.heldOn positionId .long).add (after.repairedOn .long))
    (.finite (whole - longClosed)) = true
  short : approxEq ((after.heldOn positionId .short).add (after.repairedOn .short))
    (.finite (whole - shortClosed)) = true
  balanced : ∀ id position, after.positions.find? id = some position →
    position.Balanced ∨ (id ≠ positionId ∧ before.positions.find? id = some position)

theorem approxEq_finite (left right : ℚ) :
    approxEq (.finite left) (.finite right) = true ↔ |left - right| ≤ 1 / 10 ^ 9 := by
  rw [approxEq, ExactFloat.sub_finite, ExactFloat.abs_finite, ExactFloat.le_finite,
    decide_eq_true_iff]

theorem heldOn_of_find {state : CloseState} {positionId : String} {position : OpenPosition}
    (held : state.positions.find? positionId = some position) (leg : CloseLeg) :
    state.heldOn positionId leg = position.quantityOn leg := by
  rw [CloseState.heldOn, held]
  rfl

theorem heldOn_of_none {state : CloseState} {positionId : String}
    (gone : state.positions.find? positionId = none) (leg : CloseLeg) :
    state.heldOn positionId leg = .finite 0 := by
  rw [CloseState.heldOn, gone]
  rfl

theorem repairedOn_of_nil {state : CloseState} (nothing : state.newRepairs = [])
    (leg : CloseLeg) : state.repairedOn leg = .finite 0 := by
  rw [CloseState.repairedOn, nothing]
  rfl

section Conservation

variable [TextCase] (runtime : RuntimeState) (position : OpenPosition)
  (collected : CollectedClose) (call : CloseCall) (whole longClosed shortClosed : ℚ)

/-- The state after a close of the position from the start of a call. -/
def closedState : CloseState := (finishClose (.start runtime) position collected call).2.1

variable {runtime position collected whole longClosed shortClosed}

/-- The position after the close: it is removed below the dust of a fill. -/
theorem closed_find (closing : WholeClose position collected whole longClosed shortClosed)
    (held : runtime.engine.openPositions.find? position.positionId = some position)
    (something : collected.settle.isEmpty = false) (id : String) :
    (closedState runtime position collected call).positions.find? id =
      if position.positionId = id then
        (if whole - min longClosed shortClosed < 1 / 10 ^ 12 then none
          else some (collected.settle.written position call))
      else runtime.engine.openPositions.find? id := by
  have contained : (CloseState.start runtime).positions.contains position.positionId = true := by
    rw [OrderedDict.contains]
    exact (congrArg Option.isSome held).trans rfl
  rw [closedState, finishClose_find _ position collected call something contained,
    (closing.written_quantities call).2.2, fillDust, ExactFloat.lt_finite]
  simp only [decide_eq_true_iff]
  rfl

/-- Where a position is retained its quantities are the written ones. -/
theorem closed_retained (closing : WholeClose position collected whole longClosed shortClosed)
    (held : runtime.engine.openPositions.find? position.positionId = some position)
    (something : collected.settle.isEmpty = false)
    (retained : 1 / 10 ^ 12 ≤ whole - min longClosed shortClosed) (id : String) :
    (closedState runtime position collected call).positions.find? id =
      if position.positionId = id then some (collected.settle.written position call)
      else runtime.engine.openPositions.find? id := by
  rw [closed_find call closing held something, if_neg (not_lt.mpr retained)]

/-- A position without matched quantity is removed, and no other changes. -/
theorem closed_removed (closing : WholeClose position collected whole longClosed shortClosed)
    (held : runtime.engine.openPositions.find? position.positionId = some position)
    (something : collected.settle.isEmpty = false)
    (removed : whole - min longClosed shortClosed < 1 / 10 ^ 12) (id : String) :
    (closedState runtime position collected call).positions.find? id =
      if position.positionId = id then none else runtime.engine.openPositions.find? id := by
  rw [closed_find call closing held something, if_pos removed]

/-- Closes that differ by dust record no repair. -/
theorem closed_newRepairs (closing : WholeClose position collected whole longClosed shortClosed)
    (near : |shortClosed - longClosed| ≤ 1 / 10 ^ 9) :
    (closedState runtime position collected call).newRepairs = [] := by
  cases something : collected.settle.isEmpty with
  | true => exact (finishClose_empty (.start runtime) position collected call something).2
  | false =>
    rw [closedState, finishClose_newRepairs (.start runtime) position collected call something rfl,
      closing.split_none _ _ near]
    rfl

/-- Legs that closed the same quantity leave the same on both. -/
theorem conserves_of_equal
    (held : runtime.engine.openPositions.find? position.positionId = some position)
    (closing : WholeClose position collected whole longClosed longClosed) :
    ConservesExposure (.start runtime) (closedState runtime position collected call)
      position.positionId whole longClosed longClosed := by
  have unrepaired : (closedState runtime position collected call).newRepairs = [] :=
    closed_newRepairs call closing (by rw [sub_self, abs_zero]; norm_num)
  have unmatched : whole - min longClosed longClosed = whole - longClosed := by rw [min_self]
  cases something : collected.settle.isEmpty with
  | true =>
    have nothing : longClosed = 0 := (closing.closed_nothing something).1
    have unchanged := (finishClose_empty (.start runtime) position collected call something).1
    have stays : (closedState runtime position collected call).positions.find?
        position.positionId = some position := by
      rw [closedState, unchanged]
      exact held
    refine ⟨?_, ?_, fun id other found => ?_⟩
    · rw [heldOn_of_find stays, repairedOn_of_nil unrepaired, OpenPosition.quantityOn,
        closing.long, ExactFloat.add_finite, approxEq_finite, nothing]
      norm_num
    · rw [heldOn_of_find stays, repairedOn_of_nil unrepaired, OpenPosition.quantityOn,
        closing.short, ExactFloat.add_finite, approxEq_finite, nothing]
      norm_num
    · rw [closedState, unchanged] at found
      by_cases same : id = position.positionId
      · left
        rw [same] at found
        obtain rfl : position = other := Option.some.inj (held.symm.trans found)
        rw [OpenPosition.Balanced, closing.matched, closing.long, closing.short,
          ExactFloat.min_finite, ExactFloat.le_finite, min_self, decide_eq_true_iff]
      · exact .inr ⟨same, found⟩
  | false =>
    obtain ⟨longLeft, shortLeft, matchedLeft⟩ := closing.written_quantities call
    by_cases removed : whole - min longClosed longClosed < 1 / 10 ^ 12
    · have positions := closed_removed call closing held something removed
      have gone := (positions position.positionId).trans (if_pos rfl)
      have dust : |(0 : ℚ) + 0 - (whole - longClosed)| ≤ 1 / 10 ^ 9 := by
        rw [abs_le]
        rw [unmatched] at removed
        have remains := closing.longWithin.2
        constructor <;> norm_num at removed ⊢ <;> linarith
      refine ⟨?_, ?_, fun id other found => ?_⟩
      · rw [heldOn_of_none gone, repairedOn_of_nil unrepaired, ExactFloat.add_finite,
          approxEq_finite]
        exact dust
      · rw [heldOn_of_none gone, repairedOn_of_nil unrepaired, ExactFloat.add_finite,
          approxEq_finite]
        exact dust
      · rw [positions] at found
        split_ifs at found with same
        exact .inr ⟨Ne.symm same, found⟩
    · have positions := closed_retained call closing held something (not_lt.mp removed)
      have stays := (positions position.positionId).trans (if_pos rfl)
      refine ⟨?_, ?_, fun id other found => ?_⟩
      · rw [heldOn_of_find stays, repairedOn_of_nil unrepaired, OpenPosition.quantityOn, longLeft,
          ExactFloat.add_finite, approxEq_finite, add_zero, sub_self, abs_zero]
        norm_num
      · rw [heldOn_of_find stays, repairedOn_of_nil unrepaired, OpenPosition.quantityOn, shortLeft,
          ExactFloat.add_finite, approxEq_finite, add_zero, sub_self, abs_zero]
        norm_num
      · rw [positions] at found
        split_ifs at found with same
        · left
          obtain rfl := Option.some.inj found
          rw [OpenPosition.Balanced, matchedLeft, longLeft, shortLeft, ExactFloat.min_finite,
            ExactFloat.le_finite, min_self, min_self, decide_eq_true_iff]
        · exact .inr ⟨Ne.symm same, found⟩

/-- A close that leaves dust on its larger leg removes the position. -/
theorem conserves_of_removed
    (held : runtime.engine.openPositions.find? position.positionId = some position)
    (closing : WholeClose position collected whole longClosed shortClosed)
    (removed : whole - min longClosed shortClosed < 1 / 10 ^ 12) :
    ConservesExposure (.start runtime) (closedState runtime position collected call)
      position.positionId whole longClosed shortClosed := by
  cases something : collected.settle.isEmpty with
  | true =>
    obtain ⟨rfl, rfl⟩ := closing.closed_nothing something
    exact conserves_of_equal call held closing
  | false =>
    have longAbove := min_le_left longClosed shortClosed
    have shortAbove := min_le_right longClosed shortClosed
    obtain ⟨-, longBelow⟩ := closing.longWithin
    obtain ⟨-, shortBelow⟩ := closing.shortWithin
    have dust : (1 : ℚ) / 10 ^ 12 ≤ 1 / 10 ^ 9 := by norm_num
    have near : |shortClosed - longClosed| ≤ 1 / 10 ^ 9 := by
      rw [abs_le]
      constructor <;> linarith
    have unrepaired : (closedState runtime position collected call).newRepairs = [] :=
      closed_newRepairs call closing near
    have positions := closed_removed call closing held something removed
    have gone := (positions position.positionId).trans (if_pos rfl)
    refine ⟨?_, ?_, fun id other found => ?_⟩
    · rw [heldOn_of_none gone, repairedOn_of_nil unrepaired, ExactFloat.add_finite,
        approxEq_finite, abs_le]
      constructor <;> linarith
    · rw [heldOn_of_none gone, repairedOn_of_nil unrepaired, ExactFloat.add_finite,
        approxEq_finite, abs_le]
      constructor <;> linarith
    · rw [positions] at found
      split_ifs at found with same
      exact .inr ⟨Ne.symm same, found⟩

/-- A position retained after legs that closed different quantities is out of balance. -/
theorem not_conserves_of_retained
    (held : runtime.engine.openPositions.find? position.positionId = some position)
    (closing : WholeClose position collected whole longClosed shortClosed)
    (differ : longClosed ≠ shortClosed)
    (retained : 1 / 10 ^ 12 ≤ whole - min longClosed shortClosed) :
    ¬ ConservesExposure (.start runtime) (closedState runtime position collected call)
      position.positionId whole longClosed shortClosed := by
  intro conserves
  have something : collected.settle.isEmpty = false := by
    by_contra nothing
    obtain ⟨rfl, rfl⟩ := closing.closed_nothing (Bool.eq_true_of_not_eq_false nothing)
    exact differ rfl
  have stays := (closed_retained call closing held something retained
    position.positionId).trans (if_pos rfl)
  obtain balanced | ⟨other, -⟩ := conserves.balanced _ _ stays
  · obtain ⟨longLeft, shortLeft, matchedLeft⟩ := closing.written_quantities call
    rw [OpenPosition.Balanced, matchedLeft, longLeft, shortLeft, ExactFloat.min_finite,
      ExactFloat.le_finite, decide_eq_true_iff, le_min_iff] at balanced
    have longBelow : longClosed ≤ shortClosed := by
      linarith [min_le_right longClosed shortClosed]
    have shortBelow : shortClosed ≤ longClosed := by
      linarith [min_le_left longClosed shortClosed]
    exact differ (le_antisymm longBelow shortBelow)
  · exact other rfl

variable (runtime position collected whole longClosed shortClosed)

/-- Exposure is conserved exactly where both legs closed the same quantity or the
position is removed. Elsewhere the position keeps the matched quantity of the leg that
closed less, beside the repair of the leg that it no longer holds. -/
theorem close_conserves_exposure_iff
    (held : runtime.engine.openPositions.find? position.positionId = some position)
    (closing : WholeClose position collected whole longClosed shortClosed) :
    ConservesExposure (.start runtime) (closedState runtime position collected call)
        position.positionId whole longClosed shortClosed ↔
      longClosed = shortClosed ∨ whole - min longClosed shortClosed < 1 / 10 ^ 12 := by
  constructor
  · intro conserves
    by_contra neither
    push Not at neither
    exact not_conserves_of_retained call held closing neither.1 neither.2 conserves
  · rintro (rfl | removed)
    · exact conserves_of_equal call held closing
    · exact conserves_of_removed call held closing removed

end Conservation

section Example

local instance closeCase : TextCase := .ascii

/-- Two units on each leg. -/
def twoUnits : OpenPosition :=
  { positionId := "p1", symbol := "BTCUSDT", longVenue := .binance, shortVenue := .okx
    longQuantity := .finite 2, shortQuantity := .finite 2, matchedQuantity := .finite 2
    longEntryPrice := .finite 10, shortEntryPrice := .finite 10, openedAtMs := 0 }

/-- Fills of the long leg, and of the whole short leg. -/
def oneSidedFills (longClosed : ℚ) : CollectedClose :=
  { longLegs := [{ fill := { venue := .binance, symbol := "BTCUSDT", side := .sell
                             quantity := .finite longClosed, price := .finite 10
                             orderId := "1" } }]
    shortLegs := [{ fill := { venue := .okx, symbol := "BTCUSDT", side := .buy
                              quantity := .finite 2, price := .finite 10, orderId := "2" } }] }

def twoUnitsState : RuntimeState :=
  { engine := { openPositions := OrderedDict.empty.insert "p1" twoUnits } }

theorem twoUnits_held :
    twoUnitsState.engine.openPositions.find? twoUnits.positionId = some twoUnits := rfl

theorem oneSidedFills_whole (longClosed : ℚ) (within : 0 ≤ longClosed ∧ longClosed ≤ 2) :
    WholeClose twoUnits (oneSidedFills longClosed) 2 longClosed 2 where
  matched := rfl
  long := rfl
  short := rfl
  positive := by norm_num
  longFills := by
    rw [closedQuantity, oneSidedFills]
    exact congrArg ExactFloat.finite (zero_add longClosed)
  shortFills := congrArg ExactFloat.finite (zero_add 2)
  longWithin := within
  shortWithin := by norm_num

theorem close_conserves_exposure_both :
    ConservesExposure (.start twoUnitsState)
      (closedState twoUnitsState twoUnits (oneSidedFills 2) { reason := "exit", nowMs := 1 })
      "p1" 2 2 2 :=
  (close_conserves_exposure_iff twoUnitsState twoUnits (oneSidedFills 2)
    { reason := "exit", nowMs := 1 } 2 2 2 twoUnits_held
    (oneSidedFills_whole 2 (by norm_num))).mpr (.inl rfl)

/-- With one unit closed on the long leg and two on the short one, a unit stays in the
position as matched, and is recorded as a repair as well. -/
theorem one_sided_close_owned_twice :
    ¬ ConservesExposure (.start twoUnitsState)
      (closedState twoUnitsState twoUnits (oneSidedFills 1) { reason := "exit", nowMs := 1 })
      "p1" 2 1 2 :=
  not_conserves_of_retained { reason := "exit", nowMs := 1 } twoUnits_held
    (oneSidedFills_whole 1 (by norm_num)) (by norm_num) (by norm_num)

end Example

end LightFee.Engine
