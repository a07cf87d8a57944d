import LightFee.Library.ExactFloat

/-!
# The least of several floats

A float that compares with some float is a number, and numbers are compared one way or the other.
So the least of a list, taken in one pass, falls with its members.
-/

namespace ExactFloat

theorem self_le_of_le {left right : ExactFloat} (below : left.le right = true) :
    left.le left = true := by
  cases left with
  | finite small => simp
  | infinite negative => cases negative <;> rfl
  | notANumber => cases below

theorem le_of_lt_false {left right : ExactFloat} (leftNumber : left.le left = true)
    (rightNumber : right.le right = true) (notLess : right.lt left = false) :
    left.le right = true := by
  cases left with
  | finite small =>
    cases right with
    | finite large =>
      rw [lt_finite, decide_eq_false_iff_not] at notLess
      rw [le_finite, decide_eq_true_iff]
      exact not_lt.mp notLess
    | infinite negative => cases negative <;> first | rfl | cases notLess
    | notANumber => cases rightNumber
  | infinite negative =>
    cases right with
    | finite large => cases negative <;> first | rfl | cases notLess
    | infinite other => cases negative <;> cases other <;> first | rfl | cases notLess
    | notANumber => cases rightNumber
  | notANumber => cases leftNumber

theorem min_le_min {low high low' high' : ExactFloat} (below : low.le high = true)
    (below' : low'.le high' = true) : (low.min low').le (high.min high') = true := by
  rw [min, min]
  by_cases lower : low'.lt low = true
  · rw [if_pos lower]
    by_cases higher : high'.lt high = true
    · rwa [if_pos higher]
    · rw [if_neg higher]
      exact le_trans (le_of_lt lower) below
  · have ordered : low.le low' = true :=
      le_of_lt_false (self_le_of_le below) (self_le_of_le below') (by simpa using lower)
    rw [if_neg lower]
    by_cases higher : high'.lt high = true
    · rw [if_pos higher]
      exact le_trans ordered below'
    · rwa [if_neg higher]

/-- The least of a list falls with its members. -/
theorem foldl_min_le {lower higher : List ExactFloat}
    (below : List.Forall₂ (fun low high => low.le high = true) lower higher)
    {low high : ExactFloat} (start : low.le high = true) :
    (lower.foldl min low).le (higher.foldl min high) = true := by
  induction below generalizing low high with
  | nil => exact start
  | cons head _ ih => exact ih (min_le_min start head)

end ExactFloat
