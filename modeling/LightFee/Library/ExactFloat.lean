import Mathlib.Algebra.Order.Field.Rat

/-!
# Floats read exactly

A float is a rational, an infinity or not-a-number. Finite arithmetic is exact;
everything else follows the IEEE rules, so a comparison with not-a-number is
false and an indeterminate sum is not-a-number. Finiteness is decidable and a
finite sum is the rational sum of its parts.
-/

inductive ExactFloat where
  | finite (value : ℚ)
  | infinite (negative : Bool)
  | notANumber
deriving DecidableEq

namespace ExactFloat

instance : Zero ExactFloat := ⟨finite 0⟩

def isFinite : ExactFloat → Bool
  | finite _ => true
  | _ => false

def abs : ExactFloat → ExactFloat
  | finite value => finite |value|
  | infinite _ => infinite false
  | notANumber => notANumber

def neg : ExactFloat → ExactFloat
  | finite value => finite (-value)
  | infinite negative => infinite (!negative)
  | notANumber => notANumber

def add : ExactFloat → ExactFloat → ExactFloat
  | notANumber, _ | _, notANumber => notANumber
  | finite left, finite right => finite (left + right)
  | infinite left, infinite right => if left = right then infinite left else notANumber
  | infinite left, finite _ => infinite left
  | finite _, infinite right => infinite right

def sub (left right : ExactFloat) : ExactFloat := left.add right.neg

/-- The sign of a product or quotient with an infinity. -/
def isNegative : ExactFloat → Bool
  | finite value => value < 0
  | infinite negative => negative
  | notANumber => false

def mul : ExactFloat → ExactFloat → ExactFloat
  | notANumber, _ | _, notANumber => notANumber
  | finite left, finite right => finite (left * right)
  | left, right =>
    if left = finite 0 ∨ right = finite 0 then notANumber
    else infinite (left.isNegative ^^ right.isNegative)

/-- `left / right` for a divisor that is not zero. -/
def div : ExactFloat → ExactFloat → ExactFloat
  | notANumber, _ | _, notANumber => notANumber
  | finite left, finite right => finite (left / right)
  | infinite _, infinite _ => notANumber
  | finite _, infinite _ => finite 0
  | infinite negative, finite right => infinite (negative ^^ decide (right < 0))

/-- `left < right`; false beside not-a-number. -/
def lt : ExactFloat → ExactFloat → Bool
  | notANumber, _ | _, notANumber => false
  | finite left, finite right => left < right
  | infinite left, infinite right => left && !right
  | infinite left, finite _ => left
  | finite _, infinite right => !right

/-- `left ≤ right`; false beside not-a-number. -/
def le : ExactFloat → ExactFloat → Bool
  | notANumber, _ | _, notANumber => false
  | finite left, finite right => left ≤ right
  | infinite left, infinite right => left || !right
  | infinite left, finite _ => left
  | finite _, infinite right => !right

/-- `left == right`; false beside not-a-number. -/
def eq (left right : ExactFloat) : Bool := left.le right && right.le left

/-- `max(left, right)`: the left one unless the right one is greater. -/
def max (left right : ExactFloat) : ExactFloat := if left.lt right then right else left

/-- `min(left, right)`: the left one unless the right one is less. -/
def min (left right : ExactFloat) : ExactFloat := if right.lt left then right else left

/-- `bool(value)`. -/
def truthy : ExactFloat → Bool
  | finite value => value ≠ 0
  | _ => true

/-- `sum(values)`. -/
def sum (values : List ExactFloat) : ExactFloat := values.foldl add (finite 0)

@[simp] theorem lt_finite (left right : ℚ) :
    (finite left).lt (finite right) = decide (left < right) := rfl

@[simp] theorem le_finite (left right : ℚ) :
    (finite left).le (finite right) = decide (left ≤ right) := rfl

@[simp] theorem add_finite (left right : ℚ) :
    (finite left).add (finite right) = finite (left + right) := rfl

@[simp] theorem sub_finite (left right : ℚ) :
    (finite left).sub (finite right) = finite (left - right) := by
  simp [sub, neg, sub_eq_add_neg]

@[simp] theorem mul_finite (left right : ℚ) :
    (finite left).mul (finite right) = finite (left * right) := rfl

@[simp] theorem max_finite (left right : ℚ) :
    (finite left).max (finite right) = finite (Max.max left right) := by
  rw [max, lt_finite, max_def_lt]
  split_ifs <;> simp_all

@[simp] theorem min_finite (left right : ℚ) :
    (finite left).min (finite right) = finite (Min.min left right) := by
  rw [min, lt_finite, min_def]
  by_cases less : right < left
  · rw [if_pos (decide_eq_true less), if_neg (not_le.mpr less)]
  · rw [if_neg (by simpa using less), if_pos (not_lt.mp less)]

@[simp] theorem abs_finite (value : ℚ) : (finite value).abs = finite |value| := rfl

@[simp] theorem lt_self (value : ExactFloat) : value.lt value = false := by
  cases value with
  | finite exact => simp
  | infinite negative => cases negative <;> rfl
  | notANumber => rfl

theorem lt_of_le {left right : ExactFloat} (below : left.le right = true) :
    right.lt left = false := by
  cases left with
  | finite small =>
    cases right with
    | finite large =>
      rw [le_finite, decide_eq_true_iff] at below
      rw [lt_finite, decide_eq_false_iff_not]
      exact not_lt.mpr below
    | infinite negative =>
      rw [le, Bool.not_eq_true'] at below
      rw [below]
      rfl
    | notANumber => cases below
  | infinite negative =>
    cases right with
    | finite large =>
      rw [le] at below
      rw [below]
      rfl
    | infinite other =>
      cases negative <;> cases other <;> first | rfl | cases below
    | notANumber => cases below
  | notANumber => cases below

theorem le_of_lt {left right : ExactFloat} (below : left.lt right = true) :
    left.le right = true := by
  cases left with
  | finite small =>
    cases right with
    | finite large =>
      rw [lt_finite, decide_eq_true_iff] at below
      rw [le_finite, decide_eq_true_iff]
      exact below.le
    | infinite negative => exact below
    | notANumber => cases below
  | infinite negative =>
    cases right with
    | finite large => exact below
    | infinite other =>
      rw [lt, Bool.and_eq_true] at below
      rw [le, below.1, Bool.true_or]
    | notANumber => cases below
  | notANumber => cases below

theorem le_trans {left middle right : ExactFloat} (lower : left.le middle = true)
    (upper : middle.le right = true) : left.le right = true := by
  cases left with
  | finite small =>
    cases middle with
    | finite between =>
      cases right with
      | finite large =>
        rw [le_finite, decide_eq_true_iff] at lower upper ⊢
        exact lower.trans upper
      | infinite negative => exact upper
      | notANumber => cases upper
    | infinite negative =>
      cases right with
      | finite large => cases negative <;> first | (cases lower; done) | cases upper
      | infinite other =>
        cases negative <;> cases other <;> first | rfl | (cases lower; done) | cases upper
      | notANumber => cases upper
    | notANumber => cases lower
  | infinite negative =>
    cases middle with
    | finite between =>
      cases right with
      | finite large => exact lower
      | infinite other => cases negative <;> first | rfl | cases lower
      | notANumber => cases upper
    | infinite other =>
      cases right with
      | finite large =>
        cases negative <;> cases other <;> first | rfl | (cases lower; done) | cases upper
      | infinite last =>
        cases negative <;> cases other <;> cases last <;>
          first | rfl | (cases lower; done) | cases upper
      | notANumber => cases upper
    | notANumber => cases lower
  | notANumber => cases lower

/-- Beside a positive divisor a positive quotient has a positive number above it. -/
theorem div_pos {value divisor : ExactFloat} (divides : (finite 0).lt divisor = true)
    (positive : (finite 0).lt (value.div divisor) = true) :
    ∃ exact, divisor = finite exact ∧ 0 < exact ∧ (finite 0).lt value = true := by
  cases divisor with
  | finite exact =>
    rw [lt_finite, decide_eq_true_iff] at divides
    refine ⟨exact, rfl, divides, ?_⟩
    cases value with
    | finite whole =>
      rw [div, lt_finite, decide_eq_true_iff] at positive
      rw [lt_finite, decide_eq_true_iff]
      by_contra below
      exact absurd positive (not_lt.mpr (div_nonpos_of_nonpos_of_nonneg (not_lt.mp below) divides.le))
    | infinite negative =>
      rw [div, decide_eq_false (not_lt.mpr divides.le), Bool.xor_false] at positive
      exact positive
    | notANumber => cases positive
  | infinite negative =>
    cases value with
    | finite whole => simp [div] at positive
    | infinite other => cases positive
    | notANumber => cases positive
  | notANumber => cases divides

theorem div_le_div {left right : ExactFloat} {divisor : ℚ} (divides : 0 < divisor)
    (below : left.le right = true) :
    (left.div (finite divisor)).le (right.div (finite divisor)) = true := by
  have keeps : decide (divisor < 0) = false := decide_eq_false (not_lt.mpr divides.le)
  cases left with
  | finite small =>
    cases right with
    | finite large =>
      rw [le_finite, decide_eq_true_iff] at below
      rw [div, div, le_finite, decide_eq_true_iff]
      exact div_le_div_of_nonneg_right below divides.le
    | infinite negative =>
      rw [div, div, keeps, Bool.xor_false]
      exact below
    | notANumber => cases below
  | infinite negative =>
    cases right with
    | finite large =>
      rw [div, div, keeps, Bool.xor_false]
      exact below
    | infinite other =>
      rw [div, div, keeps, Bool.xor_false, Bool.xor_false]
      exact below
    | notANumber => cases below
  | notANumber => cases below

/-- A quotient by a positive number is compared by its product. -/
theorem div_le_iff {value line : ExactFloat} {divisor : ℚ} (divides : 0 < divisor) :
    (value.div (finite divisor)).le line = value.le (line.mul (finite divisor)) := by
  have keeps : decide (divisor < 0) = false := decide_eq_false (not_lt.mpr divides.le)
  have nonzero : finite divisor ≠ finite 0 := by
    intro same
    cases same
    exact lt_irrefl _ divides
  cases line with
  | finite exact =>
    cases value with
    | finite whole =>
      rw [div, mul, le_finite, le_finite, decide_eq_decide]
      exact div_le_iff₀ divides
    | infinite negative =>
      rw [div, mul, keeps, Bool.xor_false]
      rfl
    | notANumber => rfl
  | infinite negative =>
    have product : (infinite negative).mul (finite divisor) = infinite negative := by
      simp [mul, nonzero, isNegative, keeps]
    rw [product]
    cases value with
    | finite whole => rfl
    | infinite other =>
      rw [div, keeps, Bool.xor_false]
    | notANumber => rfl
  | notANumber => cases value <;> rfl

theorem pos_of_le {low high : ExactFloat} (positive : (finite 0).lt low = true)
    (below : low.le high = true) : (finite 0).lt high = true := by
  cases low with
  | finite small =>
    cases high with
    | finite large =>
      rw [lt_finite, decide_eq_true_iff] at positive ⊢
      rw [le_finite, decide_eq_true_iff] at below
      exact positive.trans_le below
    | infinite negative => exact below
    | notANumber => cases below
  | infinite negative =>
    cases high with
    | finite large => cases negative <;> first | (cases positive; done) | cases below
    | infinite other =>
      cases negative <;> cases other <;> first | rfl | (cases positive; done) | cases below
    | notANumber => cases below
  | notANumber => cases positive

/-- Positive numbers are compared one way or the other. -/
theorem le_of_not_lt {left right : ExactFloat} (leftPositive : (finite 0).lt left = true)
    (rightPositive : (finite 0).lt right = true) (notLess : right.lt left = false) :
    left.le right = true := by
  cases left with
  | finite small =>
    cases right with
    | finite large =>
      rw [lt_finite, decide_eq_false_iff_not] at notLess
      rw [le_finite, decide_eq_true_iff]
      exact not_lt.mp notLess
    | infinite negative => exact rightPositive
    | notANumber => cases rightPositive
  | infinite negative =>
    cases right with
    | finite large => cases negative <;> first | rfl | (cases leftPositive; done) | cases notLess
    | infinite other =>
      cases negative <;> cases other <;> first | rfl | (cases leftPositive; done) | cases rightPositive
    | notANumber => cases rightPositive
  | notANumber => cases leftPositive

theorem le_self_of_le {left right : ExactFloat} (below : left.le right = true) :
    right.le right = true := by
  cases right with
  | finite large => simp
  | infinite negative => cases negative <;> rfl
  | notANumber => cases left <;> cases below

theorem truthy_of_pos {value : ExactFloat} (positive : (finite 0).lt value = true) :
    value.truthy = true := by
  cases value with
  | finite exact =>
    rw [lt_finite, decide_eq_true_iff] at positive
    exact decide_eq_true positive.ne'
  | infinite negative => rfl
  | notANumber => rfl

@[simp] theorem finite_zero_add (value : ExactFloat) : (finite 0).add value = value := by
  cases value with
  | finite exact => rw [add_finite, Rat.zero_add]
  | infinite negative => rfl
  | notANumber => rfl

theorem finite_of_isFinite {value : ExactFloat} (isFinite : value.isFinite = true) :
    ∃ exact, value = finite exact := by
  cases value with
  | finite exact => exact ⟨exact, rfl⟩
  | infinite negative => cases isFinite
  | notANumber => cases isFinite

/-- The rational of a finite value; zero for the others. -/
def toRat : ExactFloat → ℚ
  | finite value => value
  | _ => 0

@[simp] theorem toRat_finite (value : ℚ) : (finite value).toRat = value := rfl

theorem finite_toRat {value : ExactFloat} (isFinite : value.isFinite = true) :
    value = finite value.toRat := by
  obtain ⟨exact, rfl⟩ := finite_of_isFinite isFinite
  rfl

theorem foldl_add_finite (values : List ℚ) (start : ℚ) :
    (values.map finite).foldl add (finite start) = finite (start + values.sum) := by
  induction values generalizing start with
  | nil => simp
  | cons value values ih =>
    rw [List.map_cons, List.foldl_cons, add_finite, ih, List.sum_cons, add_assoc]

/-- The sum of finite values is exact. -/
theorem sum_finite (values : List ℚ) : sum (values.map finite) = finite values.sum := by
  rw [sum, foldl_add_finite, zero_add]

/-- The sum of finite terms is the sum of their rationals. -/
theorem sum_map_finite {α : Type*} {items : List α} {term : α → ExactFloat} {exact : α → ℚ}
    (terms : ∀ item ∈ items, term item = finite (exact item)) :
    sum (items.map term) = finite (items.map exact).sum := by
  rw [List.map_congr_left terms, ← sum_finite, List.map_map]
  rfl

theorem eq_finite_iff (value : ExactFloat) (exact : ℚ) :
    value.eq (finite exact) = true ↔ value = finite exact := by
  cases value with
  | finite other =>
      simp only [eq, le_finite, Bool.and_eq_true, decide_eq_true_eq, finite.injEq]
      exact le_antisymm_iff.symm
  | infinite negative => cases negative <;> simp [eq, le]
  | notANumber => simp [eq, le]

/-- Whatever lies near a finite value is finite. -/
theorem finite_of_near {value near : ExactFloat} {exact bound : ℚ} (isFinite : value = finite exact)
    (close : (value.sub near).abs.le (finite bound) = true) :
    ∃ other, near = finite other ∧ |exact - other| ≤ bound := by
  subst isFinite
  cases near with
  | finite other => exact ⟨other, rfl, by simpa using close⟩
  | infinite negative => cases close
  | notANumber => cases close

end ExactFloat
