import Mathlib.Algebra.BigOperators.Group.List.Basic
import Mathlib.Algebra.Order.BigOperators.Group.List
import Mathlib.Algebra.Order.Field.Basic
import Mathlib.Data.List.Pairwise
import Mathlib.Tactic.FieldSimp
import Mathlib.Tactic.Linarith
import Mathlib.Tactic.Ring

/-!
# Spending a budget on lots in their order

Each lot takes what is left of the budget, up to its capacity. The lots carry a
value, and what is spent on them weighs it. The weighted sum then lies between
the values of the first and the last lot that took something, and its average
moves with the budget in the direction in which the lots are sorted.

The last section compares two averages of the same spending. Weighing the values
by what is spent gives their arithmetic mean; dividing what is spent by what it
buys gives their harmonic mean. They are equal exactly where all lots that took
something have one value.
-/

universe u v

namespace Spending

variable {α : Type u} {K : Type v} [Field K]

/-- What the lots can take. -/
def total (capacity : α → K) (lots : List α) : K := (lots.map capacity).sum

/-- What is spent on all lots. -/
def spent (parts : List (α × K)) : K := (parts.map Prod.snd).sum

/-- The values weighed by what is spent on their lots. -/
def weighted (value : α → K) (parts : List (α × K)) : K :=
  (parts.map (fun part => part.2 * value part.1)).sum

@[simp] theorem total_nil (capacity : α → K) : total capacity [] = 0 := rfl

@[simp] theorem total_cons (capacity : α → K) (lot : α) (rest : List α) :
    total capacity (lot :: rest) = capacity lot + total capacity rest := List.sum_cons

@[simp] theorem spent_nil : spent ([] : List (α × K)) = 0 := rfl

@[simp] theorem spent_cons (part : α × K) (rest : List (α × K)) :
    spent (part :: rest) = part.2 + spent rest := List.sum_cons

@[simp] theorem weighted_nil (value : α → K) : weighted value [] = 0 := rfl

@[simp] theorem weighted_cons (value : α → K) (part : α × K) (rest : List (α × K)) :
    weighted value (part :: rest) = part.2 * value part.1 + weighted value rest := List.sum_cons

theorem weighted_neg (value : α → K) (parts : List (α × K)) :
    weighted (fun lot => -value lot) parts = -weighted value parts := by
  induction parts with
  | nil => simp
  | cons part rest ih =>
    rw [weighted_cons, weighted_cons, ih]
    ring

variable [LinearOrder K]

/-- Each lot with what is spent on it. -/
def spend (capacity : α → K) (budget : K) : List α → List (α × K)
  | [] => []
  | lot :: rest =>
    (lot, min budget (capacity lot)) ::
      spend capacity (budget - min budget (capacity lot)) rest

/-- The lots that took something. -/
def touched (parts : List (α × K)) : List (α × K) := parts.filter (fun part => 0 < part.2)

theorem mem_touched {parts : List (α × K)} {part : α × K} :
    part ∈ touched parts ↔ part ∈ parts ∧ 0 < part.2 := by
  rw [touched, List.mem_filter, decide_eq_true_eq]

/-- Spending keeps the lots and their order. -/
theorem spend_lots (capacity : α → K) (budget : K) (lots : List α) :
    (spend capacity budget lots).map Prod.fst = lots := by
  induction lots generalizing budget with
  | nil => rfl
  | cons lot rest ih =>
    rw [spend, List.map_cons, ih]

theorem spend_mem {capacity : α → K} {budget : K} {lots : List α} {part : α × K}
    (member : part ∈ spend capacity budget lots) : part.1 ∈ lots := by
  rw [← spend_lots capacity budget lots]
  exact List.mem_map_of_mem member

/-- The lots that took something stand in the order of the lots. -/
theorem touched_sorted {better : α → α → Prop} (capacity : α → K) (budget : K) {lots : List α}
    (sorted : lots.Pairwise better) :
    (touched (spend capacity budget lots)).Pairwise
      (fun first second => better first.1 second.1) := by
  rw [← spend_lots capacity budget lots, List.pairwise_map] at sorted
  exact sorted.sublist List.filter_sublist

section Ordered

variable [IsStrictOrderedRing K] {capacity value : α → K} {lots : List α} {budget budget' : K}

/-! ## What is spent -/

theorem spend_nonneg (capacities : ∀ lot ∈ lots, 0 ≤ capacity lot) (nonnegative : 0 ≤ budget) :
    ∀ part ∈ spend capacity budget lots, 0 ≤ part.2 := by
  induction lots generalizing budget with
  | nil =>
    intro part member
    cases member
  | cons lot rest ih =>
    intro part member
    rcases List.mem_cons.mp member with rfl | later
    · exact le_min nonnegative (capacities lot List.mem_cons_self)
    · exact ih (fun other listed => capacities other (List.mem_cons_of_mem _ listed))
        (sub_nonneg.mpr (min_le_left _ _)) part later

theorem total_nonneg (capacities : ∀ lot ∈ lots, 0 ≤ capacity lot) : 0 ≤ total capacity lots := by
  refine List.sum_nonneg fun amount listed => ?_
  obtain ⟨lot, member, rfl⟩ := List.mem_map.mp listed
  exact capacities lot member

/-- The whole budget is spent, unless the lots cannot take it. -/
theorem spent_spend (capacities : ∀ lot ∈ lots, 0 ≤ capacity lot) (nonnegative : 0 ≤ budget) :
    spent (spend capacity budget lots) = min budget (total capacity lots) := by
  induction lots generalizing budget with
  | nil => exact (min_eq_right nonnegative).symm
  | cons lot rest ih =>
    have capacitiesRest : ∀ other ∈ rest, 0 ≤ capacity other := fun other listed =>
      capacities other (List.mem_cons_of_mem _ listed)
    have restNonnegative := total_nonneg capacitiesRest
    rw [spend, spent_cons, ih capacitiesRest (sub_nonneg.mpr (min_le_left _ _)),
      total_cons]
    rcases le_total budget (capacity lot) with small | large
    · rw [min_eq_left small, sub_self, min_eq_left restNonnegative, add_zero,
        min_eq_left (small.trans (le_add_of_nonneg_right restNonnegative))]
    · rw [min_eq_right large, ← min_add_add_left, add_sub_cancel]

omit [IsStrictOrderedRing K] in
/-- An exhausted budget buys nothing. -/
theorem weighted_exhausted (capacities : ∀ lot ∈ lots, 0 ≤ capacity lot) :
    weighted value (spend capacity 0 lots) = 0 := by
  induction lots with
  | nil => rfl
  | cons lot rest ih =>
    rw [spend, min_eq_left (capacities lot List.mem_cons_self), sub_self, weighted_cons,
      ih fun other listed => capacities other (List.mem_cons_of_mem _ listed),
      zero_mul, add_zero]

/-- What the lots cannot take makes no difference. -/
theorem spend_capped (capacities : ∀ lot ∈ lots, 0 ≤ capacity lot) (nonnegative : 0 ≤ budget) :
    spend capacity (min budget (total capacity lots)) lots = spend capacity budget lots := by
  induction lots generalizing budget with
  | nil => rfl
  | cons lot rest ih =>
    have capacitiesRest : ∀ other ∈ rest, 0 ≤ capacity other := fun other listed =>
      capacities other (List.mem_cons_of_mem _ listed)
    have restNonnegative := total_nonneg capacitiesRest
    rw [total_cons, spend, spend]
    rcases le_total budget (capacity lot) with small | large
    · rw [min_eq_left (small.trans (le_add_of_nonneg_right restNonnegative))]
    · have first : min (min budget (capacity lot + total capacity rest)) (capacity lot) =
          capacity lot :=
        min_eq_right (le_min large (le_add_of_nonneg_right restNonnegative))
      have left : min budget (capacity lot + total capacity rest) - capacity lot =
          min (budget - capacity lot) (total capacity rest) := by
        rw [sub_eq_iff_eq_add', ← min_add_add_left, add_sub_cancel]
      rw [first, left, min_eq_right large,
        ih capacitiesRest (sub_nonneg.mpr large)]

theorem spent_exhausted (capacities : ∀ lot ∈ lots, 0 ≤ capacity lot) :
    spent (spend capacity 0 lots) = 0 := by
  rw [spent_spend capacities (le_refl 0), min_eq_left (total_nonneg capacities)]

omit [IsStrictOrderedRing K] in
theorem touched_exhausted (capacities : ∀ lot ∈ lots, 0 ≤ capacity lot) :
    touched (spend capacity 0 lots) = [] := by
  induction lots with
  | nil => rfl
  | cons lot rest ih =>
    rw [spend, min_eq_left (capacities lot List.mem_cons_self), sub_self, touched,
      List.filter_cons_of_neg (by simp)]
    exact ih fun other listed => capacities other (List.mem_cons_of_mem _ listed)

omit [IsStrictOrderedRing K] in
theorem touched_cons (lot : α) (rest : List α) (room : 0 < capacity lot) (positive : 0 < budget) :
    touched (spend capacity budget (lot :: rest)) =
      (lot, min budget (capacity lot)) ::
        touched (spend capacity (budget - min budget (capacity lot)) rest) := by
  have taken : 0 < min budget (capacity lot) := lt_min positive room
  rw [spend, touched, List.filter_cons_of_pos (by simpa using taken)]
  rfl

/-- Only lots of one kind take something exactly while the leading lots of that kind can take
the budget, or there are no others. -/
theorem touched_all_iff (capacities : ∀ lot ∈ lots, 0 < capacity lot) (positive : 0 < budget)
    (kind : α → Bool) :
    (∀ part ∈ touched (spend capacity budget lots), kind part.1 = true) ↔
      budget ≤ total capacity (lots.takeWhile kind) ∨ ∀ lot ∈ lots, kind lot = true := by
  induction lots generalizing budget with
  | nil => exact ⟨fun _ => Or.inr (by simp), fun _ => by simp [spend, touched]⟩
  | cons lot rest ih =>
    have room := capacities lot List.mem_cons_self
    have capacitiesRest : ∀ other ∈ rest, 0 < capacity other := fun other listed =>
      capacities other (List.mem_cons_of_mem lot listed)
    rw [touched_cons lot rest room positive, List.forall_mem_cons, List.forall_mem_cons]
    cases first : kind lot with
    | false =>
      rw [List.takeWhile_cons_of_neg (by rw [first]; exact Bool.false_ne_true), total_nil]
      constructor
      · exact fun every => absurd every.1 Bool.false_ne_true
      · rintro (small | every)
        · exact absurd positive (not_lt.mpr small)
        · exact absurd every.1 Bool.false_ne_true
    | true =>
      rw [List.takeWhile_cons_of_pos first, total_cons]
      rcases le_or_gt budget (capacity lot) with small | large
      · have enough : budget ≤ capacity lot + total capacity (rest.takeWhile kind) := by
          refine small.trans (le_add_of_nonneg_right (total_nonneg fun other listed => ?_))
          exact (capacitiesRest other (List.takeWhile_subset _ listed)).le
        rw [min_eq_left small, sub_self,
          touched_exhausted fun other listed => (capacitiesRest other listed).le]
        exact ⟨fun _ => Or.inl enough, fun _ => ⟨rfl, fun part none => absurd none List.not_mem_nil⟩⟩
      · rw [min_eq_right large.le, ih capacitiesRest (sub_pos.mpr large),
          sub_le_iff_le_add']
        simp only [true_and]

/-! ## Bounds on the weighted sum -/

/-- Only the lots that took something count. -/
theorem le_weighted {parts : List (α × K)} (nonnegative : ∀ part ∈ parts, 0 ≤ part.2) {low : K}
    (bounded : ∀ part ∈ touched parts, low ≤ value part.1) :
    low * spent parts ≤ weighted value parts := by
  induction parts with
  | nil => simp
  | cons part rest ih =>
    have later : low * spent rest ≤ weighted value rest := by
      refine ih (fun other listed => nonnegative other (List.mem_cons_of_mem _ listed))
        fun other listed => bounded other ?_
      rw [mem_touched] at listed ⊢
      exact ⟨List.mem_cons_of_mem _ listed.1, listed.2⟩
    have first : low * part.2 ≤ part.2 * value part.1 := by
      rcases (nonnegative part List.mem_cons_self).eq_or_lt with nothing | taken
      · rw [← nothing, mul_zero, zero_mul]
      · rw [mul_comm]
        exact mul_le_mul_of_nonneg_left
          (bounded part (mem_touched.mpr ⟨List.mem_cons_self, taken⟩)) taken.le
    rw [spent_cons, weighted_cons, mul_add]
    exact add_le_add first later

theorem weighted_le {parts : List (α × K)} (nonnegative : ∀ part ∈ parts, 0 ≤ part.2) {high : K}
    (bounded : ∀ part ∈ touched parts, value part.1 ≤ high) :
    weighted value parts ≤ high * spent parts := by
  have mirrored := @le_weighted _ _ _ _ _ (fun lot => -value lot) _ nonnegative (-high)
    fun part member => neg_le_neg (bounded part member)
  rw [weighted_neg, neg_mul] at mirrored
  exact neg_le_neg_iff.mp mirrored

/-- The average lies between the values of the first and the last lot that took something. -/
theorem average_between (capacities : ∀ lot ∈ lots, 0 ≤ capacity lot) (nonnegative : 0 ≤ budget)
    (sorted : lots.Pairwise (fun first second => value first ≤ value second))
    {best last : α × K} (first : best ∈ (touched (spend capacity budget lots)).head?)
    (final : last ∈ (touched (spend capacity budget lots)).getLast?) :
    value best.1 * spent (spend capacity budget lots) ≤
        weighted value (spend capacity budget lots) ∧
      weighted value (spend capacity budget lots) ≤
        value last.1 * spent (spend capacity budget lots) := by
  have ordered := touched_sorted capacity budget sorted
  have parts := spend_nonneg capacities nonnegative
  constructor
  · refine le_weighted parts fun part member => ?_
    have ahead := ordered.rel_head_of_rel_head_head member (le_refl _)
    rwa [← List.head_of_mem_head? first]
  · refine weighted_le parts fun part member => ?_
    have behind := ordered.rel_getLast_of_rel_getLast_getLast member (le_refl _)
    rwa [← List.getLast_of_mem_getLast? final]

/-! ## A larger budget -/

/-- What a larger budget adds is worth at least the lowest value. -/
theorem weighted_growth (capacity : α → K) {low : K} (bounded : ∀ lot ∈ lots, low ≤ value lot)
    (more : budget ≤ budget') :
    low * (spent (spend capacity budget' lots) - spent (spend capacity budget lots)) ≤
      weighted value (spend capacity budget' lots) -
        weighted value (spend capacity budget lots) := by
  induction lots generalizing budget budget' with
  | nil => simp [spend]
  | cons lot rest ih =>
    have taken : min budget (capacity lot) ≤ min budget' (capacity lot) :=
      min_le_min_right _ more
    have left : budget - min budget (capacity lot) ≤ budget' - min budget' (capacity lot) := by
      rcases le_total budget (capacity lot) with small | large
      · rw [min_eq_left small, sub_self]
        exact sub_nonneg.mpr (min_le_left _ _)
      · rw [min_eq_right large, min_eq_right (large.trans more)]
        exact sub_le_sub_right more _
    have later := ih
      (fun other listed => bounded other (List.mem_cons_of_mem _ listed)) left
    have first := mul_le_mul_of_nonneg_left (bounded lot List.mem_cons_self)
      (sub_nonneg.mpr taken)
    simp only [spend, spent_cons, weighted_cons]
    linarith

/-- The average of a larger budget is at least that of a smaller one, in products. -/
theorem average_monotone (capacities : ∀ lot ∈ lots, 0 ≤ capacity lot) (nonnegative : 0 ≤ budget)
    (more : budget ≤ budget')
    (sorted : lots.Pairwise (fun first second => value first ≤ value second)) :
    weighted value (spend capacity budget lots) * spent (spend capacity budget' lots) ≤
      weighted value (spend capacity budget' lots) * spent (spend capacity budget lots) := by
  induction lots generalizing budget budget' with
  | nil => simp [spend]
  | cons lot rest ih =>
    have capacitiesRest : ∀ other ∈ rest, 0 ≤ capacity other := fun other listed =>
      capacities other (List.mem_cons_of_mem _ listed)
    obtain ⟨ahead, sortedRest⟩ := List.pairwise_cons.mp sorted
    rcases le_total budget (capacity lot) with small | large
    · -- Only the first lot takes something, and its value is the lowest.
      have spentAll : spent (spend capacity budget (lot :: rest)) = budget := by
        rw [spent_spend capacities nonnegative, total_cons]
        exact min_eq_left (small.trans (le_add_of_nonneg_right (total_nonneg capacitiesRest)))
      have atFirst : weighted value (spend capacity budget (lot :: rest)) = budget * value lot := by
        rw [spend, min_eq_left small, sub_self, weighted_cons, weighted_exhausted capacitiesRest,
          add_zero]
      have lowest : value lot * spent (spend capacity budget' (lot :: rest)) ≤
          weighted value (spend capacity budget' (lot :: rest)) := by
        refine le_weighted (spend_nonneg capacities (nonnegative.trans more)) fun part member => ?_
        rcases List.mem_cons.mp (spend_mem (mem_touched.mp member).1) with same | later
        · rw [same]
        · exact ahead part.1 later
      rw [spentAll, atFirst, mul_assoc, mul_comm _ budget]
      exact mul_le_mul_of_nonneg_left lowest nonnegative
    · have left : budget - capacity lot ≤ budget' - capacity lot := sub_le_sub_right more _
      have inner := ih capacitiesRest (sub_nonneg.mpr large) left sortedRest
      have growth := mul_le_mul_of_nonneg_left (weighted_growth capacity ahead left)
        (capacities lot List.mem_cons_self)
      rw [spend, spend, min_eq_right large, min_eq_right (large.trans more)]
      simp only [spent_cons, weighted_cons]
      linarith

/-! ## Two averages -/

theorem exists_touched {parts : List (α × K)} (positive : 0 < spent parts) :
    ∃ part, part ∈ touched parts := by
  by_contra untouched
  have nothing : spent parts ≤ (parts.map Prod.snd).length • (0 : K) := by
    refine List.sum_le_card_nsmul _ 0 fun amount listed => ?_
    obtain ⟨part, member, rfl⟩ := List.mem_map.mp listed
    exact not_lt.mp fun taken => untouched ⟨part, mem_touched.mpr ⟨member, taken⟩⟩
  rw [nsmul_zero] at nothing
  exact absurd positive (not_lt.mpr nothing)

/-- Each lot adds to a weighted sum of nonnegative values. -/
theorem le_weighted_of_mem {parts : List (α × K)} (nonnegative : ∀ part ∈ parts, 0 ≤ part.2)
    (values : ∀ part ∈ parts, 0 ≤ value part.1) {part : α × K} (member : part ∈ parts) :
    part.2 * value part.1 ≤ weighted value parts := by
  refine List.single_le_sum (fun amount listed => ?_) _
    (List.mem_map_of_mem (f := fun part => part.2 * value part.1) member)
  obtain ⟨other, present, rfl⟩ := List.mem_map.mp listed
  exact mul_nonneg (nonnegative other present) (values other present)

theorem weighted_pos {parts : List (α × K)} (nonnegative : ∀ part ∈ parts, 0 ≤ part.2)
    (values : ∀ part ∈ parts, 0 < value part.1) (positive : 0 < spent parts) :
    0 < weighted value parts := by
  obtain ⟨part, taken⟩ := exists_touched positive
  obtain ⟨member, amount⟩ := mem_touched.mp taken
  exact (mul_pos amount (values part member)).trans_le
    (le_weighted_of_mem nonnegative (fun other present => (values other present).le) member)

/-- Where every lot that took something has one value, this value is the average. -/
theorem weighted_const {parts : List (α × K)} (nonnegative : ∀ part ∈ parts, 0 ≤ part.2)
    {middle : K} (same : ∀ part ∈ touched parts, value part.1 = middle) :
    weighted value parts = middle * spent parts := by
  apply le_antisymm
  · exact weighted_le nonnegative fun part member => (same part member).le
  · exact le_weighted nonnegative fun part member => (same part member).ge

/-- How far a lot's value is from another, relative to both. -/
def deviation (value : α → K) (middle : K) (lot : α) : K :=
  (value lot - middle) ^ 2 / (value lot * middle)

theorem deviation_nonneg {lot : α} {middle : K} (valuePositive : 0 < value lot)
    (middlePositive : 0 < middle) : 0 ≤ deviation value middle lot :=
  div_nonneg (sq_nonneg _) (mul_pos valuePositive middlePositive).le

theorem eq_of_deviation {lot : α} {middle : K} (valuePositive : 0 < value lot)
    (middlePositive : 0 < middle) (none : deviation value middle lot ≤ 0) :
    value lot = middle := by
  have zero := none.antisymm (deviation_nonneg valuePositive middlePositive)
  rcases div_eq_zero_iff.mp zero with square | product
  · exact sub_eq_zero.mp (pow_eq_zero_iff two_ne_zero |>.mp square)
  · exact absurd product (mul_pos valuePositive middlePositive).ne'

/-- Both averages against one value: together they exceed it by the lots' deviations. -/
theorem deviations_sum {parts : List (α × K)} {middle : K} (positive : 0 < middle)
    (values : ∀ part ∈ parts, 0 < value part.1) :
    weighted value parts / middle + middle * weighted (fun lot => (value lot)⁻¹) parts =
      2 * spent parts + weighted (deviation value middle) parts := by
  induction parts with
  | nil => simp
  | cons part rest ih =>
    have later := ih fun other listed => values other (List.mem_cons_of_mem _ listed)
    have valuePositive := values part List.mem_cons_self
    have first : part.2 * value part.1 / middle + middle * (part.2 * (value part.1)⁻¹) =
        2 * part.2 + part.2 * deviation value middle part.1 := by
      unfold deviation
      field_simp
      ring
    simp only [weighted_cons, spent_cons, add_div, mul_add]
    linarith

section Means

variable {parts : List (α × K)} (nonnegative : ∀ part ∈ parts, 0 ≤ part.2)
  (values : ∀ part ∈ parts, 0 < value part.1) (positive : 0 < spent parts)

include nonnegative values positive

theorem inverse_pos : 0 < weighted (fun lot => (value lot)⁻¹) parts :=
  weighted_pos nonnegative (fun part member => inv_pos.mpr (values part member)) positive

/-- The harmonic mean lacks the deviations from the arithmetic mean. -/
theorem mean_deviations :
    weighted value parts / spent parts * weighted (fun lot => (value lot)⁻¹) parts =
      spent parts + weighted (deviation value (weighted value parts / spent parts)) parts := by
  have weightedPositive := weighted_pos nonnegative values positive
  have sums := deviations_sum (div_pos weightedPositive positive) values
  rw [div_div_cancel₀ weightedPositive.ne'] at sums
  linarith

/-- The two means are equal exactly where every lot that took something has one value. -/
theorem means_eq_iff :
    weighted value parts / spent parts =
        spent parts / weighted (fun lot => (value lot)⁻¹) parts ↔
      ∃ middle, ∀ part ∈ touched parts, value part.1 = middle := by
  constructor
  · intro same
    have meanPositive := div_pos (weighted_pos nonnegative values positive) positive
    have deviations := mean_deviations nonnegative values positive
    rw [(eq_div_iff (inverse_pos nonnegative values positive).ne').mp same, left_eq_add]
      at deviations
    refine ⟨weighted value parts / spent parts, fun part taken => ?_⟩
    obtain ⟨member, amount⟩ := mem_touched.mp taken
    have small := le_weighted_of_mem nonnegative
      (fun other present => deviation_nonneg (values other present) meanPositive) member
    rw [deviations] at small
    exact eq_of_deviation (values part member) meanPositive
      (nonpos_of_mul_nonpos_right small amount)
  · rintro ⟨middle, same⟩
    have inverses : weighted (fun lot => (value lot)⁻¹) parts = middle⁻¹ * spent parts :=
      weighted_const nonnegative fun part member => by rw [same part member]
    rw [weighted_const nonnegative same, inverses, mul_div_cancel_right₀ _ positive.ne',
      div_mul_cancel_right₀ positive.ne', inv_inv]

end Means

end Ordered

end Spending
