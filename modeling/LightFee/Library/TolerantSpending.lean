import LightFee.Library.Spending

/-!
# Spending that leaves a remainder

A budget is spent on lots in their order, and the lots are left as soon as no more of it is open
than is tolerated. What is settled so is again the budget of an exact spending, and it grows with
the budget.
-/

universe u v

namespace Spending

variable {α : Type u} {K : Type v} [Field K] [LinearOrder K]

/-- What is spent when the lots are left as soon as no more than the tolerance is open. -/
def settled (capacity : α → K) (tolerance : K) : K → List α → K
  | _, [] => 0
  | budget, lot :: rest =>
    let taken := min (capacity lot) budget
    if budget - taken ≤ tolerance then taken
    else taken + settled capacity tolerance (budget - taken) rest

variable [IsStrictOrderedRing K] {capacity : α → K} {tolerance : K} {lots : List α}
  {budget budget' : K}

omit [IsStrictOrderedRing K] in
/-- A lot after which too much is open gives all it has. -/
theorem left_over {available : K} (tolerated : 0 ≤ tolerance)
    (openStill : ¬ budget - min available budget ≤ tolerance) : available ≤ budget := by
  refine le_of_not_ge fun small => openStill ?_
  rw [min_eq_right small, sub_self]
  exact tolerated

theorem settled_nonneg (capacities : ∀ lot ∈ lots, 0 ≤ capacity lot) (nonnegative : 0 ≤ budget) :
    0 ≤ settled capacity tolerance budget lots := by
  induction lots generalizing budget with
  | nil => exact le_refl _
  | cons lot rest ih =>
    have taken := le_min (capacities lot List.mem_cons_self) nonnegative
    rw [settled]
    split_ifs
    · exact taken
    · exact add_nonneg taken (ih
        (fun other listed => capacities other (List.mem_cons_of_mem _ listed))
        (sub_nonneg.mpr (min_le_right _ _)))

theorem settled_le_total (capacities : ∀ lot ∈ lots, 0 ≤ capacity lot) :
    settled capacity tolerance budget lots ≤ total capacity lots := by
  induction lots generalizing budget with
  | nil => exact le_refl _
  | cons lot rest ih =>
    have capacitiesRest : ∀ other ∈ rest, 0 ≤ capacity other := fun other listed =>
      capacities other (List.mem_cons_of_mem _ listed)
    rw [settled, total_cons]
    split_ifs
    · exact (min_le_left _ _).trans (le_add_of_nonneg_right (total_nonneg capacitiesRest))
    · exact add_le_add (min_le_left _ _) (ih capacitiesRest)

omit [IsStrictOrderedRing K] in
/-- What stays open is tolerated, or the lots are used up. -/
theorem settled_open (tolerated : 0 ≤ tolerance) :
    budget - settled capacity tolerance budget lots ≤ tolerance ∨
      settled capacity tolerance budget lots = total capacity lots := by
  induction lots generalizing budget with
  | nil => exact .inr rfl
  | cons lot rest ih =>
    rw [settled, total_cons]
    split_ifs with little
    · exact .inl little
    · rw [min_eq_left (left_over tolerated little)]
      obtain enough | used := @ih (budget - capacity lot)
      · rw [← sub_sub]
        exact .inl enough
      · exact .inr (by rw [used])

/-- The lots can take the budget, up to the tolerance, exactly when it is settled up to it. -/
theorem settled_enough_iff (capacities : ∀ lot ∈ lots, 0 ≤ capacity lot) {slack : K}
    (tolerated : 0 ≤ tolerance) (within : tolerance ≤ slack) :
    budget ≤ settled capacity tolerance budget lots + slack ↔
      budget ≤ total capacity lots + slack := by
  refine ⟨fun enough => enough.trans (add_le_add_left (settled_le_total capacities) slack),
    fun enough => ?_⟩
  obtain little | used : budget - settled capacity tolerance budget lots ≤ tolerance ∨
      settled capacity tolerance budget lots = total capacity lots := settled_open tolerated
  · exact sub_le_iff_le_add'.mp (little.trans within)
  · rwa [used]

/-- A larger budget settles at least as much. -/
theorem settled_monotone (capacities : ∀ lot ∈ lots, 0 ≤ capacity lot) (tolerated : 0 ≤ tolerance)
    (nonnegative : 0 ≤ budget) (more : budget ≤ budget') :
    settled capacity tolerance budget lots ≤ settled capacity tolerance budget' lots := by
  induction lots generalizing budget budget' with
  | nil => exact le_refl _
  | cons lot rest ih =>
    have capacitiesRest : ∀ other ∈ rest, 0 ≤ capacity other := fun other listed =>
      capacities other (List.mem_cons_of_mem _ listed)
    have taken : min (capacity lot) budget ≤ min (capacity lot) budget' :=
      min_le_min_left _ more
    rw [settled, settled]
    by_cases little : budget - min (capacity lot) budget ≤ tolerance
    · rw [if_pos little]
      split_ifs
      · exact taken
      · exact taken.trans (le_add_of_nonneg_right
          (settled_nonneg capacitiesRest (sub_nonneg.mpr (min_le_right _ _))))
    · -- the smaller budget leaves too much open, and the larger one leaves more
      have larger := left_over tolerated little
      rw [if_neg little]
      rw [min_eq_left larger] at little ⊢
      rw [min_eq_left (larger.trans more),
        if_neg (fun enough => little ((sub_le_sub_right more _).trans enough))]
      exact (add_le_add_iff_left _).mpr (ih capacitiesRest
        (sub_nonneg.mpr larger) (sub_le_sub_right more _))

/-- One lot of an exact spending of what is settled. -/
theorem spend_settled (lot : α) (rest : List α)
    (capacities : ∀ other ∈ lot :: rest, 0 ≤ capacity other) (tolerated : 0 ≤ tolerance) :
    spend capacity (settled capacity tolerance budget (lot :: rest)) (lot :: rest) =
      (lot, min (capacity lot) budget) ::
        spend capacity (if budget - min (capacity lot) budget ≤ tolerance then 0
          else settled capacity tolerance (budget - min (capacity lot) budget) rest) rest := by
  rw [settled, spend]
  split_ifs with little
  · rw [min_eq_left (min_le_left _ _), sub_self]
  · have later : 0 ≤ settled capacity tolerance (budget - min (capacity lot) budget) rest :=
      settled_nonneg (fun other listed => capacities other (List.mem_cons_of_mem _ listed))
        (sub_nonneg.mpr (min_le_right _ _))
    rw [min_eq_left (left_over tolerated little)] at later ⊢
    rw [min_eq_right (le_add_of_nonneg_right later), add_sub_cancel_left]

end Spending
