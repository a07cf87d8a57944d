import Mathlib.Algebra.Order.BigOperators.Group.List
import Mathlib.Algebra.Order.Field.Basic
import Mathlib.Algebra.Order.Field.Rat
import Mathlib.Data.List.TakeWhile
import Mathlib.Tactic.Linarith

/-!
# Close capacity of an order book

A close takes levels from the best price on, up to a slippage limit. The capacity compares the
target, which counts the base asset, with the quote value of these levels. The two units give one
minimum only where the target is small enough for both sums or where the sums are equal.
-/

namespace LightFee.MarketData

/-- One price level of an order book; its size counts the base asset. -/
structure LiquidityLevel where
  price : ℚ
  size : ℚ
deriving DecidableEq

structure ExecutionLiquiditySnapshot where
  symbol : String
  venue : String
  bids : List LiquidityLevel := []
  asks : List LiquidityLevel := []

/-! ## The source's functions -/

/-- The loop over the levels: it ends at the first level beyond the limit. -/
def maxFillableLoop (ref slippageLimitBps filled : ℚ) : List LiquidityLevel → ℚ
  | [] => filled
  | lvl :: rest =>
    let slippage := |lvl.price / ref - 1| * 10000
    if slippageLimitBps < slippage then filled
    else maxFillableLoop ref slippageLimitBps (filled + lvl.price * lvl.size) rest

def maxFillable (levels : List LiquidityLevel) (slippageLimitBps : ℚ) : ℚ :=
  match levels with
  | [] => 0
  | best :: _ =>
    let ref := best.price
    if ref ≤ 0 then 0 else maxFillableLoop ref slippageLimitBps 0 levels

namespace ExecutionLiquiditySnapshot

def maxFillableBuy (snapshot : ExecutionLiquiditySnapshot) (slippageLimitBps : ℚ) : ℚ :=
  maxFillable snapshot.asks slippageLimitBps

def maxFillableSell (snapshot : ExecutionLiquiditySnapshot) (slippageLimitBps : ℚ) : ℚ :=
  maxFillable snapshot.bids slippageLimitBps

end ExecutionLiquiditySnapshot

def chunkedL2CloseCapacity (snapshot : ExecutionLiquiditySnapshot)
    (targetQuantity maxSlippageBps : ℚ) (side : String) : ℚ :=
  if side = "buy" then min targetQuantity (snapshot.maxFillableBuy maxSlippageBps)
  else min targetQuantity (snapshot.maxFillableSell maxSlippageBps)

/-! ## What the capacity should be -/

/-- The levels a close takes from: a buy takes the asks. -/
def ExecutionLiquiditySnapshot.closeLevels (snapshot : ExecutionLiquiditySnapshot)
    (side : String) : List LiquidityLevel :=
  if side = "buy" then snapshot.asks else snapshot.bids

def bestPrice (levels : List LiquidityLevel) : ℚ := (levels.head?.map LiquidityLevel.price).getD 0

/-- The price differs from the best by at most the limit, in ten-thousandths of the best. -/
def WithinLimit (best limit price : ℚ) : Prop := |price - best| * 10000 ≤ limit * best

instance (best limit price : ℚ) : Decidable (WithinLimit best limit price) :=
  inferInstanceAs (Decidable (_ ≤ _))

/-- The levels ahead of the first one beyond the limit. -/
def leadingLevels (levels : List LiquidityLevel) (limit : ℚ) : List LiquidityLevel :=
  levels.takeWhile (fun level => WithinLimit (bestPrice levels) limit level.price)

def baseSize (levels : List LiquidityLevel) : ℚ := (levels.map LiquidityLevel.size).sum

def quoteSize (levels : List LiquidityLevel) : ℚ :=
  (levels.map (fun level => level.price * level.size)).sum

/-- A quantity taken off the levels in their order: each level with what it gives. -/
def takeOff (quantity : ℚ) : List LiquidityLevel → List (LiquidityLevel × ℚ)
  | [] => []
  | level :: rest =>
    (level, min quantity level.size) :: takeOff (quantity - min quantity level.size) rest

/-- Positive prices and sizes. -/
def Priced (levels : List LiquidityLevel) : Prop :=
  ∀ level ∈ levels, 0 < level.price ∧ 0 < level.size

/-- A book whose sides are sorted, best first, with positive prices and sizes. -/
structure ExecutionLiquiditySnapshot.Sorted (snapshot : ExecutionLiquiditySnapshot) : Prop where
  bids : (snapshot.bids.map LiquidityLevel.price).Pairwise (· > ·)
  asks : (snapshot.asks.map LiquidityLevel.price).Pairwise (· < ·)
  bidsPriced : Priced snapshot.bids
  asksPriced : Priced snapshot.asks

/-- The capacity is the smaller of the target and the leading levels' base size; what it takes
off the book stays within the limit; and it grows with the limit and the target. -/
structure CapacityExact (snapshot : ExecutionLiquiditySnapshot) (target limit : ℚ)
    (side : String) : Prop where
  value : chunkedL2CloseCapacity snapshot target limit side =
    min target (baseSize (leadingLevels (snapshot.closeLevels side) limit))
  within : ∀ taken ∈ takeOff (chunkedL2CloseCapacity snapshot target limit side)
      (snapshot.closeLevels side), 0 < taken.2 →
    WithinLimit (bestPrice (snapshot.closeLevels side)) limit taken.1.price
  monotone : ∀ target' limit', target ≤ target' → limit ≤ limit' →
    chunkedL2CloseCapacity snapshot target limit side ≤
      chunkedL2CloseCapacity snapshot target' limit' side

/-! ## The loop -/

theorem within_limit_iff {best : ℚ} (positive : 0 < best) (limit price : ℚ) :
    WithinLimit best limit price ↔ ¬ limit < |price / best - 1| * 10000 := by
  have ratio : |price / best - 1| = |price - best| / best := by
    rw [div_sub_one positive.ne', abs_div, abs_of_pos positive]
  rw [ratio, not_lt, div_mul_eq_mul_div, div_le_iff₀ positive, WithinLimit]

/-- The loop adds the quote value of the levels ahead of the first one beyond the limit. -/
theorem loop_eq {ref : ℚ} (positive : 0 < ref) (limit filled : ℚ)
    (levels : List LiquidityLevel) :
    maxFillableLoop ref limit filled levels =
      filled + quoteSize (levels.takeWhile (fun level => WithinLimit ref limit level.price)) := by
  induction levels generalizing filled with
  | nil => exact (add_zero filled).symm
  | cons level rest ih =>
    rw [maxFillableLoop]
    by_cases within : WithinLimit ref limit level.price
    · have kept := (within_limit_iff positive limit level.price).mp within
      rw [if_neg kept, ih, List.takeWhile_cons_of_pos (by simpa using within),
        quoteSize, quoteSize, List.map_cons, List.sum_cons, add_assoc]
    · have beyond := not_not.mp (mt (within_limit_iff positive limit level.price).mpr within)
      rw [if_pos beyond, List.takeWhile_cons_of_neg (by simpa using within)]
      exact (add_zero filled).symm

theorem max_fillable_eq {levels : List LiquidityLevel} (priced : Priced levels) (limit : ℚ) :
    maxFillable levels limit = quoteSize (leadingLevels levels limit) := by
  cases levels with
  | nil => rfl
  | cons best rest =>
    have positive := (priced best List.mem_cons_self).1
    have loop : maxFillable (best :: rest) limit = maxFillableLoop best.price limit 0 (best :: rest) :=
      if_neg (not_le.mpr positive)
    rw [loop, loop_eq positive, zero_add]
    rfl

theorem close_levels_priced {snapshot : ExecutionLiquiditySnapshot} (sorted : snapshot.Sorted)
    (side : String) : Priced (snapshot.closeLevels side) := by
  unfold ExecutionLiquiditySnapshot.closeLevels
  split_ifs
  · exact sorted.asksPriced
  · exact sorted.bidsPriced

/-- The capacity is the smaller of the target and the leading levels' quote value. -/
theorem capacity_eq {snapshot : ExecutionLiquiditySnapshot} (sorted : snapshot.Sorted)
    (target limit : ℚ) (side : String) :
    chunkedL2CloseCapacity snapshot target limit side =
      min target (quoteSize (leadingLevels (snapshot.closeLevels side) limit)) := by
  rw [← max_fillable_eq (close_levels_priced sorted side)]
  unfold chunkedL2CloseCapacity ExecutionLiquiditySnapshot.closeLevels
  split_ifs <;> rfl

/-! ## Sums over leading levels -/

theorem leading_mem {levels : List LiquidityLevel} {limit : ℚ} {level : LiquidityLevel}
    (leading : level ∈ leadingLevels levels limit) : level ∈ levels :=
  List.takeWhile_subset _ leading

theorem best_nonneg {levels : List LiquidityLevel} (priced : Priced levels) :
    0 ≤ bestPrice levels := by
  cases levels with
  | nil => exact le_refl 0
  | cons best rest => exact (priced best List.mem_cons_self).1.le

/-- A larger limit has the levels of a smaller one ahead, and perhaps more. -/
theorem leading_prefix {levels : List LiquidityLevel} (priced : Priced levels)
    {limit limit' : ℚ} (larger : limit ≤ limit') :
    leadingLevels levels limit <+: leadingLevels levels limit' := by
  have looser (level : LiquidityLevel) : (WithinLimit (bestPrice levels) limit level.price ∧
      WithinLimit (bestPrice levels) limit' level.price) ↔
        WithinLimit (bestPrice levels) limit level.price := by
    refine and_iff_left_of_imp fun within => le_trans within ?_
    exact mul_le_mul_of_nonneg_right larger (best_nonneg priced)
  have again : (leadingLevels levels limit').takeWhile
      (fun level => WithinLimit (bestPrice levels) limit level.price) =
        leadingLevels levels limit := by
    rw [leadingLevels, List.takeWhile_takeWhile, leadingLevels]
    simp only [decide_eq_true_eq, looser]
  rw [← again]
  exact List.takeWhile_prefix _

theorem quote_append (first second : List LiquidityLevel) :
    quoteSize (first ++ second) = quoteSize first + quoteSize second := by
  rw [quoteSize, List.map_append, List.sum_append]
  rfl

theorem quote_nonneg {levels : List LiquidityLevel} (priced : Priced levels) :
    0 ≤ quoteSize levels := by
  refine List.sum_nonneg fun value listed => ?_
  obtain ⟨level, member, rfl⟩ := List.mem_map.mp listed
  exact (mul_pos (priced level member).1 (priced level member).2).le

theorem base_nonneg {levels : List LiquidityLevel} (priced : Priced levels) :
    0 ≤ baseSize levels := by
  refine List.sum_nonneg fun value listed => ?_
  obtain ⟨level, member, rfl⟩ := List.mem_map.mp listed
  exact (priced level member).2.le

/-- A larger limit does not lower the quote value ahead of it. -/
theorem quote_monotone {levels : List LiquidityLevel} (priced : Priced levels)
    {limit limit' : ℚ} (larger : limit ≤ limit') :
    quoteSize (leadingLevels levels limit) ≤ quoteSize (leadingLevels levels limit') := by
  obtain ⟨more, ahead⟩ := leading_prefix priced larger
  rw [← ahead]
  have pricedMore : Priced more := by
    intro level member
    refine priced level (@leading_mem _ limit' _ ?_)
    rw [← ahead]
    exact List.mem_append_right _ member
  rw [quote_append]
  exact le_add_of_nonneg_right (quote_nonneg pricedMore)

/-! ## Taking off the book -/

theorem take_off_nothing {levels : List LiquidityLevel} (priced : Priced levels) {quantity : ℚ}
    (nothing : quantity ≤ 0) : ∀ taken ∈ takeOff quantity levels, taken.2 ≤ 0 := by
  induction levels generalizing quantity with
  | nil =>
    intro taken member
    cases member
  | cons level rest ih =>
    have smaller : min quantity level.size = quantity :=
      min_eq_left (nothing.trans (priced level List.mem_cons_self).2.le)
    intro taken member
    rw [takeOff, smaller, sub_self] at member
    rcases List.mem_cons.mp member with rfl | later
    · exact nothing
    · exact ih (fun other listed => priced other (List.mem_cons_of_mem _ listed))
        (le_refl 0) taken later

/-- A quantity of at most the leading base size is taken from leading levels. -/
theorem take_off_leading {levels : List LiquidityLevel} (priced : Priced levels)
    (within : LiquidityLevel → Bool) {quantity : ℚ}
    (small : quantity ≤ baseSize (levels.takeWhile within)) :
    ∀ taken ∈ takeOff quantity levels, 0 < taken.2 → within taken.1 = true := by
  induction levels generalizing quantity with
  | nil =>
    intro taken member
    cases member
  | cons level rest ih =>
    have pricedRest : Priced rest := fun other listed =>
      priced other (List.mem_cons_of_mem _ listed)
    intro taken member given
    cases ahead : within level with
    | false =>
      -- The cut is here, so the quantity is nothing.
      rw [List.takeWhile_cons_of_neg (by rw [ahead]; exact Bool.false_ne_true)] at small
      exact absurd (take_off_nothing priced small taken member) (not_le.mpr given)
    | true =>
      rw [List.takeWhile_cons_of_pos ahead, baseSize, List.map_cons, List.sum_cons] at small
      rcases List.mem_cons.mp member with rfl | later
      · exact ahead
      · refine ih pricedRest ?_ taken later given
        rcases le_total quantity level.size with least | whole
        · rw [min_eq_left least, sub_self]
          exact base_nonneg fun other listed =>
            pricedRest other (List.takeWhile_subset _ listed)
        · rw [min_eq_right whole]
          exact sub_le_iff_le_add'.mpr small

/-! ## The capacity -/

theorem min_eq_min_iff (target left right : ℚ) :
    min target left = min target right ↔ (target ≤ left ∧ target ≤ right) ∨ left = right := by
  constructor
  · intro same
    rcases le_or_gt target left with small | large
    · rw [min_eq_left small] at same
      exact Or.inl ⟨small, same.le.trans (min_le_right _ _)⟩
    · rw [min_eq_right large.le] at same
      rcases min_choice target right with atTarget | atRight
      · exact absurd (same.trans atTarget) large.ne
      · exact Or.inr (same.trans atRight)
  · rintro (⟨left, right⟩ | same)
    · rw [min_eq_left left, min_eq_left right]
    · rw [same]

theorem capacity_monotone {snapshot : ExecutionLiquiditySnapshot} (sorted : snapshot.Sorted)
    (side : String) {target target' limit limit' : ℚ} (targets : target ≤ target')
    (limits : limit ≤ limit') :
    chunkedL2CloseCapacity snapshot target limit side ≤
      chunkedL2CloseCapacity snapshot target' limit' side := by
  rw [capacity_eq sorted, capacity_eq sorted]
  exact min_le_min targets (quote_monotone (close_levels_priced sorted side) limits)

/-- The capacity is exact exactly when the target is at most both sums over the leading levels,
the base size and the quote value, or the two sums are equal. -/
theorem close_capacity_exact_iff (snapshot : ExecutionLiquiditySnapshot)
    (sorted : snapshot.Sorted) (target limit : ℚ) (side : String) :
    let leading := leadingLevels (snapshot.closeLevels side) limit
    CapacityExact snapshot target limit side ↔
      (target ≤ quoteSize leading ∧ target ≤ baseSize leading) ∨
        quoteSize leading = baseSize leading := by
  intro leading
  rw [← min_eq_min_iff, ← capacity_eq sorted]
  refine ⟨CapacityExact.value, fun value => ⟨value, ?_, ?_⟩⟩
  · have small : chunkedL2CloseCapacity snapshot target limit side ≤ baseSize leading :=
      value.le.trans (min_le_right _ _)
    intro taken member given
    exact of_decide_eq_true
      (take_off_leading (close_levels_priced sorted side) _ small taken member given)
  · exact fun _ _ targets limits => capacity_monotone sorted side targets limits

/-- Two bids, the second ten percent below the first. -/
def steepBids : ExecutionLiquiditySnapshot :=
  { symbol := "BTCUSDT", venue := "binance", bids := [⟨100, 1⟩, ⟨90, 1⟩] }

theorem steep_bids_sorted : steepBids.Sorted where
  bids := by decide +kernel
  asks := by decide +kernel
  bidsPriced := by unfold Priced; decide +kernel
  asksPriced := by unfold Priced; decide +kernel

/-- One unit is at most the base size and the quote value of the first bid. -/
theorem close_capacity_exact_iff_steep : CapacityExact steepBids 1 50 "sell" :=
  (close_capacity_exact_iff steepBids steep_bids_sorted 1 50 "sell").mpr
    (Or.inl (by decide +kernel))

/-- Two units exceed the first bid, but its quote value is a hundred: the capacity takes the
second bid, beyond the limit. -/
theorem steep_bids_overrun :
    ¬ ∀ (snapshot : ExecutionLiquiditySnapshot) (target limit : ℚ) (side : String),
      snapshot.Sorted → 0 ≤ target → 0 ≤ limit → CapacityExact snapshot target limit side := by
  intro claimed
  have taken := (claimed steepBids 2 50 "sell" steep_bids_sorted (by decide +kernel)
    (by decide +kernel)).within (⟨90, 1⟩, 1) (by decide +kernel) (by decide +kernel)
  exact absurd taken (by decide +kernel)

end LightFee.MarketData
