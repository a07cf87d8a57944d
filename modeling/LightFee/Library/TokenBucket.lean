import Mathlib.Algebra.Order.Field.Basic
import Mathlib.Tactic.Linarith
import Mathlib.Tactic.Ring

/-!
# Token buckets

A bucket holds tokens up to a capacity and refills at a constant rate. What can
still be spent inside a time window is bounded by an allowance: a refill at a
time inside the window never raises it, and spending lowers it by the spent
weight up to the slack of the admission check. A run's total spending is
therefore at most the allowance at its start, which is one capacity and the
refill of the window, plus the slack of every admission.
-/

universe u

namespace TokenBucket

variable {K : Type u} [Field K] [LinearOrder K]

/-- Tokens, and the time up to which they are refilled. -/
structure Bucket (K : Type u) where
  tokens : K
  last : K

/-- Refill up to a time; an earlier time does nothing. -/
def refill (capacity rate : K) (bucket : Bucket K) (now : K) : Bucket K :=
  if now ≤ bucket.last then bucket
  else ⟨min capacity (bucket.tokens + (now - bucket.last) * rate), now⟩

/-- Spend a weight; an overdraft is forgiven. -/
def spend (bucket : Bucket K) (weight : K) : Bucket K :=
  { bucket with tokens := max 0 (bucket.tokens - weight) }

/-- What can be spent from `start` to `finish`. Before the window the tokens do
not matter: they can be full when it opens. -/
def allowance (capacity rate start finish : K) (bucket : Bucket K) : K :=
  (if bucket.last < start then capacity else bucket.tokens) +
    max 0 (finish - max bucket.last start) * rate

variable [IsStrictOrderedRing K] {capacity rate start finish : K} {bucket : Bucket K}

/-- A bucket never holds more than its capacity. -/
structure Bounded (capacity : K) (bucket : Bucket K) : Prop where
  nonnegative : 0 ≤ bucket.tokens
  capped : bucket.tokens ≤ capacity

omit [IsStrictOrderedRing K] in
theorem refill_reaches (capacity rate : K) (bucket : Bucket K) (now : K) :
    now ≤ (refill capacity rate bucket now).last := by
  unfold refill
  split_ifs with early
  · exact early
  · exact le_refl now

theorem refill_bounded (positive : 0 ≤ rate) (bounded : Bounded capacity bucket) (now : K) :
    Bounded capacity (refill capacity rate bucket now) := by
  unfold refill
  split_ifs with early
  · exact bounded
  · have gained : 0 ≤ (now - bucket.last) * rate :=
      mul_nonneg (by linarith) positive
    have capacityNonnegative := bounded.nonnegative.trans bounded.capped
    constructor
    · exact le_min capacityNonnegative (by linarith [bounded.nonnegative])
    · exact min_le_left _ _

theorem spend_bounded (bounded : Bounded capacity bucket) {weight : K} (positive : 0 ≤ weight) :
    Bounded capacity (spend bucket weight) := by
  constructor
  · exact le_max_left _ _
  · apply max_le
    · exact bounded.nonnegative.trans bounded.capped
    · linarith [bounded.capped]

theorem allowance_nonneg (positive : 0 ≤ rate) (bounded : Bounded capacity bucket) :
    0 ≤ allowance capacity rate start finish bucket := by
  have refilled : 0 ≤ max 0 (finish - max bucket.last start) * rate :=
    mul_nonneg (le_max_left _ _) positive
  unfold allowance
  split_ifs
  · linarith [bounded.nonnegative, bounded.capped]
  · linarith [bounded.nonnegative]

/-- A window allows one capacity and its own refill. -/
theorem allowance_le (positive : 0 ≤ rate) (bounded : Bounded capacity bucket)
    (window : start ≤ finish) :
    allowance capacity rate start finish bucket ≤ capacity + (finish - start) * rate := by
  have refilled : max 0 (finish - max bucket.last start) * rate ≤ (finish - start) * rate := by
    apply mul_le_mul_of_nonneg_right _ positive
    apply max_le
    · linarith
    · linarith [le_max_right bucket.last start]
  unfold allowance
  split_ifs
  · linarith
  · linarith [bounded.capped]

/-- A refill before the window closes does not raise the allowance. -/
theorem refill_allowance_le (positive : 0 ≤ rate) {now : K}
    (unclosed : now ≤ finish) :
    allowance capacity rate start finish (refill capacity rate bucket now) ≤
      allowance capacity rate start finish bucket := by
  unfold refill
  split_ifs with early
  · exact le_refl _
  · have later : bucket.last < now := not_le.mp early
    unfold allowance
    dsimp only
    by_cases opened : now < start
    · have before : bucket.last < start := later.trans opened
      rw [if_pos opened, if_pos before, max_eq_right opened.le, max_eq_right before.le]
    · have reached : start ≤ now := not_lt.mp opened
      rw [if_neg opened, max_eq_left reached, max_eq_right (by linarith : (0 : K) ≤ finish - now)]
      by_cases before : bucket.last < start
      · rw [if_pos before, max_eq_right before.le,
          max_eq_right (by linarith : (0 : K) ≤ finish - start)]
        have shrinks : (finish - now) * rate ≤ (finish - start) * rate :=
          mul_le_mul_of_nonneg_right (by linarith) positive
        linarith [min_le_left capacity (bucket.tokens + (now - bucket.last) * rate)]
      · rw [if_neg before, max_eq_left (not_lt.mp before),
          max_eq_right (by linarith : (0 : K) ≤ finish - bucket.last)]
        have whole : (finish - bucket.last) * rate =
            (now - bucket.last) * rate + (finish - now) * rate := by ring
        linarith [min_le_right capacity (bucket.tokens + (now - bucket.last) * rate)]

/-- Spending never raises the allowance. -/
theorem spend_allowance_le (bounded : Bounded capacity bucket) {weight : K} (positive : 0 ≤ weight) :
    allowance capacity rate start finish (spend bucket weight) ≤
      allowance capacity rate start finish bucket := by
  have lowered : max 0 (bucket.tokens - weight) ≤ bucket.tokens :=
    max_le bounded.nonnegative (by linarith)
  unfold allowance spend
  dsimp only
  split_ifs
  · exact le_refl _
  · linarith

/-- An admitted weight inside the window is paid for by the allowance, up to the
slack of the admission check. -/
theorem spend_pays {weight slack : K} (opened : start ≤ bucket.last) (slackNonnegative : 0 ≤ slack)
    (admitted : weight ≤ bucket.tokens + slack) :
    allowance capacity rate start finish (spend bucket weight) + weight ≤
      allowance capacity rate start finish bucket + slack := by
  have paid : max 0 (bucket.tokens - weight) + weight ≤ bucket.tokens + slack := by
    rw [max_add]
    exact max_le (by linarith) (by linarith)
  unfold allowance spend
  dsimp only
  rw [if_neg (not_lt.mpr opened), if_neg (not_lt.mpr opened)]
  linarith

end TokenBucket
