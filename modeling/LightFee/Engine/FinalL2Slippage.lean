import LightFee.Engine.EntryLocalL2
import LightFee.Engine.PendingEntry
import LightFee.Library.TolerantSpending

/-!
# The slippage of a taker leg

A leg that takes liquidity is priced by walking its side of the book until the base quantity is
filled. Exchanges count some books in contracts, so a level's quantity is scaled to base first. The
walk leaves a remainder that is too small to matter, and accepts a shortfall that is slightly larger.
-/

namespace LightFee.Engine

open LightFee.MarketData

/-! ## The source's functions -/

/-- What the walk raises: a `LookupError`, a `ValueError` or an `ArithmeticError`. -/
inductive SlippageError where
  | insufficientL2Depth
  | invalidL2Quantity
  | divisionByZero
deriving DecidableEq

/-- The loop over the levels: the base that was filled, and its quote. -/
def takerLoop (quantityToBaseScale : ℚ) :
    ℚ → ℚ → ℚ → List PriceLevel → Except SlippageError (ℚ × ℚ)
  | _, filledQuantity, filledQuote, [] => .ok (filledQuantity, filledQuote)
  | remainingQuantity, filledQuantity, filledQuote, level :: rest =>
    if level.price ≤ 0 ∨ level.quantity ≤ 0 then
      takerLoop quantityToBaseScale remainingQuantity filledQuantity filledQuote rest
    else if level.quantity * quantityToBaseScale ≤ 0 then .error .invalidL2Quantity
    else
      let takeQuantity := min (level.quantity * quantityToBaseScale) remainingQuantity
      if remainingQuantity - takeQuantity ≤ 1 / 10 ^ 12 then
        .ok (filledQuantity + takeQuantity, filledQuote + takeQuantity * level.price)
      else
        takerLoop quantityToBaseScale (remainingQuantity - takeQuantity)
          (filledQuantity + takeQuantity) (filledQuote + takeQuantity * level.price) rest

/-- The side of the book that an order takes from. -/
def takenSide : Side → BookSide
  | .buy => .ask
  | .sell => .bid

def referencePrice (book : LocalL2Book) : Side → ℚ
  | .buy => book.bestAsk
  | .sell => book.bestBid

/-- The slippage of an average price against the best one. -/
def slippageBps (vwap reference : ℚ) : Side → ℚ
  | .buy => (vwap / reference - 1) * 10000
  | .sell => (reference / vwap - 1) * 10000

/-- `_final_l2_taker_slippage_bps`: the slippage and the average price. -/
def finalL2TakerSlippageBps (book : LocalL2Book) (side : Side) (targetQuantity : ExactFloat)
    (quantityToBaseScale : ℚ) : Except SlippageError (ℚ × ℚ) :=
  match targetQuantity with
  | .finite target =>
    if target ≤ 0 ∨ quantityToBaseScale ≤ 0 then .error .invalidL2Quantity
    else
      match takerLoop quantityToBaseScale target 0 0 (book.levels (takenSide side)) with
      | .error raised => .error raised
      | .ok (filledQuantity, filledQuote) =>
        if filledQuantity + 1 / 10 ^ 9 < target ∨ filledQuote ≤ 0 then .error .insufficientL2Depth
        else
          let vwap := filledQuote / filledQuantity
          let reference := referencePrice book side
          if side = .buy ∧ reference = 0 then .error .divisionByZero
          else if vwap ≤ 0 ∨ reference ≤ 0 then .error .insufficientL2Depth
          else .ok (max (slippageBps vwap reference side) 0, vwap)
  | _ => .error .invalidL2Quantity

/-! ## The walk settles the target -/

/-- The base that a level offers. -/
def levelBase (quantityToBaseScale : ℚ) (level : PriceLevel) : ℚ :=
  level.quantity * quantityToBaseScale

/-- The base that the walk fills. -/
def filledBase (quantityToBaseScale target : ℚ) (levels : List PriceLevel) : ℚ :=
  Spending.settled (levelBase quantityToBaseScale) (1 / 10 ^ 12) target levels

/-- Each level with the base that is taken from it. -/
def takenBase (quantityToBaseScale target : ℚ) (levels : List PriceLevel) :
    List (PriceLevel × ℚ) :=
  Spending.spend (levelBase quantityToBaseScale) (filledBase quantityToBaseScale target levels)
    levels

section Walk

variable {side : BookSide} {levels : List PriceLevel} {scale target : ℚ}

theorem base_positive (ordered : OrderedSide side levels) (scaled : 0 < scale) :
    ∀ level ∈ levels, 0 < levelBase scale level := fun level member =>
  mul_pos (ordered.positive level member).2 scaled

theorem base_nonneg (ordered : OrderedSide side levels) (scaled : 0 < scale) :
    ∀ level ∈ levels, 0 ≤ levelBase scale level := fun level member =>
  (base_positive ordered scaled level member).le

theorem ordered_tail {level : PriceLevel} (ordered : OrderedSide side (level :: levels)) :
    OrderedSide side levels :=
  ⟨(List.pairwise_cons.mp ordered.sorted).2,
    fun other member => ordered.positive other (List.mem_cons_of_mem _ member)⟩

theorem taker_loop_eq (ordered : OrderedSide side levels) (scaled : 0 < scale)
    (filledQuantity filledQuote : ℚ) :
    takerLoop scale target filledQuantity filledQuote levels =
      .ok (filledQuantity + Spending.spent (takenBase scale target levels),
        filledQuote + Spending.weighted PriceLevel.price (takenBase scale target levels)) := by
  induction levels generalizing target filledQuantity filledQuote with
  | nil => simp [takerLoop, takenBase, Spending.spend]
  | cons level rest ih =>
    have later := ordered_tail ordered
    obtain ⟨priced, offered⟩ := ordered.positive level List.mem_cons_self
    have base : 0 < level.quantity * scale := base_positive ordered scaled level List.mem_cons_self
    have parts := @Spending.spend_settled _ _ _ _ _ _ (1 / 10 ^ 12) target level rest
      (base_nonneg ordered scaled) (by norm_num)
    rw [takerLoop, if_neg (not_or.mpr ⟨not_le.mpr priced, not_le.mpr offered⟩),
      if_neg (not_le.mpr base)]
    rw [takenBase, filledBase, parts, Spending.spent_cons, Spending.weighted_cons]
    dsimp only [levelBase]
    by_cases little : target - min (level.quantity * scale) target ≤ 1 / 10 ^ 12
    · simp only [little, if_true]
      rw [Spending.spent_exhausted (base_nonneg later scaled),
        Spending.weighted_exhausted (base_nonneg later scaled), add_zero, add_zero]
    · simp only [little, if_false]
      rw [ih later, takenBase, filledBase, add_assoc, add_assoc]

theorem filled_positive {level : PriceLevel} (ordered : OrderedSide side (level :: levels))
    (scaled : 0 < scale) (positive : 0 < target) : 0 < filledBase scale target (level :: levels) := by
  have taken : 0 < min (levelBase scale level) target :=
    lt_min (base_positive ordered scaled level List.mem_cons_self) positive
  rw [filledBase, Spending.settled]
  split_ifs
  · exact taken
  · exact add_pos_of_pos_of_nonneg taken (Spending.settled_nonneg
      (base_nonneg (ordered_tail ordered) scaled) (sub_nonneg.mpr (min_le_right _ _)))

theorem filled_nonneg (ordered : OrderedSide side levels) (scaled : 0 < scale) (positive : 0 < target) :
    0 ≤ filledBase scale target levels :=
  Spending.settled_nonneg (base_nonneg ordered scaled) positive.le

theorem taken_spent (ordered : OrderedSide side levels) (scaled : 0 < scale) (positive : 0 < target) :
    Spending.spent (takenBase scale target levels) = filledBase scale target levels := by
  rw [takenBase, Spending.spent_spend (base_nonneg ordered scaled)
    (filled_nonneg ordered scaled positive)]
  exact min_eq_left (Spending.settled_le_total (base_nonneg ordered scaled))

/-- The average price of what is taken. -/
def takenVwap (scale target : ℚ) (levels : List PriceLevel) : ℚ :=
  Spending.weighted PriceLevel.price (takenBase scale target levels) / filledBase scale target levels

/-- The average price is no better than the best one. -/
theorem best_better_vwap {best : PriceLevel} (ordered : OrderedSide side (best :: levels))
    (scaled : 0 < scale) (positive : 0 < target) :
    side.better best.price (takenVwap scale target (best :: levels)) := by
  have filled := filled_positive ordered scaled positive
  have sorted := rank_sorted ordered
  have lowest : ∀ part ∈ Spending.touched (takenBase scale target (best :: levels)),
      side.rank best.price ≤ side.rank part.1.price := by
    intro part member
    obtain same | later := List.mem_cons.mp (Spending.spend_mem (Spending.mem_touched.mp member).1)
    · rw [same]
    · exact (List.pairwise_cons.mp sorted).1 part.1 later
  have nonnegative : ∀ part ∈ takenBase scale target (best :: levels), 0 ≤ part.2 :=
    Spending.spend_nonneg (base_nonneg ordered scaled) filled.le
  have bound := @Spending.le_weighted _ _ _ _ _ (fun level => side.rank level.price) _ nonnegative _
    lowest
  rw [rank_weighted, taken_spent ordered scaled positive] at bound
  rw [better_iff_rank, takenVwap, rank_div, le_div_iff₀ filled]
  exact bound

/-- A larger target moves the average price away from the best. -/
theorem vwap_monotone {target' : ℚ} (ordered : OrderedSide side levels) (occupied : levels ≠ [])
    (scaled : 0 < scale) (positive : 0 < target) (more : target ≤ target') :
    side.better (takenVwap scale target levels) (takenVwap scale target' levels) := by
  obtain ⟨best, rest, rfl⟩ := List.exists_cons_of_ne_nil occupied
  have filled := filled_positive ordered scaled positive
  have filled' := filled_positive ordered scaled (positive.trans_le more)
  have capacities := base_nonneg ordered scaled
  have settles : filledBase scale target (best :: rest) ≤ filledBase scale target' (best :: rest) :=
    Spending.settled_monotone capacities (by norm_num) positive.le more
  have averages := Spending.average_monotone capacities filled.le settles (rank_sorted ordered)
  rw [rank_weighted, rank_weighted, ← takenBase, ← takenBase, taken_spent ordered scaled positive,
    taken_spent ordered scaled (positive.trans_le more)] at averages
  rw [better_iff_rank, takenVwap, takenVwap, rank_div, rank_div, div_le_div_iff₀ filled filled']
  exact averages

theorem vwap_positive {best : PriceLevel} (ordered : OrderedSide side (best :: levels))
    (scaled : 0 < scale) (positive : 0 < target) : 0 < takenVwap scale target (best :: levels) := by
  have filled := filled_positive ordered scaled positive
  have nonnegative : ∀ part ∈ takenBase scale target (best :: levels), 0 ≤ part.2 :=
    Spending.spend_nonneg (base_nonneg ordered scaled) filled.le
  have prices : ∀ part ∈ takenBase scale target (best :: levels), 0 < part.1.price :=
    fun part member => (ordered.positive part.1 (Spending.spend_mem member)).1
  refine div_pos (Spending.weighted_pos nonnegative prices ?_) filled
  rw [taken_spent ordered scaled positive]
  exact filled

end Walk

/-! ## The price of a taker leg -/

section Priced

variable {book : LocalL2Book} {scale target : ℚ}

/-- The best price of a side is the reference. -/
theorem reference_top (side : Side) :
    referencePrice book side = topPrice (book.levels (takenSide side)) := by
  cases side with
  | buy => rfl
  | sell => rfl

/-- The base that a side offers. -/
def offeredBase (book : LocalL2Book) (side : Side) (scale : ℚ) : ℚ :=
  Spending.total (levelBase scale) (book.levels (takenSide side))

theorem valid_occupied (valid : book.hasValidExecutionStructure = true) (side : BookSide) :
    book.levels side ≠ [] := by
  simp only [LocalL2Book.hasValidExecutionStructure, Bool.and_eq_true, Bool.not_eq_true',
    List.isEmpty_eq_false_iff] at valid
  cases side with
  | bid => exact valid.1.1.1
  | ask => exact valid.1.2.1

/-- Slippage against a better price is not negative. -/
theorem slippage_nonneg {side : Side} {vwap reference : ℚ} (priced : 0 < vwap)
    (referenced : 0 < reference) (worse : (takenSide side).better reference vwap) :
    0 ≤ slippageBps vwap reference side := by
  cases side with
  | buy => exact mul_nonneg (sub_nonneg.mpr ((one_le_div referenced).mpr worse)) (by norm_num)
  | sell => exact mul_nonneg (sub_nonneg.mpr ((one_le_div priced).mpr worse)) (by norm_num)

theorem slippage_monotone {side : Side} {vwap vwap' reference : ℚ} (priced' : 0 < vwap')
    (referenced : 0 < reference) (worse : (takenSide side).better vwap vwap') :
    slippageBps vwap reference side ≤ slippageBps vwap' reference side := by
  cases side with
  | buy =>
    refine mul_le_mul_of_nonneg_right (sub_le_sub_right ?_ 1) (by norm_num)
    exact div_le_div_of_nonneg_right worse referenced.le
  | sell =>
    refine mul_le_mul_of_nonneg_right (sub_le_sub_right ?_ 1) (by norm_num)
    exact div_le_div_of_nonneg_left referenced.le priced' worse

/-- In a valid book a leg is priced exactly when the side offers the target, up to the accepted
shortfall: at the average of what is taken, with a slippage that is not clamped. -/
theorem taker_priced (valid : book.hasValidExecutionStructure = true) (side : Side)
    (scaled : 0 < scale) (positive : 0 < target) :
    finalL2TakerSlippageBps book side (.finite target) scale =
      if target ≤ offeredBase book side scale + 1 / 10 ^ 9 then
        .ok (slippageBps (takenVwap scale target (book.levels (takenSide side)))
            (referencePrice book side) side,
          takenVwap scale target (book.levels (takenSide side)))
      else .error .insufficientL2Depth := by
  have ordered := valid_structure_ordered valid (takenSide side)
  obtain ⟨best, rest, levels⟩ := List.exists_cons_of_ne_nil (valid_occupied valid (takenSide side))
  rw [reference_top, offeredBase, finalL2TakerSlippageBps,
    if_neg (not_or.mpr ⟨not_le.mpr positive, not_le.mpr scaled⟩),
    taker_loop_eq ordered scaled 0 0, reference_top]
  dsimp only
  rw [zero_add, zero_add, taken_spent ordered scaled positive]
  rw [levels] at ordered ⊢
  have filled := filled_positive ordered scaled positive
  have quoted := vwap_positive ordered scaled positive
  have referenced : 0 < topPrice (best :: rest) := (ordered.positive best List.mem_cons_self).1
  have worse : (takenSide side).better (topPrice (best :: rest)) (takenVwap scale target (best :: rest)) :=
    best_better_vwap ordered scaled positive
  have quote : ¬ Spending.weighted PriceLevel.price (takenBase scale target (best :: rest)) ≤ 0 := by
    intro none
    exact absurd quoted (not_lt.mpr (div_nonpos_of_nonpos_of_nonneg none filled.le))
  have enough := @Spending.settled_enough_iff _ _ _ _ _ _ _ (best :: rest) target
    (base_nonneg ordered scaled) (1 / 10 ^ 9) (by norm_num : (0 : ℚ) ≤ 1 / 10 ^ 12) (by norm_num)
  rw [← filledBase] at enough
  by_cases offered : target ≤ Spending.total (levelBase scale) (best :: rest) + 1 / 10 ^ 9
  · rw [if_pos offered, if_neg (not_or.mpr ⟨not_lt.mpr (enough.mpr offered), quote⟩),
      if_neg (fun failed => referenced.ne' failed.2), ← takenVwap,
      if_neg (not_or.mpr ⟨not_le.mpr quoted, not_le.mpr referenced⟩),
      max_eq_left (slippage_nonneg quoted referenced worse)]
  · rw [if_neg offered, if_pos (.inl (not_le.mp fun filledUp => offered (enough.mp filledUp)))]

/-- A priced leg asked for a positive quantity, and the side offers it. -/
theorem taker_offered (valid : book.hasValidExecutionStructure = true) {side : Side}
    {quantity : ExactFloat} {priced : ℚ × ℚ}
    (answered : finalL2TakerSlippageBps book side quantity scale = .ok priced) :
    ∃ asked, quantity = .finite asked ∧ 0 < asked ∧
      asked ≤ offeredBase book side scale + 1 / 10 ^ 9 := by
  cases quantity with
  | finite asked =>
    by_cases refused : asked ≤ 0 ∨ scale ≤ 0
    · rw [finalL2TakerSlippageBps, if_pos refused] at answered
      cases answered
    · obtain ⟨positive, scaled⟩ := not_or.mp refused
      rw [taker_priced valid side (not_le.mp scaled) (not_le.mp positive)] at answered
      split_ifs at answered with offered
      exact ⟨asked, rfl, not_le.mp positive, offered⟩
  | infinite negative => cases answered
  | notANumber => cases answered

/-- What a larger order can fill a smaller one can, at no worse a price and no more slippage. -/
theorem taker_slippage_monotone (valid : book.hasValidExecutionStructure = true) (side : Side)
    (scaled : 0 < scale) (positive : 0 < target) {target' : ℚ} (more : target ≤ target')
    {slippage' vwap' : ℚ}
    (priced : finalL2TakerSlippageBps book side (.finite target') scale = .ok (slippage', vwap')) :
    ∃ slippage vwap,
      finalL2TakerSlippageBps book side (.finite target) scale = .ok (slippage, vwap) ∧
      0 ≤ slippage ∧ slippage ≤ slippage' ∧
      (takenSide side).better (referencePrice book side) vwap ∧ (takenSide side).better vwap vwap' := by
  have ordered := valid_structure_ordered valid (takenSide side)
  rw [taker_priced valid side scaled (positive.trans_le more)] at priced
  split_ifs at priced with offered
  obtain ⟨rfl, rfl⟩ := Prod.mk.inj (Except.ok.inj priced)
  rw [taker_priced valid side scaled positive, if_pos (more.trans offered)]
  have further := vwap_monotone ordered (valid_occupied valid (takenSide side)) scaled positive more
  rw [reference_top]
  obtain ⟨best, rest, levels⟩ := List.exists_cons_of_ne_nil (valid_occupied valid (takenSide side))
  rw [levels] at ordered further ⊢
  have referenced : 0 < topPrice (best :: rest) := (ordered.positive best List.mem_cons_self).1
  have worse : (takenSide side).better (topPrice (best :: rest)) (takenVwap scale target (best :: rest)) :=
    best_better_vwap ordered scaled positive
  have quoted := vwap_positive ordered scaled positive
  exact ⟨_, _, rfl, slippage_nonneg quoted referenced worse,
    slippage_monotone (vwap_positive ordered scaled (positive.trans_le more)) referenced further,
    worse, further⟩

end Priced

/-- A book with two levels on each side, in contracts of a tenth. -/
def contractBook : LocalL2Book where
  venue := "okx"
  symbol := "BTCUSDT"
  bids := [⟨100, 10⟩, ⟨99, 20⟩]
  asks := [⟨101, 10⟩, ⟨102, 20⟩]
  status := .hot
  observedAtMs := 1000

theorem contractBook_valid : contractBook.hasValidExecutionStructure = true := by decide +kernel

/-- Two of base take both asks. -/
theorem taker_priced_both :
    finalL2TakerSlippageBps contractBook .buy (.finite 2) (1 / 10) =
      if 2 ≤ offeredBase contractBook .buy (1 / 10) + 1 / 10 ^ 9 then
        .ok (slippageBps (takenVwap (1 / 10) 2 (contractBook.levels .ask))
            (referencePrice contractBook .buy) .buy,
          takenVwap (1 / 10) 2 (contractBook.levels .ask))
      else .error .insufficientL2Depth :=
  taker_priced contractBook_valid .buy (by norm_num) (by norm_num)

theorem taker_slippage_monotone_half : ∃ slippage vwap,
    finalL2TakerSlippageBps contractBook .buy (.finite 1) (1 / 10) = .ok (slippage, vwap) ∧
      0 ≤ slippage ∧ slippage ≤ 5000 / 101 ∧
      (takenSide .buy).better (referencePrice contractBook .buy) vwap ∧
      (takenSide .buy).better vwap (203 / 2) :=
  taker_slippage_monotone contractBook_valid .buy (by norm_num) (by norm_num)
    (by norm_num : (1 : ℚ) ≤ 2) (by decide +kernel)

end LightFee.Engine
