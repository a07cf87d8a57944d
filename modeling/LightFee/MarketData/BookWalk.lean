import LightFee.Library.Spending
import LightFee.MarketData.LevelMerge
import LightFee.MarketData.Liquidity

/-!
# The average price of a book walk

Both book types estimate the price of a quote notional by walking a side from
its best level on. The walk weighs each price by the quote taken at it, so its
average is an arithmetic mean of prices over quote. The volume weighted price
divides the quote by the base it buys, which is the harmonic mean. The two agree
exactly while the walk stays at one price; on a deeper walk the average is above.
-/

namespace LightFee.MarketData

/-! ## The source's functions -/

section Walk

variable {α : Type} (price quantity : α → ℚ)

/-- The loop over the levels: the filled quote and the cost basis. -/
def walkLoop (targetQuote filledQuote costBasis : ℚ) : List α → ℚ × ℚ
  | [] => (filledQuote, costBasis)
  | lvl :: rest =>
    let levelQuote := price lvl * quantity lvl
    if levelQuote ≤ 0 then walkLoop targetQuote filledQuote costBasis rest
    else
      let take := min levelQuote (targetQuote - filledQuote)
      if targetQuote ≤ filledQuote + take then (filledQuote + take, costBasis + take * price lvl)
      else walkLoop targetQuote (filledQuote + take) (costBasis + take * price lvl) rest

/-- The body both book types share: the filled quote and its average price. -/
def walk (levels : List α) (targetQuote : ℚ) : ℚ × ℚ :=
  if levels.isEmpty ∨ targetQuote ≤ 0 then (0, 0)
  else
    let walked := walkLoop price quantity targetQuote 0 0 levels
    if walked.1 ≤ 0 then (0, 0) else (walked.1, walked.2 / walked.1)

end Walk

def walkLevels (levels : List PriceLevel) (targetQuote : ℚ) : ℚ × ℚ :=
  walk PriceLevel.price PriceLevel.quantity levels targetQuote

namespace LocalL2Book

def vwapBuy (book : LocalL2Book) (targetQuote : ℚ) : ℚ × ℚ := walkLevels book.asks targetQuote

def vwapSell (book : LocalL2Book) (targetQuote : ℚ) : ℚ × ℚ := walkLevels book.bids targetQuote

/-- The loop of the structure check over one side. -/
def validSide (descending : Bool) (previousPrice : Option ℚ) : List PriceLevel → Bool
  | [] => true
  | level :: rest =>
    if level.price ≤ 0 ∨ level.quantity ≤ 0 then false
    else
      let ordered := match previousPrice with
        | none => true
        | some previous =>
          if descending then decide (previous > level.price) else decide (previous < level.price)
      ordered && validSide descending (some level.price) rest

def hasValidExecutionStructure (book : LocalL2Book) : Bool :=
  (!book.bids.isEmpty && validSide true none book.bids) &&
    (!book.asks.isEmpty && validSide false none book.asks) && decide (book.bestBid < book.bestAsk)

end LocalL2Book

namespace ExecutionLiquiditySnapshot

def walkLevels (levels : List LiquidityLevel) (targetQuote : ℚ) : ℚ × ℚ :=
  walk LiquidityLevel.price LiquidityLevel.size levels targetQuote

def estimateVwapBuy (snapshot : ExecutionLiquiditySnapshot) (targetQuote : ℚ) : ℚ × ℚ :=
  walkLevels snapshot.asks targetQuote

def estimateVwapSell (snapshot : ExecutionLiquiditySnapshot) (targetQuote : ℚ) : ℚ × ℚ :=
  walkLevels snapshot.bids targetQuote

end ExecutionLiquiditySnapshot

/-! ## The volume weighted price -/

section Volume

variable {α : Type} (price quantity : α → ℚ)

/-- The quote value of a level. -/
def levelNotional (lvl : α) : ℚ := price lvl * quantity lvl

/-- A quote amount spent from the first level on: each level with what it takes. -/
def spendQuote (levels : List α) (quote : ℚ) : List (α × ℚ) :=
  Spending.spend (levelNotional price quantity) quote levels

/-- The base that a quote amount buys from the first level on. -/
def baseBought (levels : List α) (quote : ℚ) : ℚ :=
  ((spendQuote price quantity levels quote).map (fun part => part.2 / price part.1)).sum

end Volume

/-- The levels that a walk of a side takes from: a buy takes the asks. -/
def LocalL2Book.levels (book : LocalL2Book) : BookSide → List PriceLevel
  | .bid => book.bids
  | .ask => book.asks

def LocalL2Book.vwap (book : LocalL2Book) : BookSide → ℚ → ℚ × ℚ
  | .bid => book.vwapSell
  | .ask => book.vwapBuy

def ExecutionLiquiditySnapshot.estimateVwap (snapshot : ExecutionLiquiditySnapshot) :
    BookSide → ℚ → ℚ × ℚ
  | .bid => snapshot.estimateVwapSell
  | .ask => snapshot.estimateVwapBuy

/-- The snapshot's level for a level of the book. -/
def PriceLevel.liquidity (level : PriceLevel) : LiquidityLevel := ⟨level.price, level.quantity⟩

/-- The snapshot holds the sides of the book. -/
structure Exports (book : LocalL2Book) (snapshot : ExecutionLiquiditySnapshot) : Prop where
  bids : snapshot.bids = book.bids.map PriceLevel.liquidity
  asks : snapshot.asks = book.asks.map PriceLevel.liquidity

/-- Best price first, with positive prices and quantities. -/
structure OrderedSide (side : BookSide) (levels : List PriceLevel) : Prop where
  sorted : levels.Pairwise (fun first second => side.better first.price second.price)
  positive : ∀ level ∈ levels, 0 < level.price ∧ 0 < level.quantity

/-- The price of the best level. -/
def topPrice (levels : List PriceLevel) : ℚ := (levels.head?.map PriceLevel.price).getD 0

/-- The quote value of the levels at the best price. -/
def topNotional (levels : List PriceLevel) : ℚ :=
  Spending.total (levelNotional PriceLevel.price PriceLevel.quantity)
    (levels.takeWhile (fun level => level.price = topPrice levels))

/-- Both book types return the quote that the side can fill, at the price that divides this quote
by the base it buys; the price lies between the best and the last price of the walk, and it moves
away from the best with the target. -/
structure VwapExact (book : LocalL2Book) (snapshot : ExecutionLiquiditySnapshot) (side : BookSide)
    (targetQuote : ℚ) : Prop where
  same : snapshot.estimateVwap side targetQuote = book.vwap side targetQuote
  filled : (book.vwap side targetQuote).1 = min targetQuote
    (Spending.total (levelNotional PriceLevel.price PriceLevel.quantity) (book.levels side))
  price : (book.vwap side targetQuote).2 = (book.vwap side targetQuote).1 /
    baseBought PriceLevel.price PriceLevel.quantity (book.levels side)
      (book.vwap side targetQuote).1
  between : ∀ best ∈ (book.levels side).head?,
    ∀ last ∈ (Spending.touched (spendQuote PriceLevel.price PriceLevel.quantity
      (book.levels side) (book.vwap side targetQuote).1)).getLast?,
    side.better best.price (book.vwap side targetQuote).2 ∧
      side.better (book.vwap side targetQuote).2 last.1.price
  monotone : ∀ targetQuote', targetQuote ≤ targetQuote' →
    side.better (book.vwap side targetQuote).2 (book.vwap side targetQuote').2

/-! ## The walk spends the target -/

section Spent

variable {α : Type} {price quantity : α → ℚ} {levels : List α}

theorem notional_positive (positive : ∀ level ∈ levels, 0 < price level ∧ 0 < quantity level) :
    ∀ level ∈ levels, 0 < levelNotional price quantity level := fun level member =>
  mul_pos (positive level member).1 (positive level member).2

theorem notional_nonneg (positive : ∀ level ∈ levels, 0 < price level ∧ 0 < quantity level) :
    ∀ level ∈ levels, 0 ≤ levelNotional price quantity level := fun level member =>
  (notional_positive positive level member).le

/-- The loop spends what is left of the target on the remaining levels. -/
theorem walk_loop_eq (positive : ∀ level ∈ levels, 0 < price level ∧ 0 < quantity level)
    {targetQuote filledQuote : ℚ} (costBasis : ℚ) (short : filledQuote < targetQuote) :
    walkLoop price quantity targetQuote filledQuote costBasis levels =
      (filledQuote + Spending.spent (spendQuote price quantity levels (targetQuote - filledQuote)),
        costBasis + Spending.weighted price
          (spendQuote price quantity levels (targetQuote - filledQuote))) := by
  induction levels generalizing filledQuote costBasis with
  | nil => simp [walkLoop, spendQuote, Spending.spend]
  | cons lvl rest ih =>
    have positiveRest : ∀ level ∈ rest, 0 < price level ∧ 0 < quantity level :=
      fun level member => positive level (List.mem_cons_of_mem _ member)
    have capacities := notional_nonneg positiveRest
    have kept : ¬ price lvl * quantity lvl ≤ 0 :=
      not_le.mpr (notional_positive positive lvl List.mem_cons_self)
    rw [walkLoop, if_neg kept, spendQuote, Spending.spend, Spending.spent_cons,
      Spending.weighted_cons, levelNotional, min_comm (targetQuote - filledQuote)]
    have within : min (price lvl * quantity lvl) (targetQuote - filledQuote) ≤
      targetQuote - filledQuote := min_le_right _ _
    generalize min (price lvl * quantity lvl) (targetQuote - filledQuote) = take at within ⊢
    by_cases full : targetQuote ≤ filledQuote + take
    · -- The target is reached, so the later levels take nothing.
      have exhausted : targetQuote - filledQuote - take = 0 :=
        sub_eq_zero.mpr ((sub_le_iff_le_add'.mpr full).antisymm within)
      rw [exhausted, Spending.spent_exhausted capacities, Spending.weighted_exhausted capacities,
        add_zero, add_zero]
      exact if_pos full
    · have later := ih positiveRest (costBasis + take * price lvl) (not_le.mp full)
      rw [spendQuote, ← sub_sub, add_assoc, add_assoc] at later
      exact (if_neg full).trans later

theorem parts_nonneg (positive : ∀ level ∈ levels, 0 < price level ∧ 0 < quantity level)
    {targetQuote : ℚ} (target : 0 < targetQuote) :
    ∀ part ∈ spendQuote price quantity levels targetQuote, 0 ≤ part.2 :=
  Spending.spend_nonneg (notional_nonneg positive) target.le

theorem parts_priced (positive : ∀ level ∈ levels, 0 < price level ∧ 0 < quantity level)
    (quote : ℚ) : ∀ part ∈ spendQuote price quantity levels quote, 0 < price part.1 :=
  fun part member => (positive part.1 (Spending.spend_mem member)).1

theorem spent_positive (positive : ∀ level ∈ levels, 0 < price level ∧ 0 < quantity level)
    (occupied : levels ≠ []) {targetQuote : ℚ} (target : 0 < targetQuote) :
    0 < Spending.spent (spendQuote price quantity levels targetQuote) := by
  rw [spendQuote, Spending.spent_spend (notional_nonneg positive) target.le]
  cases levels with
  | nil => exact absurd rfl occupied
  | cons best rest =>
    have first := notional_positive positive best List.mem_cons_self
    have others := Spending.total_nonneg fun level member =>
      notional_nonneg positive level (List.mem_cons_of_mem _ member)
    rw [Spending.total_cons]
    exact lt_min target (add_pos_of_pos_of_nonneg first others)

/-- The walk fills what the levels take of the target, at their prices weighed by the quote. -/
theorem walk_eq (positive : ∀ level ∈ levels, 0 < price level ∧ 0 < quantity level)
    {targetQuote : ℚ} (target : 0 < targetQuote) :
    walk price quantity levels targetQuote =
      (Spending.spent (spendQuote price quantity levels targetQuote),
        Spending.weighted price (spendQuote price quantity levels targetQuote) /
          Spending.spent (spendQuote price quantity levels targetQuote)) := by
  cases levels with
  | nil => simp [walk, spendQuote, Spending.spend]
  | cons best rest =>
    have filled := spent_positive positive (List.cons_ne_nil best rest) target
    have loop := walk_loop_eq positive 0 target
    rw [sub_zero, zero_add, zero_add] at loop
    have entered : ¬ ((best :: rest).isEmpty = true ∨ targetQuote ≤ 0) := by
      simpa using target
    rw [walk, if_neg entered, loop]
    exact if_neg (not_le.mpr filled)

theorem walk_filled (positive : ∀ level ∈ levels, 0 < price level ∧ 0 < quantity level)
    {targetQuote : ℚ} (target : 0 < targetQuote) :
    (walk price quantity levels targetQuote).1 =
      min targetQuote (Spending.total (levelNotional price quantity) levels) := by
  rw [walk_eq positive target]
  exact Spending.spent_spend (notional_nonneg positive) target.le

theorem base_bought_eq (levels : List α) (quote : ℚ) :
    baseBought price quantity levels quote =
      Spending.weighted (fun lvl => (price lvl)⁻¹) (spendQuote price quantity levels quote) := by
  simp only [baseBought, Spending.weighted, div_eq_mul_inv]

/-- Spending what the walk filled is spending the target. -/
theorem spend_filled (positive : ∀ level ∈ levels, 0 < price level ∧ 0 < quantity level)
    {targetQuote : ℚ} (target : 0 < targetQuote) :
    spendQuote price quantity levels (walk price quantity levels targetQuote).1 =
      spendQuote price quantity levels targetQuote := by
  rw [walk_filled positive target]
  exact Spending.spend_capped (notional_nonneg positive) target.le

/-- The walk's price is the volume weighted one exactly where it stays at one price. -/
theorem walk_price_iff (positive : ∀ level ∈ levels, 0 < price level ∧ 0 < quantity level)
    {targetQuote : ℚ} (target : 0 < targetQuote) :
    (walk price quantity levels targetQuote).2 = (walk price quantity levels targetQuote).1 /
        baseBought price quantity levels (walk price quantity levels targetQuote).1 ↔
      ∃ middle, ∀ part ∈ Spending.touched (spendQuote price quantity levels targetQuote),
        price part.1 = middle := by
  rw [base_bought_eq, spend_filled positive target, walk_eq positive target]
  rcases eq_or_ne levels [] with rfl | occupied
  · simp [spendQuote, Spending.spend, Spending.touched]
  · exact Spending.means_eq_iff (parts_nonneg positive target) (parts_priced positive targetQuote)
      (spent_positive positive occupied target)

end Spent

/-! ## Both book types walk alike -/

theorem walk_loop_map {α β : Type} (level : α → β) (price quantity : β → ℚ)
    (targetQuote filledQuote costBasis : ℚ) (levels : List α) :
    walkLoop price quantity targetQuote filledQuote costBasis (levels.map level) =
      walkLoop (price ∘ level) (quantity ∘ level) targetQuote filledQuote costBasis levels := by
  induction levels generalizing filledQuote costBasis with
  | nil => rfl
  | cons lvl rest ih =>
    simp only [List.map_cons, walkLoop, ih, Function.comp_apply]

theorem walk_liquidity (levels : List PriceLevel) (targetQuote : ℚ) :
    ExecutionLiquiditySnapshot.walkLevels (levels.map PriceLevel.liquidity) targetQuote =
      walkLevels levels targetQuote := by
  rw [ExecutionLiquiditySnapshot.walkLevels, walk, walk_loop_map, List.isEmpty_map]
  rfl

theorem vwap_same {book : LocalL2Book} {snapshot : ExecutionLiquiditySnapshot}
    (exports : Exports book snapshot) (side : BookSide) (targetQuote : ℚ) :
    snapshot.estimateVwap side targetQuote = book.vwap side targetQuote := by
  cases side with
  | bid =>
    rw [ExecutionLiquiditySnapshot.estimateVwap, ExecutionLiquiditySnapshot.estimateVwapSell,
      exports.bids]
    exact walk_liquidity book.bids targetQuote
  | ask =>
    rw [ExecutionLiquiditySnapshot.estimateVwap, ExecutionLiquiditySnapshot.estimateVwapBuy,
      exports.asks]
    exact walk_liquidity book.asks targetQuote

theorem vwap_eq (book : LocalL2Book) (side : BookSide) (targetQuote : ℚ) :
    book.vwap side targetQuote = walkLevels (book.levels side) targetQuote := by
  cases side <;> rfl

/-! ## Prices along a side -/

/-- A number that is lower for a better price. -/
def BookSide.rank : BookSide → ℚ → ℚ
  | .bid, price => -price
  | .ask, price => price

theorem better_iff_rank (side : BookSide) (first second : ℚ) :
    side.better first second ↔ side.rank first ≤ side.rank second := by
  cases side with
  | bid => exact neg_le_neg_iff.symm
  | ask => exact Iff.rfl

theorem rank_div (side : BookSide) (amount divisor : ℚ) :
    side.rank (amount / divisor) = side.rank amount / divisor := by
  cases side with
  | bid => exact (neg_div divisor amount).symm
  | ask => rfl

theorem rank_weighted (side : BookSide) (parts : List (PriceLevel × ℚ)) :
    Spending.weighted (fun level => side.rank level.price) parts =
      side.rank (Spending.weighted PriceLevel.price parts) := by
  cases side with
  | bid => exact Spending.weighted_neg PriceLevel.price parts
  | ask => rfl

section Ordered

variable {side : BookSide} {levels : List PriceLevel} {targetQuote : ℚ}

theorem rank_sorted (ordered : OrderedSide side levels) :
    levels.Pairwise (fun first second => side.rank first.price ≤ side.rank second.price) :=
  ordered.sorted.imp fun better => (better_iff_rank side _ _).mp better

/-- The best level takes something of every target. -/
theorem best_touched {best : PriceLevel} {rest : List PriceLevel}
    (ordered : OrderedSide side (best :: rest)) (target : 0 < targetQuote) :
    (best, min targetQuote (levelNotional PriceLevel.price PriceLevel.quantity best)) ∈
      (Spending.touched (spendQuote PriceLevel.price PriceLevel.quantity (best :: rest)
        targetQuote)).head? := by
  rw [spendQuote, Spending.touched_cons best rest
    (notional_positive ordered.positive best List.mem_cons_self) target]
  rfl

/-- The walk's price is no better than the best and no worse than the last one it touched. -/
theorem walk_between (ordered : OrderedSide side levels) (target : 0 < targetQuote)
    {best : PriceLevel} (first : best ∈ levels.head?) {last : PriceLevel × ℚ}
    (final : last ∈ (Spending.touched
      (spendQuote PriceLevel.price PriceLevel.quantity levels targetQuote)).getLast?) :
    side.better best.price (walkLevels levels targetQuote).2 ∧
      side.better (walkLevels levels targetQuote).2 last.1.price := by
  obtain ⟨rest, rfl⟩ := List.head?_eq_some_iff.mp first
  have filled := spent_positive ordered.positive (List.cons_ne_nil best rest) target
  have bounds := Spending.average_between (notional_nonneg ordered.positive) target.le
    (rank_sorted ordered) (best_touched ordered target) final
  rw [rank_weighted] at bounds
  rw [better_iff_rank, better_iff_rank, walkLevels, walk_eq ordered.positive target, rank_div,
    le_div_iff₀ filled, div_le_iff₀ filled]
  exact bounds

/-- A larger target moves the walk's price away from the best. -/
theorem walk_monotone (ordered : OrderedSide side levels) (target : 0 < targetQuote)
    {targetQuote' : ℚ} (more : targetQuote ≤ targetQuote') :
    side.better (walkLevels levels targetQuote).2 (walkLevels levels targetQuote').2 := by
  have target' := target.trans_le more
  rw [better_iff_rank, walkLevels, walkLevels, walk_eq ordered.positive target,
    walk_eq ordered.positive target']
  rcases eq_or_ne levels [] with rfl | occupied
  · exact le_refl _
  · rw [rank_div, rank_div, div_le_div_iff₀ (spent_positive ordered.positive occupied target)
      (spent_positive ordered.positive occupied target'), ← rank_weighted, ← rank_weighted]
    exact Spending.average_monotone (notional_nonneg ordered.positive) target.le more
      (rank_sorted ordered)

/-- A walk stays at one price exactly while the best price can take the target, or the side has
no other price. -/
theorem one_price_iff (ordered : OrderedSide side levels) (target : 0 < targetQuote) :
    (∃ middle, ∀ part ∈ Spending.touched
        (spendQuote PriceLevel.price PriceLevel.quantity levels targetQuote),
      part.1.price = middle) ↔
      targetQuote ≤ topNotional levels ∨ ∀ level ∈ levels, level.price = topPrice levels := by
  have atTop := @Spending.touched_all_iff _ _ _ _ _ _ levels _
    (notional_positive ordered.positive) target
    (fun level => level.price = topPrice levels)
  simp only [decide_eq_true_eq] at atTop
  rw [topNotional, ← atTop]
  refine ⟨?_, fun same => ⟨_, same⟩⟩
  rintro ⟨middle, same⟩
  cases levels with
  | nil =>
    intro part member
    cases member
  | cons best rest =>
    -- The best level is touched, so the one price is its price.
    have first : best.price = middle :=
      same _ (List.mem_of_mem_head? (best_touched ordered target))
    intro part member
    exact (same part member).trans first.symm

end Ordered

/-! ## What the structure check admits -/

/-- The check's direction: bids descend. -/
def BookSide.descending : BookSide → Bool
  | .bid => true
  | .ask => false

/-- A side that passes the check is ordered, and no better than the price before it. -/
theorem valid_side_ordered {side : BookSide} {previousPrice : Option ℚ} {levels : List PriceLevel}
    (valid : LocalL2Book.validSide side.descending previousPrice levels = true) :
    OrderedSide side levels ∧
      ∀ previous ∈ previousPrice, ∀ level ∈ levels, side.better previous level.price := by
  induction levels generalizing previousPrice with
  | nil => exact ⟨⟨List.Pairwise.nil, by simp⟩, by simp⟩
  | cons level rest ih =>
    unfold LocalL2Book.validSide at valid
    have accepted : ¬ (level.price ≤ 0 ∨ level.quantity ≤ 0) := by
      intro refused
      rw [if_pos refused] at valid
      exact absurd valid Bool.false_ne_true
    rw [if_neg accepted] at valid
    obtain ⟨pricePositive, quantityPositive⟩ := not_or.mp accepted
    obtain ⟨next, later⟩ := Bool.and_eq_true_iff.mp valid
    obtain ⟨ordered, behind⟩ := ih later
    have worse : ∀ other ∈ rest, side.better level.price other.price :=
      behind level.price rfl
    refine ⟨⟨List.pairwise_cons.mpr ⟨worse, ordered.sorted⟩, ?_⟩, ?_⟩
    · intro other member
      rcases List.mem_cons.mp member with rfl | listed
      · exact ⟨not_le.mp pricePositive, not_le.mp quantityPositive⟩
      · exact ordered.positive other listed
    · rintro previous rfl
      have first : side.better previous level.price := by
        cases side with
        | bid => exact (of_decide_eq_true next).le
        | ask => exact (of_decide_eq_true next).le
      intro other member
      rcases List.mem_cons.mp member with rfl | listed
      · exact first
      · exact IsTrans.trans _ _ _ first (worse other listed)

/-- A book that passes the structure check has two ordered sides. -/
theorem valid_structure_ordered {book : LocalL2Book}
    (valid : book.hasValidExecutionStructure = true) (side : BookSide) :
    OrderedSide side (book.levels side) := by
  simp only [LocalL2Book.hasValidExecutionStructure, Bool.and_eq_true] at valid
  cases side with
  | bid => exact (@valid_side_ordered .bid none book.bids valid.1.1.2).1
  | ask => exact (@valid_side_ordered .ask none book.asks valid.1.2.2).1

/-! ## The estimate of a side -/

/-- The estimate is exact exactly when the levels at the best price can take the target, or the
side has no other price. -/
theorem vwap_exact_iff (book : LocalL2Book) (snapshot : ExecutionLiquiditySnapshot)
    (exports : Exports book snapshot) (side : BookSide)
    (ordered : OrderedSide side (book.levels side)) (targetQuote : ℚ) (target : 0 < targetQuote) :
    VwapExact book snapshot side targetQuote ↔
      targetQuote ≤ topNotional (book.levels side) ∨
        ∀ level ∈ book.levels side, level.price = topPrice (book.levels side) := by
  rw [← one_price_iff ordered target]
  constructor
  · intro exact'
    have price := exact'.price
    rw [vwap_eq] at price
    exact (walk_price_iff ordered.positive target).mp price
  · intro onePrice
    refine ⟨vwap_same exports side targetQuote, ?_, ?_, ?_, ?_⟩
    · rw [vwap_eq]
      exact walk_filled ordered.positive target
    · rw [vwap_eq]
      exact (walk_price_iff ordered.positive target).mpr onePrice
    · intro best first last final
      rw [vwap_eq] at final ⊢
      rw [walkLevels, spend_filled ordered.positive target] at final
      exact walk_between ordered target first final
    · intro targetQuote' more
      rw [vwap_eq, vwap_eq]
      exact walk_monotone ordered target more

/-- Two asks of one unit, the second two percent above the first. -/
def steepAsks : LocalL2Book :=
  { venue := "binance", symbol := "BTCUSDT", asks := [⟨100, 1⟩, ⟨102, 1⟩] }

def steepAsksSnapshot : ExecutionLiquiditySnapshot :=
  { symbol := "BTCUSDT", venue := "binance", asks := [⟨100, 1⟩, ⟨102, 1⟩] }

theorem steep_asks_exports : Exports steepAsks steepAsksSnapshot := ⟨rfl, rfl⟩

theorem steep_asks_ordered : OrderedSide .ask (steepAsks.levels .ask) where
  sorted := by decide +kernel
  positive := by decide +kernel

/-- The first ask alone can take sixty. -/
theorem vwap_exact_iff_steep : VwapExact steepAsks steepAsksSnapshot .ask 60 :=
  (vwap_exact_iff steepAsks steepAsksSnapshot steep_asks_exports .ask steep_asks_ordered 60
    (by decide +kernel)).mpr (Or.inl (by decide +kernel))

/-- Both asks together cost 202 for two units, and the estimate is above 101. -/
theorem steep_asks_overstated :
    ¬ ∀ (book : LocalL2Book) (snapshot : ExecutionLiquiditySnapshot) (side : BookSide)
      (targetQuote : ℚ), Exports book snapshot → OrderedSide side (book.levels side) →
        0 < targetQuote → VwapExact book snapshot side targetQuote := by
  intro claimed
  have price := (claimed steepAsks steepAsksSnapshot .ask 202 steep_asks_exports
    steep_asks_ordered (by decide +kernel)).price
  exact absurd price (by decide +kernel)

end LightFee.MarketData
