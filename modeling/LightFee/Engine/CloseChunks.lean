import LightFee.Engine.DriveSafety

/-!
# Close chunks with minimum notionals

A close above the notional cap is split in equal chunks, as few as the cap allows. Where a chunk
is below the smallest quantity that both venues take, fewer chunks are tried, and then the cap is
checked again. Fewer chunks never pass that check, so the chunks are the largest equal ones in
any case: they meet every minimum that equal chunks under the cap can meet.
-/

namespace LightFee.Engine

open LightFee.Venues

/-! ## The fewest chunks under the cap -/

/-- The chunks that a cap asks for. -/
def cappedCount (total price cap : ℚ) : Nat := ⌈total * price / cap⌉.toNat

section Capped

variable {total price cap : ℚ}

/-- A count keeps equal chunks under the cap when it reaches the capped count. -/
theorem under_cap_iff (priceCap : 0 < cap) {count : Nat} (some : 0 < count) :
    total / count * price ≤ cap ↔ cappedCount total price cap ≤ count := by
  have counted : (0 : ℚ) < count := Nat.cast_pos.mpr some
  have equal : total / count * price = total * price / count := by ring
  rw [cappedCount, Int.toNat_le, Int.ceil_le, div_le_iff₀ priceCap, equal, div_le_iff₀ counted,
    Int.cast_natCast, mul_comm (count : ℚ)]

/-- More than the cap is at least two chunks. -/
theorem one_lt_cappedCount (priceCap : 0 < cap) (exceeds : cap < total * price) :
    1 < cappedCount total price cap := by
  have ratio : 1 < total * price / cap := (one_lt_div priceCap).mpr exceeds
  have rounded : (1 : ℤ) < ⌈total * price / cap⌉ := by
    exact Int.lt_ceil.mpr (by exact_mod_cast ratio)
  rw [cappedCount]
  omega

/-- Trying fewer chunks ends at the capped count again: a smaller count misses the cap. -/
theorem fewerChunks_capped {minimum : ℚ} (positive : 0 < total) (priced : 0 < price)
    (priceCap : 0 < cap) (exceeds : cap < total * price)
    (minimumPositive : 0 < minimum) (short : total / cappedCount total price cap < minimum) :
    fewerChunks (.finite total) (.finite price) (.finite cap) (.finite minimum) =
      some (cappedCount total price cap) := by
  have several := one_lt_cappedCount priceCap exceeds
  have counted : (0 : ℚ) < cappedCount total price cap := by
    exact_mod_cast (by omega : 0 < cappedCount total price cap)
  have fewer : max 1 ⌊total / minimum⌋.toNat < cappedCount total price cap := by
    refine max_lt several ?_
    have below : total / minimum < cappedCount total price cap := by
      rw [div_lt_iff₀ minimumPositive, mul_comm]
      exact (div_lt_iff₀ counted).mp short
    have floored : ⌊total / minimum⌋ < (cappedCount total price cap : ℤ) :=
      Int.floor_lt.mpr (by exact_mod_cast below)
    omega
  have missed : ((max 1 ⌊total / minimum⌋.toNat : Nat) : ℚ) * (cap / price) < total := by
    rw [← not_le]
    intro holds
    have positiveCount : 0 < max 1 ⌊total / minimum⌋.toNat := by omega
    have castPositive : (0 : ℚ) < (max 1 ⌊total / minimum⌋.toNat : Nat) :=
      Nat.cast_pos.mpr positiveCount
    refine absurd ((under_cap_iff priceCap positiveCount).mp ?_) (not_le.mpr fewer)
    rw [div_mul_eq_mul_div, div_le_iff₀ castPositive]
    calc
      total * price ≤ (max 1 ⌊total / minimum⌋.toNat : Nat) * (cap / price) * price :=
        mul_le_mul_of_nonneg_right holds priced.le
      _ = cap * (max 1 ⌊total / minimum⌋.toNat : Nat) := by field_simp
  have again : total / (cap / price) = total * price / cap := by field_simp
  unfold fewerChunks
  simp only [ExactFloat.div, ExactFloat.mul, ExactFloat.lt, again, missed, decide_true, if_true]
  rfl

end Capped

/-! ## The partition -/

/-- A close is divided exactly and under the cap, and its chunks meet every minimum that equal
chunks under the cap can meet. -/
structure Partition (total longPrice shortPrice cap : ℚ) (chunks : List ℚ) : Prop where
  positive : ∀ chunk ∈ chunks, 0 < chunk
  sum : chunks.sum = total
  capped : ∀ chunk ∈ chunks, chunk * longPrice ≤ cap ∧ chunk * shortPrice ≤ cap
  largest : ∀ (minimum : ℚ) (count : Nat), 0 < count →
    total / count * longPrice ≤ cap → total / count * shortPrice ≤ cap →
    minimum ≤ total / count → ∀ chunk ∈ chunks, minimum ≤ chunk

section Partition

variable {total longPrice shortPrice cap : ℚ}

/-- Equal chunks of a count that no feasible count undercuts. -/
theorem partition_of_count (positive : 0 < total) {count : Nat} (some : 0 < count)
    (longCapped : total / count * longPrice ≤ cap) (shortCapped : total / count * shortPrice ≤ cap)
    (fewest : ∀ other : Nat, 0 < other → total / other * longPrice ≤ cap →
      total / other * shortPrice ≤ cap → count ≤ other) :
    Partition total longPrice shortPrice cap (List.replicate count (total / count)) := by
  have counted : (0 : ℚ) < count := Nat.cast_pos.mpr some
  refine ⟨fun chunk member => ?_, ?_, fun chunk member => ?_,
    fun minimum other otherSome longOther shortOther met chunk member => ?_⟩
  · rw [List.eq_of_mem_replicate member]
    exact div_pos positive counted
  · rw [List.sum_replicate, nsmul_eq_mul]
    exact mul_div_cancel₀ _ counted.ne'
  · rw [List.eq_of_mem_replicate member]
    exact ⟨longCapped, shortCapped⟩
  · rw [List.eq_of_mem_replicate member]
    refine met.trans (div_le_div_of_nonneg_left positive.le counted ?_)
    exact_mod_cast fewest other otherSome longOther shortOther

/-- Both legs are under the cap when the dearer one is. -/
theorem capped_iff_max (positive : 0 < total) {count : Nat} (some : 0 < count) :
    total / count * max longPrice shortPrice ≤ cap ↔
      total / count * longPrice ≤ cap ∧ total / count * shortPrice ≤ cap := by
  have share : 0 < total / count := div_pos positive (Nat.cast_pos.mpr some)
  rw [mul_max_of_nonneg _ _ share.le, max_le_iff]

/-- The minimum of finite numbers is finite. -/
theorem minAllowedQuantity_finite (longPrice shortPrice minLong minShort : ℚ)
    (venueLong venueShort : Option Venue) :
    ∃ minimum, minAllowedQuantity (.finite longPrice) (.finite shortPrice) (.finite minLong)
      (.finite minShort) venueLong venueShort = .finite minimum := by
  have leg (venue : Venue) (price notional minimum : ℚ) :
      ∃ raised, legMinimumQuantity venue (.finite price) (.finite notional) (.finite minimum) =
        .finite raised := by
    unfold legMinimumQuantity
    split_ifs
    · exact ⟨_, ExactFloat.max_finite _ _⟩
    · exact ⟨_, ExactFloat.max_finite _ _⟩
    · exact ⟨_, rfl⟩
  unfold minAllowedQuantity
  split
  · next venueLong venueShort =>
    obtain ⟨longMinimum, raised⟩ := leg venueLong longPrice minLong 0
    rw [raised]
    exact leg venueShort shortPrice minShort longMinimum
  · exact ⟨0, rfl⟩

/-- Above the cap the capped count is planned, whatever the minimum is. -/
theorem planned_capped (positive : 0 < total) (longPriced : 0 < longPrice)
    (priceCap : 0 < cap) (exceeds : cap < total * max longPrice shortPrice)
    (minLong minShort : ℚ) (venueLong venueShort : Option Venue) :
    computeCloseChunks (.finite total) (.finite longPrice) (.finite shortPrice)
      (.finite cap) (.finite minLong) (.finite minShort) venueLong venueShort =
        some ((List.replicate (cappedCount total (max longPrice shortPrice) cap)
          (total / cappedCount total (max longPrice shortPrice) cap)).map ExactFloat.finite) := by
  have priced : 0 < max longPrice shortPrice := lt_max_of_lt_left longPriced
  have counted : (cappedCount total (max longPrice shortPrice) cap : ℚ) ≠ 0 := by
    have several := one_lt_cappedCount priceCap exceeds
    exact_mod_cast (by omega : cappedCount total (max longPrice shortPrice) cap ≠ 0)
  obtain ⟨minimum, allowed⟩ :=
    minAllowedQuantity_finite longPrice shortPrice minLong minShort venueLong venueShort
  have parts := PassiveDrive.chunkParts_equal (total / cappedCount total (max longPrice shortPrice) cap)
    (cappedCount total (max longPrice shortPrice) cap)
  rw [mul_div_cancel₀ _ counted] at parts
  unfold computeCloseChunks
  dsimp only
  rw [ExactFloat.max_finite, allowed, ExactFloat.mul_finite]
  rw [if_neg (by simp [positive]), if_neg (by simp [priceCap, longPriced, exceeds])]
  have divided (left right : ℚ) :
      (ExactFloat.finite left).div (.finite right) = .finite (left / right) := rfl
  have count : ⌈total * max longPrice shortPrice / cap⌉.toNat =
      cappedCount total (max longPrice shortPrice) cap := rfl
  simp only [divided, count, ExactFloat.lt_finite, Bool.and_eq_true, decide_eq_true_eq]
  by_cases short : 0 < minimum ∧ total / cappedCount total (max longPrice shortPrice) cap < minimum
  · rw [if_pos short, fewerChunks_capped positive priced priceCap exceeds short.1 short.2,
      Option.map_some, parts]
  · rw [if_neg short, Option.map_some, parts]

/-- Close chunks partition the close. The minimum that the venues ask for is one of the minimums
that the chunks meet when equal chunks can. -/
theorem closeChunks_partition (positive : 0 < total) (longPriced : 0 < longPrice)
    (priceCap : 0 < cap) (minLong minShort : ℚ) (venueLong venueShort : Option Venue) :
    ∃ chunks : List ℚ,
      computeCloseChunks (.finite total) (.finite longPrice) (.finite shortPrice)
        (.finite cap) (.finite minLong) (.finite minShort) venueLong venueShort =
          some (chunks.map ExactFloat.finite) ∧
      Partition total longPrice shortPrice cap chunks := by
  rcases le_or_gt (total * max longPrice shortPrice) cap with whole | exceeds
  · refine ⟨List.replicate 1 (total / (1 : Nat)), ?_, ?_⟩
    · unfold computeCloseChunks
      dsimp only
      rw [ExactFloat.max_finite, ExactFloat.mul_finite]
      rw [if_neg (by simp [positive]), if_pos (by simp [whole])]
      simp
    · have capped : total / (1 : Nat) * max longPrice shortPrice ≤ cap := by
        rwa [Nat.cast_one, div_one]
      obtain ⟨longCapped, shortCapped⟩ := (capped_iff_max positive Nat.one_pos).mp capped
      exact partition_of_count positive Nat.one_pos longCapped shortCapped fun _ some _ _ => some
  · have several := one_lt_cappedCount priceCap exceeds
    have some : 0 < cappedCount total (max longPrice shortPrice) cap := by omega
    obtain ⟨longCapped, shortCapped⟩ := (capped_iff_max positive some).mp
      ((under_cap_iff priceCap some).mpr (le_refl _))
    refine ⟨_, planned_capped positive longPriced priceCap exceeds minLong minShort venueLong
      venueShort, partition_of_count positive some longCapped shortCapped ?_⟩
    intro other otherSome longOther shortOther
    exact (under_cap_iff priceCap otherSome).mp
      ((capped_iff_max positive otherSome).mpr ⟨longOther, shortOther⟩)

/-- Ten units at a price of two, at most eight quote units a chunk and at least six at the long
venue: three chunks. -/
theorem closeChunks_partition_ten :
    ∃ chunks : List ℚ,
      computeCloseChunks (.finite 10) (.finite 2) (.finite 1) (.finite 8) (.finite 6)
        (.finite 0) (some .bybit) (some .bitget) = some (chunks.map ExactFloat.finite) ∧
      Partition 10 2 1 8 chunks :=
  closeChunks_partition (by norm_num) (by norm_num) (by norm_num) 6 0 (some .bybit) (some .bitget)

example : computeCloseChunks (.finite 10) (.finite 2) (.finite 1) (.finite 8)
    (.finite 6) (.finite 0) (some .bybit) (some .bitget) =
      some [.finite (10 / 3), .finite (10 / 3), .finite (10 / 3)] := by
  decide +kernel

end Partition

end LightFee.Engine
