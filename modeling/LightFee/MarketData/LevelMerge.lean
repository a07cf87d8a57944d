import LightFee.MarketData.L2

/-!
# What a delta does to one side of the book

A side is read as a map from prices to quantities. Merging a delta changes that
map at the prices the delta names and nowhere else; the last level that names a
price decides it. Sorting and trimming then only choose the order and the
length. Both sides share one development: a side fixes which price is better.
-/

namespace LightFee.MarketData

/-- At least as good a price: high bids, low asks. -/
def BookSide.better : BookSide → ℚ → ℚ → Prop
  | .bid, first, second => first ≥ second
  | .ask, first, second => first ≤ second

instance (side : BookSide) : DecidableRel side.better :=
  match side with
  | .bid => fun first second => inferInstanceAs (Decidable (first ≥ second))
  | .ask => fun first second => inferInstanceAs (Decidable (first ≤ second))

instance (side : BookSide) : Std.Total side.better :=
  match side with
  | .bid => ⟨fun first second => le_total second first⟩
  | .ask => ⟨fun first second => le_total first second⟩

instance (side : BookSide) : IsTrans ℚ side.better :=
  match side with
  | .bid => ⟨fun _ _ _ first second => le_trans second first⟩
  | .ask => ⟨fun _ _ _ first second => le_trans first second⟩

instance (side : BookSide) : Std.Antisymm side.better :=
  match side with
  | .bid => ⟨fun _ _ forward backward => le_antisymm backward forward⟩
  | .ask => ⟨fun _ _ forward backward => le_antisymm forward backward⟩

/-- Best level first, each price once. -/
abbrev SortedSide (side : BookSide) (levels : List PriceLevel) : Prop :=
  Ladder.Strict PriceLevel.price side.better levels

/-- The sort of either side. -/
def sortSide (side : BookSide) (levels : List PriceLevel) : List PriceLevel :=
  Ladder.sort PriceLevel.price side.better levels

theorem sort_bids_eq (levels : List PriceLevel) : sortBids levels = sortSide .bid levels := rfl

theorem sort_asks_eq (levels : List PriceLevel) : sortAsks levels = sortSide .ask levels := rfl

def PriceLevel.entry (level : PriceLevel) : ℚ × ℚ := (level.price, level.quantity)

/-- Quantity of the first level listed at a price. -/
def quantityAt (price : ℚ) (levels : List PriceLevel) : Option ℚ :=
  OrderedDict.lookupEntries price (levels.map PriceLevel.entry)

theorem mem_iff_quantity {levels : List PriceLevel}
    (distinct : (levels.map PriceLevel.price).Nodup) (level : PriceLevel) :
    level ∈ levels ↔ quantityAt level.price levels = some level.quantity := by
  have keys : ((levels.map PriceLevel.entry).map Prod.fst).Nodup := by
    simpa [List.map_map, Function.comp_def, PriceLevel.entry] using distinct
  rw [quantityAt, ← OrderedDict.mem_iff_lookup _ keys]
  constructor
  · exact fun member => List.mem_map.mpr ⟨level, member, rfl⟩
  · intro member
    obtain ⟨found, belongs, same⟩ := List.mem_map.mp member
    have equal : found = level := by
      cases found; cases level; simpa [PriceLevel.entry] using same
    exact equal ▸ belongs

/-- The delta as a batch of changes: a non-positive quantity deletes its price. -/
def levelChange (level : PriceLevel) : ℚ × Option ℚ :=
  (level.price, if level.quantity ≤ 0 then none else some level.quantity)

/-- The price map a merge builds before sorting. -/
def priceMap (existing incoming : List PriceLevel) : OrderedDict ℚ ℚ :=
  (OrderedDict.empty.insertAll (existing.map PriceLevel.entry)).changeAll
    (incoming.map levelChange)

/-- The levels of the merged price map, unsorted. -/
def mergedLevels (existing incoming : List PriceLevel) : List PriceLevel :=
  (priceMap existing incoming).entries.map (fun entry => PriceLevel.mk entry.1 entry.2)

/-- A merge sorts and trims the merged price map. -/
theorem merge_levels_eq (existing incoming : List PriceLevel) (side : BookSide) (maxDepth : Int) :
    mergeLevels existing incoming side maxDepth =
      trim maxDepth (sortSide side (mergedLevels existing incoming)) := by
  have known (dict : OrderedDict ℚ ℚ) : existing.foldl
      (fun current level => current.insert level.price level.quantity) dict =
        dict.insertAll (existing.map PriceLevel.entry) := by
    simp [OrderedDict.insertAll, List.foldl_map, PriceLevel.entry]
  have changed (dict : OrderedDict ℚ ℚ) : incoming.foldl (fun current level =>
      if level.quantity ≤ 0 then current.erase level.price
      else current.insert level.price level.quantity) dict =
        dict.changeAll (incoming.map levelChange) := by
    rw [OrderedDict.changeAll, List.foldl_map]
    congr 1
    funext current level
    by_cases deletes : level.quantity ≤ 0 <;> simp [levelChange, OrderedDict.change, deletes]
  unfold mergeLevels
  simp only [known, changed]
  cases side <;> rfl

theorem merged_distinct (existing incoming : List PriceLevel) :
    ((mergedLevels existing incoming).map PriceLevel.price).Nodup := by
  simpa [mergedLevels, List.map_map, Function.comp_def] using
    (priceMap existing incoming).distinct

/-- A merged side is a ladder, whatever the delta lists. -/
theorem merged_sorted (side : BookSide) (existing incoming : List PriceLevel) :
    SortedSide side (sortSide side (mergedLevels existing incoming)) :=
  Ladder.sort_strict _ _ (merged_distinct existing incoming)

/-- The merged side holds a level exactly when the delta's last word on its
price, or the old side where the delta is silent, gives that quantity. -/
theorem mem_merged {existing : List PriceLevel}
    (distinct : (existing.map PriceLevel.price).Nodup) (incoming : List PriceLevel)
    (level : PriceLevel) : level ∈ mergedLevels existing incoming ↔
      (OrderedDict.lastChange level.price (incoming.map levelChange)).getD
        (quantityAt level.price existing) = some level.quantity := by
  have keys : ((existing.map PriceLevel.entry).map Prod.fst).Nodup := by
    simpa [List.map_map, Function.comp_def, PriceLevel.entry] using distinct
  have stored : level ∈ mergedLevels existing incoming ↔
      (level.price, level.quantity) ∈ (priceMap existing incoming).entries := by
    simp only [mergedLevels, List.mem_map]
    constructor
    · rintro ⟨entry, member, same⟩
      rw [← same]
      exact member
    · exact fun member => ⟨_, member, rfl⟩
  rw [stored, OrderedDict.mem_entries, priceMap, OrderedDict.find_changeAll,
    OrderedDict.find_insertAll _ _ keys]
  simp [quantityAt]

/-- A price the delta does not name keeps its quantity. -/
theorem merged_unnamed {existing : List PriceLevel}
    (distinct : (existing.map PriceLevel.price).Nodup) (incoming : List PriceLevel)
    (level : PriceLevel) (unnamed : level.price ∉ incoming.map PriceLevel.price) :
    level ∈ mergedLevels existing incoming ↔ level ∈ existing := by
  have silent : OrderedDict.lastChange level.price (incoming.map levelChange) = none := by
    rw [OrderedDict.lastChange_none]
    simpa [levelChange, Function.comp_def] using unnamed
  rw [mem_merged distinct, silent, Option.getD_none, mem_iff_quantity distinct]

/-- A price the delta names is decided by the delta alone. -/
theorem merged_named {left right : List PriceLevel}
    (leftDistinct : (left.map PriceLevel.price).Nodup)
    (rightDistinct : (right.map PriceLevel.price).Nodup) (incoming : List PriceLevel)
    (level : PriceLevel) (named : level.price ∈ incoming.map PriceLevel.price) :
    level ∈ mergedLevels left incoming ↔ level ∈ mergedLevels right incoming := by
  cases last : OrderedDict.lastChange level.price (incoming.map levelChange) with
  | none =>
    rw [OrderedDict.lastChange_none] at last
    exact absurd (by simpa [levelChange, Function.comp_def] using named) last
  | some value => rw [mem_merged leftDistinct, mem_merged rightDistinct, last]; rfl

end LightFee.MarketData
