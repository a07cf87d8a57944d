import LightFee.MarketData.DepthLimit

/-!
# Accepted updates of an unlimited book

A book without a depth limit is the map that its accepted updates describe: at each price of a
side, the last level given there decides. A refused update changes nothing, so it may stand
anywhere in a run.
-/

namespace LightFee.MarketData

/-! ## The last level given at a price -/

/-- The quantity of the last level at a price; a level without quantity deletes it. -/
def lastGiven (price : ℚ) (levels : List PriceLevel) : Option ℚ :=
  (OrderedDict.lastChange price (levels.map levelChange)).getD none

theorem lastChange_append {κ ν : Type} [DecidableEq κ] (key : κ)
    (first second : List (κ × Option ν)) :
    OrderedDict.lastChange key (first ++ second) =
      (OrderedDict.lastChange key second).or (OrderedDict.lastChange key first) := by
  induction first with
  | nil => exact (Option.or_none).symm
  | cons entry rest ih =>
    rw [List.cons_append, OrderedDict.lastChange, ih, OrderedDict.lastChange,
      Option.or_assoc]

/-- Later levels decide where they name the price. -/
theorem lastGiven_append (price : ℚ) (given incoming : List PriceLevel) :
    lastGiven price (given ++ incoming) =
      (OrderedDict.lastChange price (incoming.map levelChange)).getD (lastGiven price given) := by
  rw [lastGiven, lastGiven, List.map_append, lastChange_append]
  cases OrderedDict.lastChange price (incoming.map levelChange) <;> rfl

theorem lastGiven_positive {price quantity : ℚ} {levels : List PriceLevel}
    (last : lastGiven price levels = some quantity) : 0 < quantity := by
  rw [lastGiven] at last
  cases changed : OrderedDict.lastChange price (levels.map levelChange) with
  | none =>
    rw [changed] at last
    cases last
  | some change =>
    rw [changed, Option.getD_some] at last
    obtain ⟨level, -, same⟩ := List.mem_map.mp (OrderedDict.lastChange_mem price _ change changed)
    have quantities : (if level.quantity ≤ 0 then none else some level.quantity) = some quantity :=
      (congrArg Prod.snd same).trans last
    split_ifs at quantities with deleted
    rw [← Option.some.inj quantities]
    exact not_le.mp deleted

/-- Positive levels with distinct prices are all given. -/
theorem lastGiven_distinct {levels : List PriceLevel}
    (distinct : (levels.map PriceLevel.price).Nodup)
    (positive : ∀ level ∈ levels, 0 < level.quantity) (price : ℚ) :
    lastGiven price levels = quantityAt price levels := by
  have changes : levels.map levelChange =
      (levels.map PriceLevel.entry).map (fun entry => (entry.1, some entry.2)) := by
    rw [List.map_map]
    refine List.map_congr_left fun level member => ?_
    rw [levelChange, if_neg (not_le.mpr (positive level member))]
    rfl
  have keys : ((levels.map PriceLevel.entry).map Prod.fst).Nodup := by
    rw [List.map_map]
    exact distinct
  have written := OrderedDict.find_insertAll OrderedDict.empty _ keys price
  rw [OrderedDict.insertAll_eq_changeAll, ← changes, OrderedDict.find_changeAll] at written
  exact written.trans (Option.or_none)

/-! ## One side -/

/-- A side holds what its levels give, best first. -/
structure SideMap (side : BookSide) (levels given : List PriceLevel) : Prop where
  sorted : SortedSide side levels
  stored : ∀ price, quantityAt price levels = lastGiven price given

theorem quantity_eq_of_mem {left : List PriceLevel}
    (distinct : (left.map PriceLevel.price).Nodup) {price : ℚ} {value : Option ℚ}
    (same : ∀ quantity, ⟨price, quantity⟩ ∈ left ↔ value = some quantity) :
    quantityAt price left = value := by
  refine Option.ext fun quantity => ?_
  exact (mem_iff_quantity distinct ⟨price, quantity⟩).symm.trans (same quantity)

namespace SideMap

variable {side : BookSide} {levels given : List PriceLevel}

theorem positive (map : SideMap side levels given) :
    ∀ level ∈ levels, 0 < level.quantity := by
  intro level member
  have stored := (mem_iff_quantity (Ladder.strict_distinct map.sorted) level).mp member
  rw [map.stored] at stored
  exact lastGiven_positive stored

/-- A sorted side of positive levels, each price once. -/
theorem load (side : BookSide) (distinct : (given.map PriceLevel.price).Nodup)
    (positive : ∀ level ∈ given, 0 < level.quantity) :
    SideMap side (sortSide side given) given := by
  have sorted : SortedSide side (sortSide side given) :=
    Ladder.sort_strict PriceLevel.price side.better distinct
  refine ⟨sorted, fun price => ?_⟩
  refine quantity_eq_of_mem (Ladder.strict_distinct sorted) fun quantity => ?_
  rw [lastGiven_distinct distinct positive, sortSide, Ladder.mem_sort]
  exact mem_iff_quantity distinct ⟨price, quantity⟩

/-- A merge adds the delta's levels to those that were given. -/
theorem merge (map : SideMap side levels given) (incoming : List PriceLevel) :
    SideMap side (sortSide side (mergedLevels levels incoming)) (given ++ incoming) := by
  have sorted := merged_sorted side levels incoming
  refine ⟨sorted, fun price => ?_⟩
  refine quantity_eq_of_mem (Ladder.strict_distinct sorted) fun quantity => ?_
  rw [lastGiven_append, sortSide, Ladder.mem_sort,
    mem_merged (Ladder.strict_distinct map.sorted), map.stored]

end SideMap

/-! ## The book -/

/-- Both sides hold what was given, and the book is not crossed. -/
structure ExactBook (book : LocalL2Book) (bidsGiven asksGiven : List PriceLevel) : Prop where
  unlimited : book.maxDepth ≤ 0
  bids : SideMap .bid book.bids bidsGiven
  asks : SideMap .ask book.asks asksGiven
  top : book.bids ≠ [] ∧ book.asks ≠ [] ∧ book.bestBid < book.bestAsk

theorem trim_nonpos {depth : Int} (unlimited : depth ≤ 0) (levels : List PriceLevel) :
    trim depth levels = levels :=
  if_neg (not_lt.mpr unlimited)

theorem orDefault_zero (depth : Int) : orDefault 0 depth = depth := rfl

/-- A book without a structure fault has an uncrossed top. -/
theorem top_of_faultless {book : LocalL2Book}
    (faultless : bookStructureFault book.bids book.asks = none) :
    book.bids ≠ [] ∧ book.asks ≠ [] ∧ book.bestBid < book.bestAsk := by
  cases bids : book.bids with
  | nil =>
    rw [bids] at faultless
    cases faultless
  | cons bestBid restBids =>
    cases asks : book.asks with
    | nil =>
      rw [bids, asks] at faultless
      cases faultless
    | cons bestAsk restAsks =>
      rw [bids, asks] at faultless
      unfold bookStructureFault at faultless
      dsimp only at faultless
      split_ifs at faultless with positive crossed
      refine ⟨List.cons_ne_nil _ _, List.cons_ne_nil _ _, ?_⟩
      rw [LocalL2Book.bestBid, LocalL2Book.bestAsk, bids, asks]
      exact not_le.mp crossed

namespace LocalL2Book

variable {book : LocalL2Book}

theorem load_refused {snapshot : BookSnapshot}
    (refused : (book.load snapshot).2.applied = false) : (book.load snapshot).1 = book := by
  rcases apply_snapshot_cases book snapshot.bids snapshot.asks snapshot.sequence snapshot.checksum
    snapshot.nowMs 0 with ⟨-, -, same, -⟩ | ⟨-, -, applied, -⟩
  · exact same
  · exact absurd (refused.symm.trans applied) Bool.false_ne_true

theorem feed_refused {delta : BookDelta} (refused : (book.feed delta).2.applied = false) :
    (book.feed delta).1 = book := by
  rcases apply_delta_cases book delta.bids delta.asks delta.sequence delta.previousSequence
    delta.nowMs 0 with ⟨_, -, same⟩ | ⟨_, -, same, -⟩ | ⟨_, -, -, applied, -⟩
  · exact congrArg Prod.fst same
  · exact same
  · exact absurd (refused.symm.trans applied) Bool.false_ne_true

/-- An accepted snapshot starts an exact book. -/
theorem load_exact {snapshot : BookSnapshot} (unlimited : book.maxDepth ≤ 0)
    (bidsDistinct : (snapshot.bids.map PriceLevel.price).Nodup)
    (asksDistinct : (snapshot.asks.map PriceLevel.price).Nodup)
    (bidsPositive : ∀ level ∈ snapshot.bids, 0 < level.quantity)
    (asksPositive : ∀ level ∈ snapshot.asks, 0 < level.quantity)
    (loaded : (book.load snapshot).2.applied = true) :
    ExactBook (book.load snapshot).1 snapshot.bids snapshot.asks := by
  rcases apply_snapshot_cases book snapshot.bids snapshot.asks snapshot.sequence snapshot.checksum
    snapshot.nowMs 0 with ⟨-, -, -, refused, -⟩ | ⟨faultless, next, -⟩
  · exact absurd (refused.symm.trans loaded) Bool.false_ne_true
  · rw [orDefault_zero, trim_nonpos unlimited, trim_nonpos unlimited, sort_bids_eq,
      sort_asks_eq] at faultless next
    unfold load
    rw [next]
    exact ⟨unlimited, .load .bid bidsDistinct bidsPositive, .load .ask asksDistinct asksPositive,
      top_of_faultless faultless⟩

/-- An accepted delta is merged without a fault. -/
theorem feed_applied {delta : BookDelta} (applied : (book.feed delta).2.applied = true) :
    (book.feed delta).1 = book.merged
        (mergeLevels book.bids delta.bids .bid (orDefault 0 book.maxDepth))
        (mergeLevels book.asks delta.asks .ask (orDefault 0 book.maxDepth))
        delta.sequence delta.nowMs ∧
      bookStructureFault (book.feed delta).1.bids (book.feed delta).1.asks = none := by
  have next := apply_delta_applied applied
  refine ⟨next, ?_⟩
  unfold feed at applied ⊢
  rw [next]
  unfold applyDelta at applied
  cases verdict : book.admitDelta delta.sequence delta.previousSequence delta.nowMs with
  | inl refused =>
    rw [verdict] at applied
    exact absurd ((admit_refused verdict).symm.trans applied) Bool.false_ne_true
  | inr events =>
    rw [verdict] at applied
    dsimp only at applied
    cases faulty : bookStructureFault
        (mergeLevels book.bids delta.bids .bid (orDefault 0 book.maxDepth))
        (mergeLevels book.asks delta.asks .ask (orDefault 0 book.maxDepth)) with
    | some fault =>
      rw [faulty] at applied
      cases applied
    | none => exact faulty

/-- An accepted delta adds its levels to those that were given. -/
theorem feed_exact {bidsGiven asksGiven : List PriceLevel}
    (mapped : ExactBook book bidsGiven asksGiven) {delta : BookDelta}
    (applied : (book.feed delta).2.applied = true) :
    ExactBook (book.feed delta).1 (bidsGiven ++ delta.bids) (asksGiven ++ delta.asks) := by
  obtain ⟨next, faultless⟩ := feed_applied applied
  have top := top_of_faultless faultless
  rw [orDefault_zero, merge_levels_eq, merge_levels_eq, trim_nonpos mapped.unlimited,
    trim_nonpos mapped.unlimited] at next
  rw [next] at top ⊢
  exact ⟨mapped.unlimited, mapped.bids.merge delta.bids, mapped.asks.merge delta.asks, top⟩

/-! ## Runs -/

/-- The book after deltas, whether they are accepted or not. -/
def run (book : LocalL2Book) (deltas : List BookDelta) : LocalL2Book :=
  deltas.foldl (fun current delta => (current.feed delta).1) book

/-- The deltas that the book accepts. -/
def acceptedDeltas (book : LocalL2Book) : List BookDelta → List BookDelta
  | [] => []
  | delta :: rest =>
    (if (book.feed delta).2.applied then [delta] else []) ++
      (book.feed delta).1.acceptedDeltas rest

theorem acceptedDeltas_all {deltas : List BookDelta} (accepted : Accepted book deltas) :
    book.acceptedDeltas deltas = deltas := by
  induction deltas generalizing book with
  | nil => rfl
  | cons delta rest ih =>
    rw [acceptedDeltas, if_pos accepted.1, ih accepted.2]
    rfl

theorem run_exact {bidsGiven asksGiven : List PriceLevel}
    (mapped : ExactBook book bidsGiven asksGiven) (deltas : List BookDelta) :
    ExactBook (book.run deltas)
      (bidsGiven ++ (book.acceptedDeltas deltas).flatMap BookDelta.bids)
      (asksGiven ++ (book.acceptedDeltas deltas).flatMap BookDelta.asks) := by
  induction deltas generalizing book bidsGiven asksGiven with
  | nil =>
    simp only [acceptedDeltas, List.flatMap_nil, List.append_nil]
    exact mapped
  | cons delta rest ih =>
    cases applied : (book.feed delta).2.applied with
    | true =>
      have later := ih (feed_exact mapped applied)
      rw [List.append_assoc, List.append_assoc] at later
      rw [acceptedDeltas, if_pos applied]
      exact later
    | false =>
      have same := feed_refused applied
      have later := @ih (book.feed delta).1 bidsGiven asksGiven (by rw [same]; exact mapped)
      rw [acceptedDeltas, if_neg (by rw [applied]; exact Bool.false_ne_true)]
      exact later

end LocalL2Book

/-- After a snapshot of distinct prices and positive quantities, an unlimited book is at every
moment the map that the snapshot and the accepted deltas describe: each side is sorted, holds at a
price the last level given there, and the book is not crossed. A refused update changes
nothing. -/
theorem accepted_updates_exact (book : LocalL2Book) (unlimited : book.maxDepth ≤ 0)
    (snapshot : BookSnapshot)
    (bidsDistinct : (snapshot.bids.map PriceLevel.price).Nodup)
    (asksDistinct : (snapshot.asks.map PriceLevel.price).Nodup)
    (bidsPositive : ∀ level ∈ snapshot.bids, 0 < level.quantity)
    (asksPositive : ∀ level ∈ snapshot.asks, 0 < level.quantity)
    (loaded : (book.load snapshot).2.applied = true) (deltas : List BookDelta) :
    let start := (book.load snapshot).1
    let accepted := start.acceptedDeltas deltas
    let final := start.run deltas
    (SortedSide .bid final.bids ∧ SortedSide .ask final.asks) ∧
      ((∀ level ∈ final.bids, 0 < level.quantity) ∧ ∀ level ∈ final.asks, 0 < level.quantity) ∧
      (∀ price, quantityAt price final.bids =
        lastGiven price (snapshot.bids ++ accepted.flatMap BookDelta.bids)) ∧
      (∀ price, quantityAt price final.asks =
        lastGiven price (snapshot.asks ++ accepted.flatMap BookDelta.asks)) ∧
      (final.bids ≠ [] ∧ final.asks ≠ [] ∧ final.bestBid < final.bestAsk) ∧
      (Accepted start deltas → accepted = deltas) ∧
      (∀ (other : LocalL2Book) (update : BookSnapshot),
        (other.load update).2.applied = false → (other.load update).1 = other) ∧
      ∀ (other : LocalL2Book) (update : BookDelta),
        (other.feed update).2.applied = false → (other.feed update).1 = other := by
  intro start accepted final
  have started := LocalL2Book.load_exact unlimited bidsDistinct asksDistinct bidsPositive
    asksPositive loaded
  have reached : ExactBook final _ _ := LocalL2Book.run_exact started deltas
  refine ⟨⟨reached.bids.sorted, reached.asks.sorted⟩,
    ⟨reached.bids.positive, reached.asks.positive⟩, reached.bids.stored, reached.asks.stored,
    reached.top, LocalL2Book.acceptedDeltas_all, ?_, ?_⟩
  · exact fun _ _ refused => LocalL2Book.load_refused refused
  · exact fun _ _ refused => LocalL2Book.feed_refused refused

/-- A deleted bid, a bid given twice, a stale delta and a crossing one. -/
theorem accepted_updates_exact_mixed :
    let book : LocalL2Book := { venue := "okx", symbol := "BTC-USDT-SWAP", maxDepth := 0 }
    let final := (book.load thinSnapshot).1.run
      [{ bids := [⟨10, 0⟩, ⟨8, 3⟩, ⟨8, 4⟩], asks := [], sequence := 2, previousSequence := 1 },
       { bids := [⟨8, 9⟩], asks := [], sequence := 1, previousSequence := 0 },
       { bids := [⟨12, 1⟩], asks := [], sequence := 3, previousSequence := 2 }]
    quantityAt 8 final.bids = some 4 ∧ quantityAt 10 final.bids = none := by
  intro book final
  obtain ⟨-, -, bids, -⟩ := accepted_updates_exact book (by decide) thinSnapshot
    (by decide +kernel) (by decide +kernel) (by decide +kernel) (by decide +kernel)
    (by decide +kernel) _
  exact ⟨(bids 8).trans (by decide +kernel), (bids 10).trans (by decide +kernel)⟩

end LightFee.MarketData
