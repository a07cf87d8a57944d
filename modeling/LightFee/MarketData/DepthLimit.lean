import LightFee.MarketData.LevelMerge

/-!
# The depth-limited book against the full book

The same snapshot and deltas drive a book with a depth limit and a book without
one. Trimming throws away the levels beyond the depth; a later delete of a kept
level would need one of them back. The limited book is therefore the best part
of the full book exactly as long as enough kept levels stay ahead of the best
level that only the full book still holds.
-/

namespace LightFee.MarketData

/-- The arguments of one snapshot. -/
structure BookSnapshot where
  bids : List PriceLevel
  asks : List PriceLevel
  sequence : Int
  checksum : Int := 0
  nowMs : Int := 0
deriving DecidableEq

/-- The arguments of one delta. -/
structure BookDelta where
  bids : List PriceLevel
  asks : List PriceLevel
  sequence : Int
  previousSequence : Int := 0
  nowMs : Int := 0
deriving DecidableEq

def LocalL2Book.withDepth (book : LocalL2Book) (depth : Int) : LocalL2Book :=
  { book with maxDepth := depth }

def LocalL2Book.load (book : LocalL2Book) (snapshot : BookSnapshot) :
    LocalL2Book × LocalL2UpdateResult :=
  book.applySnapshot snapshot.bids snapshot.asks snapshot.sequence snapshot.checksum snapshot.nowMs

def LocalL2Book.feed (book : LocalL2Book) (delta : BookDelta) : LocalL2Book × LocalL2UpdateResult :=
  book.applyDelta delta.bids delta.asks delta.sequence delta.previousSequence delta.nowMs

/-- Every delta of the run is applied. -/
def Accepted (book : LocalL2Book) : List BookDelta → Prop
  | [] => True
  | delta :: rest => (book.feed delta).2.applied = true ∧ Accepted (book.feed delta).1 rest

/-- The limited book shows the first `depth` levels of the full one, and the
same best prices. -/
structure Agrees (depth : Nat) (limited unlimited : LocalL2Book) : Prop where
  bids : limited.bids = unlimited.bids.take depth
  asks : limited.asks = unlimited.asks.take depth
  bestBid : limited.bestBid = unlimited.bestBid
  bestAsk : limited.bestAsk = unlimited.bestAsk

/-- Agreement now and after each delta of the run. -/
def AgreesThroughout (depth : Nat) (limited unlimited : LocalL2Book) : List BookDelta → Prop
  | [] => Agrees depth limited unlimited
  | delta :: rest => Agrees depth limited unlimited ∧
      AgreesThroughout depth (limited.feed delta).1 (unlimited.feed delta).1 rest

/-- The best level beyond the depth that the delta does not name. -/
def firstUntouched (depth : Nat) (unlimited incoming : List PriceLevel) : Option PriceLevel :=
  (unlimited.drop depth).find? (fun level =>
    decide (level.price ∉ incoming.map PriceLevel.price))

/-- The delta leaves `depth` kept levels ahead of the best level that only the
full side holds. Nothing is asked when it holds no such level. -/
def KeepsDepth (depth : Nat) (side : BookSide) (limited unlimited incoming : List PriceLevel) :
    Prop :=
  ∀ hidden ∈ firstUntouched depth unlimited incoming,
    depth ≤ ((mergedLevels limited incoming).filter (fun level =>
      decide (side.better level.price hidden.price ∧ level.price ≠ hidden.price))).length

instance (depth : Nat) (side : BookSide) (limited unlimited incoming : List PriceLevel) :
    Decidable (KeepsDepth depth side limited unlimited incoming) :=
  inferInstanceAs (Decidable (∀ hidden ∈ firstUntouched depth unlimited incoming, _))

/-- Every delta of the run keeps the depth of both sides. -/
def KeepsDepthThroughout (depth : Nat) (limited unlimited : LocalL2Book) : List BookDelta → Prop
  | [] => True
  | delta :: rest =>
    KeepsDepth depth .bid limited.bids unlimited.bids delta.bids ∧
      KeepsDepth depth .ask limited.asks unlimited.asks delta.asks ∧
      KeepsDepthThroughout depth (limited.feed delta).1 (unlimited.feed delta).1 rest

/-- Agreeing sides have agreeing best prices. -/
theorem agrees_of_sides {depth : Nat} (positive : 0 < depth) {limited unlimited : LocalL2Book}
    (bids : limited.bids = unlimited.bids.take depth)
    (asks : limited.asks = unlimited.asks.take depth) : Agrees depth limited unlimited := by
  have head (levels : List PriceLevel) : (levels.take depth).head? = levels.head? := by
    simp [List.head?_take, positive.ne']
  exact ⟨bids, asks, by simp [LocalL2Book.bestBid, bids, head],
    by simp [LocalL2Book.bestAsk, asks, head]⟩

theorem mem_take_of_shallow (levels : List PriceLevel) (depth : Nat) (level : PriceLevel)
    (shallow : level ∉ levels.drop depth) : level ∈ levels.take depth ↔ level ∈ levels := by
  constructor
  · exact fun member => List.mem_of_mem_take member
  · intro member
    rw [← List.take_append_drop depth levels] at member
    rcases List.mem_append.mp member with kept | lost
    · exact kept
    · exact absurd lost shallow

/-- Away from the lost levels that the delta is silent about, the limited and the
full side merge to the same levels. -/
theorem merged_prefix_agree {side : BookSide} {levels : List PriceLevel}
    (sorted : SortedSide side levels) (depth : Nat) (incoming : List PriceLevel)
    (level : PriceLevel) (clear : level.price ∉ incoming.map PriceLevel.price →
      level ∉ levels.drop depth) :
    level ∈ mergedLevels (levels.take depth) incoming ↔ level ∈ mergedLevels levels incoming := by
  have takeDistinct : ((levels.take depth).map PriceLevel.price).Nodup :=
    Ladder.strict_distinct (Ladder.strict_take sorted depth)
  have distinct : (levels.map PriceLevel.price).Nodup := Ladder.strict_distinct sorted
  by_cases named : level.price ∈ incoming.map PriceLevel.price
  · exact merged_named takeDistinct distinct incoming level named
  · rw [merged_unnamed takeDistinct incoming level named,
      merged_unnamed distinct incoming level named]
    exact mem_take_of_shallow levels depth level (clear named)

/-- If the delta names every lost level, the two sides merge to the same side. -/
theorem merge_eq_of_all_named {side : BookSide} {levels : List PriceLevel}
    (sorted : SortedSide side levels) (depth : Nat) (incoming : List PriceLevel)
    (noneHidden : firstUntouched depth levels incoming = none) :
    sortSide side (mergedLevels (levels.take depth) incoming) =
      sortSide side (mergedLevels levels incoming) := by
  have touched : ∀ level ∈ levels.drop depth, level.price ∈ incoming.map PriceLevel.price := by
    intro level member
    by_contra silent
    have found := List.find?_eq_none.mp noneHidden level member
    exact found (decide_eq_true silent)
  refine Ladder.strict_ext (merged_sorted side _ incoming) (merged_sorted side _ incoming) ?_
  intro level
  rw [sortSide, sortSide, Ladder.mem_sort, Ladder.mem_sort]
  exact merged_prefix_agree sorted depth incoming level
    (fun silent member => silent (touched level member))

/-- Strictly ahead of the best lost level that the delta is silent about, the two
sides merge to the same levels. -/
theorem merged_agree_ahead {side : BookSide} {levels : List PriceLevel}
    (sorted : SortedSide side levels) {depth : Nat} {incoming : List PriceLevel}
    {hidden : PriceLevel} (lost : firstUntouched depth levels incoming = some hidden)
    (level : PriceLevel) (reaches : side.better level.price hidden.price)
    (different : level.price ≠ hidden.price) :
    level ∈ mergedLevels (levels.take depth) incoming ↔ level ∈ mergedLevels levels incoming := by
  obtain ⟨_, before, after, split, touched⟩ := List.find?_eq_some_iff_append.mp lost
  have lostSorted : SortedSide side (before ++ hidden :: after) := by
    rw [← split]
    exact sorted.sublist (List.drop_sublist depth levels)
  refine merged_prefix_agree sorted depth incoming level ?_
  intro silent member
  rw [split] at member
  rcases List.mem_append.mp member with early | late
  · exact absurd (decide_eq_true silent) (by simpa using touched level early)
  · rcases List.mem_cons.mp late with rfl | later
    · exact different rfl
    · have ordered := (List.pairwise_append.mp lostSorted).2.1
      have behind := (List.pairwise_cons.mp ordered).1 level later
      exact behind.2 (antisymm behind.1 reaches)

/-- The best untouched lost level is lost and the delta is silent about it. -/
theorem first_untouched_lost {depth : Nat} {levels incoming : List PriceLevel}
    {hidden : PriceLevel} (lost : firstUntouched depth levels incoming = some hidden) :
    hidden.price ∉ incoming.map PriceLevel.price ∧ hidden ∈ levels.drop depth := by
  have silent := List.find?_some lost
  exact ⟨of_decide_eq_true silent, List.mem_of_find?_eq_some lost⟩

/-- Levels strictly ahead of a level, counted in the sorted or the unsorted merge. -/
theorem ahead_of_sort {side : BookSide} (levels : List PriceLevel) (hidden : PriceLevel) :
    ((sortSide side levels).filter (fun level =>
      decide (side.better level.price hidden.price ∧ level.price ≠ hidden.price))).length =
    (levels.filter (fun level =>
      decide (side.better level.price hidden.price ∧ level.price ≠ hidden.price))).length :=
  ((Ladder.sort_perm PriceLevel.price side.better levels).filter _).length_eq

/-- One delta on one side: the prefix survives exactly when it keeps its depth.

Too few levels ahead of a hidden level would bring it into the full prefix, and
the limited side has lost it. -/
theorem merge_keeps_prefix_iff {side : BookSide} {levels : List PriceLevel}
    (sorted : SortedSide side levels) (depth : Nat) (incoming : List PriceLevel) :
    (sortSide side (mergedLevels (levels.take depth) incoming)).take depth =
        (sortSide side (mergedLevels levels incoming)).take depth ↔
      KeepsDepth depth side (levels.take depth) levels incoming := by
  cases lost : firstUntouched depth levels incoming with
  | none => simp [KeepsDepth, lost, merge_eq_of_all_named sorted depth incoming lost]
  | some hidden =>
    have limitedSorted := merged_sorted side (levels.take depth) incoming
    have fullSorted := merged_sorted side levels incoming
    have agree : ∀ level, side.better level.price hidden.price ∧ level.price ≠ hidden.price →
        (level ∈ sortSide side (mergedLevels (levels.take depth) incoming) ↔
          level ∈ sortSide side (mergedLevels levels incoming)) := by
      rintro level ⟨reaches, different⟩
      rw [sortSide, sortSide, Ladder.mem_sort, Ladder.mem_sort]
      exact merged_agree_ahead sorted lost level reaches different
    constructor
    · intro same other isHidden
      obtain rfl : hidden = other := by
        simpa [lost] using isHidden
      obtain ⟨silent, hiddenLost⟩ := first_untouched_lost lost
      by_contra few
      have ahead := Ladder.zone_eq_of_agree
        (fun price => side.better price hidden.price ∧ price ≠ hidden.price)
        limitedSorted fullSorted agree
      have fullMember : hidden ∈ sortSide side (mergedLevels levels incoming) := by
        rw [sortSide, Ladder.mem_sort,
          merged_unnamed (Ladder.strict_distinct sorted) incoming hidden silent]
        exact List.mem_of_mem_drop hiddenLost
      have shown := (Ladder.mem_take_iff fullSorted fullMember depth).mpr
        (by rw [← ahead, ahead_of_sort]; exact not_le.mp few)
      rw [← same] at shown
      have limitedMember := List.mem_of_mem_take shown
      rw [sortSide, Ladder.mem_sort, merged_unnamed
        (Ladder.strict_distinct (Ladder.strict_take sorted depth)) incoming hidden silent]
        at limitedMember
      have disjoint := List.disjoint_take_drop (Ladder.strict_distinct sorted).of_map
        (le_refl depth)
      exact disjoint limitedMember hiddenLost
    · intro keeps
      refine Ladder.take_eq_of_agree
        (fun price => side.better price hidden.price ∧ price ≠ hidden.price)
        limitedSorted fullSorted ?_ agree depth ?_
      · rintro first second ahead ⟨reaches, different⟩
        refine ⟨IsTrans.trans _ _ _ ahead reaches, ?_⟩
        rintro rfl
        exact different (antisymm reaches ahead)
      · rw [ahead_of_sort]
        exact keeps hidden lost

/-- A snapshot's limited side is the prefix of its full side. -/
theorem trim_depth {depth : Int} (positive : 0 < depth) (levels : List PriceLevel) :
    trim depth levels = levels.take depth.toNat := by
  simp [trim, positive]

theorem trim_unlimited (levels : List PriceLevel) : trim 0 levels = levels := by
  simp [trim]

/-- What the run keeps: the depths, sorted full sides and the agreement. -/
structure DepthInvariant (depth : Int) (limited unlimited : LocalL2Book) : Prop where
  limitedDepth : limited.maxDepth = depth
  unlimitedDepth : unlimited.maxDepth = 0
  bidsSorted : SortedSide .bid unlimited.bids
  asksSorted : SortedSide .ask unlimited.asks
  agrees : Agrees depth.toNat limited unlimited

/-- The two books after one accepted delta, side by side. -/
theorem feed_sides {depth : Int} (positive : 0 < depth) {limited unlimited : LocalL2Book}
    (invariant : DepthInvariant depth limited unlimited) (delta : BookDelta)
    (limitedApplied : (limited.feed delta).2.applied = true)
    (unlimitedApplied : (unlimited.feed delta).2.applied = true) :
    (limited.feed delta).1 = limited.merged
        ((sortSide .bid (mergedLevels (unlimited.bids.take depth.toNat) delta.bids)).take depth.toNat)
        ((sortSide .ask (mergedLevels (unlimited.asks.take depth.toNat) delta.asks)).take depth.toNat)
        delta.sequence delta.nowMs ∧
      (unlimited.feed delta).1 = unlimited.merged
        (sortSide .bid (mergedLevels unlimited.bids delta.bids))
        (sortSide .ask (mergedLevels unlimited.asks delta.asks)) delta.sequence delta.nowMs := by
  have limitedNext := apply_delta_applied limitedApplied
  have unlimitedNext := apply_delta_applied unlimitedApplied
  have limitedDepth : orDefault 0 limited.maxDepth = depth := by
    simp [orDefault, invariant.limitedDepth]
  have unlimitedDepth : orDefault 0 unlimited.maxDepth = 0 := by
    simp [orDefault, invariant.unlimitedDepth]
  rw [limitedDepth, merge_levels_eq, merge_levels_eq, trim_depth positive, trim_depth positive,
    invariant.agrees.bids, invariant.agrees.asks] at limitedNext
  rw [unlimitedDepth, merge_levels_eq, merge_levels_eq, trim_unlimited, trim_unlimited]
    at unlimitedNext
  exact ⟨limitedNext, unlimitedNext⟩

/-- After one accepted delta the books agree exactly when the delta keeps the
depth of both sides. -/
theorem feed_agrees_iff {depth : Int} (positive : 0 < depth) {limited unlimited : LocalL2Book}
    (invariant : DepthInvariant depth limited unlimited) (delta : BookDelta)
    (limitedApplied : (limited.feed delta).2.applied = true)
    (unlimitedApplied : (unlimited.feed delta).2.applied = true) :
    Agrees depth.toNat (limited.feed delta).1 (unlimited.feed delta).1 ↔
      KeepsDepth depth.toNat .bid limited.bids unlimited.bids delta.bids ∧
        KeepsDepth depth.toNat .ask limited.asks unlimited.asks delta.asks := by
  obtain ⟨limitedNext, unlimitedNext⟩ :=
    feed_sides positive invariant delta limitedApplied unlimitedApplied
  rw [invariant.agrees.bids, invariant.agrees.asks,
    ← merge_keeps_prefix_iff invariant.bidsSorted, ← merge_keeps_prefix_iff invariant.asksSorted,
    limitedNext, unlimitedNext]
  constructor
  · exact fun agrees => ⟨agrees.bids, agrees.asks⟩
  · exact fun sides => agrees_of_sides (by omega) sides.1 sides.2

/-- One accepted delta after which the books agree preserves the invariant. -/
theorem feed_invariant {depth : Int} (positive : 0 < depth) {limited unlimited : LocalL2Book}
    (invariant : DepthInvariant depth limited unlimited) (delta : BookDelta)
    (limitedApplied : (limited.feed delta).2.applied = true)
    (unlimitedApplied : (unlimited.feed delta).2.applied = true)
    (agrees : Agrees depth.toNat (limited.feed delta).1 (unlimited.feed delta).1) :
    DepthInvariant depth (limited.feed delta).1 (unlimited.feed delta).1 := by
  obtain ⟨limitedNext, unlimitedNext⟩ :=
    feed_sides positive invariant delta limitedApplied unlimitedApplied
  refine ⟨?_, ?_, ?_, ?_, agrees⟩
  · rw [limitedNext]
    exact invariant.limitedDepth
  · rw [unlimitedNext]
    exact invariant.unlimitedDepth
  · rw [unlimitedNext]
    exact merged_sorted .bid _ _
  · rw [unlimitedNext]
    exact merged_sorted .ask _ _

theorem agrees_now {depth : Nat} {limited unlimited : LocalL2Book} {deltas : List BookDelta}
    (agrees : AgreesThroughout depth limited unlimited deltas) :
    Agrees depth limited unlimited := by
  cases deltas with
  | nil => exact agrees
  | cons _ _ => exact agrees.1

/-- The invariant carries the equivalence through a whole accepted run. -/
theorem agrees_iff_of_invariant {depth : Int} (positive : 0 < depth) (deltas : List BookDelta)
    {limited unlimited : LocalL2Book} (invariant : DepthInvariant depth limited unlimited)
    (limitedAccepts : Accepted limited deltas) (unlimitedAccepts : Accepted unlimited deltas) :
    AgreesThroughout depth.toNat limited unlimited deltas ↔
      KeepsDepthThroughout depth.toNat limited unlimited deltas := by
  induction deltas generalizing limited unlimited with
  | nil => exact iff_of_true invariant.agrees trivial
  | cons delta rest ih =>
    have step := feed_agrees_iff positive invariant delta limitedAccepts.1 unlimitedAccepts.1
    have later (agrees : Agrees depth.toNat (limited.feed delta).1 (unlimited.feed delta).1) :=
      ih (feed_invariant positive invariant delta limitedAccepts.1
        unlimitedAccepts.1 agrees) limitedAccepts.2 unlimitedAccepts.2
    constructor
    · rintro ⟨_, agrees⟩
      obtain ⟨keepsBids, keepsAsks⟩ := step.mp (agrees_now agrees)
      exact ⟨keepsBids, keepsAsks, (later (agrees_now agrees)).mp agrees⟩
    · rintro ⟨keepsBids, keepsAsks, keepsRest⟩
      exact ⟨invariant.agrees, (later (step.mpr ⟨keepsBids, keepsAsks⟩)).mpr keepsRest⟩

/-- An accepted snapshot that lists each price once establishes the invariant. -/
theorem load_invariant {depth : Int} (positive : 0 < depth) (book : LocalL2Book)
    (snapshot : BookSnapshot)
    (bidsDistinct : (snapshot.bids.map PriceLevel.price).Nodup)
    (asksDistinct : (snapshot.asks.map PriceLevel.price).Nodup)
    (limitedLoaded : ((book.withDepth depth).load snapshot).2.applied = true)
    (unlimitedLoaded : ((book.withDepth 0).load snapshot).2.applied = true) :
    DepthInvariant depth ((book.withDepth depth).load snapshot).1
      ((book.withDepth 0).load snapshot).1 := by
  have limitedNext := apply_snapshot_applied limitedLoaded
  have unlimitedNext := apply_snapshot_applied unlimitedLoaded
  have limitedDepth : orDefault 0 (book.withDepth depth).maxDepth = depth := by
    simp [orDefault, LocalL2Book.withDepth]
  have unlimitedDepth : orDefault 0 (book.withDepth 0).maxDepth = 0 := by
    simp [orDefault, LocalL2Book.withDepth]
  rw [limitedDepth, trim_depth positive, trim_depth positive] at limitedNext
  rw [unlimitedDepth, trim_unlimited, trim_unlimited] at unlimitedNext
  have bidsSorted : SortedSide .bid (sortBids snapshot.bids) :=
    Ladder.sort_strict PriceLevel.price BookSide.bid.better bidsDistinct
  have asksSorted : SortedSide .ask (sortAsks snapshot.asks) :=
    Ladder.sort_strict PriceLevel.price BookSide.ask.better asksDistinct
  unfold LocalL2Book.load
  rw [limitedNext, unlimitedNext]
  exact ⟨rfl, rfl, bidsSorted, asksSorted, agrees_of_sides (by omega) rfl rfl⟩

/-- After a snapshot that lists each price once, the depth-limited book shows the
first `depth` levels of the full book after every accepted delta exactly when
every delta keeps the depth of both sides. -/
theorem limited_book_agrees (book : LocalL2Book) (snapshot : BookSnapshot) (depth : Int)
    (deltas : List BookDelta) (positive : 0 < depth)
    (bidsDistinct : (snapshot.bids.map PriceLevel.price).Nodup)
    (asksDistinct : (snapshot.asks.map PriceLevel.price).Nodup)
    (limitedLoaded : ((book.withDepth depth).load snapshot).2.applied = true)
    (unlimitedLoaded : ((book.withDepth 0).load snapshot).2.applied = true)
    (limitedAccepts : Accepted ((book.withDepth depth).load snapshot).1 deltas)
    (unlimitedAccepts : Accepted ((book.withDepth 0).load snapshot).1 deltas) :
    AgreesThroughout depth.toNat ((book.withDepth depth).load snapshot).1
        ((book.withDepth 0).load snapshot).1 deltas ↔
      KeepsDepthThroughout depth.toNat ((book.withDepth depth).load snapshot).1
        ((book.withDepth 0).load snapshot).1 deltas :=
  agrees_iff_of_invariant positive deltas
    (load_invariant positive book snapshot bidsDistinct asksDistinct limitedLoaded unlimitedLoaded)
    limitedAccepts unlimitedAccepts

/-- Two bids and one ask; depth one keeps the best of each side. -/
def thinSnapshot : BookSnapshot :=
  { bids := [⟨10, 1⟩, ⟨9, 1⟩], asks := [⟨11, 1⟩], sequence := 1 }

theorem limited_book_agrees_thin :
    AgreesThroughout 1
      ((({ venue := "okx", symbol := "BTC-USDT-SWAP" } : LocalL2Book).withDepth 1).load
        thinSnapshot).1
      ((({ venue := "okx", symbol := "BTC-USDT-SWAP" } : LocalL2Book).withDepth 0).load
        thinSnapshot).1
      [{ bids := [⟨10, 2⟩], asks := [⟨11, 0⟩, ⟨12, 1⟩], sequence := 2, previousSequence := 1 }] := by
  refine (limited_book_agrees _ thinSnapshot 1 _ (by decide) (by decide +kernel)
    (by decide +kernel) (by decide +kernel) (by decide +kernel) ?_ ?_).mpr ?_
  · exact ⟨by decide +kernel, trivial⟩
  · exact ⟨by decide +kernel, trivial⟩
  · exact ⟨by decide +kernel, by decide +kernel, trivial⟩

/-- Deleting the only kept bid brings back a level that the limited book lost. -/
theorem limited_book_loses_level :
    ¬ ∀ (book : LocalL2Book) (snapshot : BookSnapshot) (depth : Int) (deltas : List BookDelta),
      0 < depth → ((book.withDepth depth).load snapshot).2.applied = true →
      ((book.withDepth 0).load snapshot).2.applied = true →
      Accepted ((book.withDepth depth).load snapshot).1 deltas →
      Accepted ((book.withDepth 0).load snapshot).1 deltas →
      AgreesThroughout depth.toNat ((book.withDepth depth).load snapshot).1
        ((book.withDepth 0).load snapshot).1 deltas := by
  intro agrees
  have lost := agrees { venue := "okx", symbol := "BTC-USDT-SWAP" } thinSnapshot 1
    [{ bids := [⟨10, 0⟩, ⟨8, 1⟩], asks := [], sequence := 2, previousSequence := 1 }]
    (by decide) (by decide +kernel) (by decide +kernel) ⟨by decide +kernel, trivial⟩
    ⟨by decide +kernel, trivial⟩
  exact absurd lost.2.bids (by decide +kernel)

end LightFee.MarketData
