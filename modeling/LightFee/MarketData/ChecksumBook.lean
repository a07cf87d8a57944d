import LightFee.MarketData.DepthLimit
import LightFee.MarketData.LocalL2Runtime

/-!
# The checksum texts against the execution book

The texts and the execution sides are two books fed by one stream. The texts
keep deletions and two hundred levels; the parsers strip deletions from the
execution levels, which are cut at fifty. The texts therefore mirror the
execution side as long as no deletion would have to remove an execution level
and neither book is reset without the other.
-/

namespace LightFee.MarketData

/-! ## Texts read as levels -/

def RawChecksumLevel.level (raw : RawChecksumLevel) : PriceLevel := ⟨raw.price, raw.quantity⟩

/-- The levels that a list of wire texts reads as. -/
def readLevels (texts : List (String × String)) : List PriceLevel :=
  (texts.filterMap rawChecksumLevel).map RawChecksumLevel.level

theorem sort_raw_levels (side : BookSide) (levels : List RawChecksumLevel) :
    (sortRaw side levels).map RawChecksumLevel.level =
      sortSide side (levels.map RawChecksumLevel.level) := by
  cases side with
  | bid => exact List.map_insertionSort _ _ _ levels (fun _ _ _ _ => Iff.rfl)
  | ask => exact List.map_insertionSort _ _ _ levels (fun _ _ _ _ => Iff.rfl)

/-- A sanitized side is the sorted positive levels of its texts. -/
theorem sanitize_levels (texts : List (String × String)) (side : BookSide) (depth : Nat) :
    (sanitizeRawChecksumSide texts side depth).map RawChecksumLevel.level =
      (sortSide side ((readLevels texts).filter (fun level =>
        decide (0 < level.quantity)))).take depth := by
  rw [sanitizeRawChecksumSide, List.map_take, sort_raw_levels, readLevels, List.filter_map]
  rfl

/-- A delta of texts as a batch of changes. -/
def rawChange (raw : RawChecksumLevel) : ℚ × Option RawChecksumLevel :=
  (raw.price, if raw.quantity ≤ 0 then none else some raw)

/-- The map that a merge of texts builds before sorting. -/
def rawMap (existing : List RawChecksumLevel) (texts : List (String × String)) :
    OrderedDict ℚ RawChecksumLevel :=
  (OrderedDict.empty.insertAll (existing.map (fun raw => (raw.price, raw)))).changeAll
    ((texts.filterMap rawChecksumLevel).map rawChange)

theorem merge_raw_eq (existing : List RawChecksumLevel) (texts : List (String × String))
    (side : BookSide) (depth : Nat) : mergeRawChecksumSide existing texts side depth =
      (sortRaw side (rawMap existing texts).values).take depth := by
  have known (dict : OrderedDict ℚ RawChecksumLevel) : existing.foldl
      (fun byPrice level => byPrice.insert level.price level) dict =
        dict.insertAll (existing.map (fun raw => (raw.price, raw))) := by
    simp [OrderedDict.insertAll, List.foldl_map]
  unfold mergeRawChecksumSide
  simp only [known]
  refine congrArg (fun dict : OrderedDict ℚ RawChecksumLevel =>
    (sortRaw side dict.values).take depth) ?_
  -- The texts change the map one by one, whatever the map is.
  rw [rawMap]
  generalize OrderedDict.empty.insertAll (existing.map (fun raw => (raw.price, raw))) = dict
  induction texts generalizing dict with
  | nil => rfl
  | cons text rest ih =>
    rw [List.foldl_cons, ih]
    cases parsed : rawChecksumLevel text with
    | none => simp [parsed]
    | some raw =>
      by_cases deletes : raw.quantity ≤ 0 <;>
        simp [parsed, OrderedDict.changeAll, rawChange, OrderedDict.change, deletes]

/-- Every entry of the map stands at its own price. -/
theorem raw_map_keyed (existing : List RawChecksumLevel) (texts : List (String × String))
    (price : ℚ) (raw : RawChecksumLevel)
    (found : (rawMap existing texts).find? price = some raw) : raw.price = price := by
  let keyed (price : ℚ) (raw : RawChecksumLevel) : Prop := raw.price = price
  refine OrderedDict.forall_changeAll keyed _ _ ?_ ?_ price raw found
  · intro key value before
    rw [OrderedDict.insertAll_eq_changeAll] at before
    refine OrderedDict.forall_changeAll keyed _ _ ?_ ?_ key value before
    · intro key value absent
      simp at absent
    · intro key value written
      simp only [List.map_map, List.mem_map, Function.comp_apply, Prod.mk.injEq,
        Option.some.injEq] at written
      obtain ⟨source, _, same, rfl⟩ := written
      exact same
  · intro key value written
    obtain ⟨source, _, same⟩ := List.mem_map.mp written
    simp only [rawChange, Prod.mk.injEq] at same
    obtain ⟨rfl, kept⟩ := same
    split_ifs at kept
    obtain rfl := Option.some.inj kept
    rfl

/-- Merging texts and then reading them is merging what they read as. -/
theorem merge_raw_levels (existing : List RawChecksumLevel) (texts : List (String × String))
    (side : BookSide) (depth : Nat) :
    (mergeRawChecksumSide existing texts side depth).map RawChecksumLevel.level =
      (sortSide side (mergedLevels (existing.map RawChecksumLevel.level)
        (readLevels texts))).take depth := by
  have quantities : (rawMap existing texts).mapValues RawChecksumLevel.quantity =
      priceMap (existing.map RawChecksumLevel.level) (readLevels texts) := by
    rw [rawMap, OrderedDict.mapValues_changeAll, OrderedDict.insertAll_eq_changeAll,
      OrderedDict.mapValues_changeAll, priceMap, OrderedDict.insertAll_eq_changeAll]
    congr 1
    · simp [PriceLevel.entry, RawChecksumLevel.level, Function.comp_def]
      rfl
    · rw [readLevels, List.map_map, List.map_map]
      congr 1
      funext raw
      by_cases deletes : raw.quantity ≤ 0 <;>
        simp [rawChange, levelChange, RawChecksumLevel.level, deletes]
  have values : (rawMap existing texts).values.map RawChecksumLevel.level =
      mergedLevels (existing.map RawChecksumLevel.level) (readLevels texts) := by
    rw [mergedLevels, ← quantities, OrderedDict.values, OrderedDict.mapValues, List.map_map,
      List.map_map]
    refine List.map_congr_left ?_
    rintro ⟨price, raw⟩ member
    have same := raw_map_keyed existing texts price raw
      ((OrderedDict.mem_entries _ price raw).mp member)
    simp [RawChecksumLevel.level, same]
  rw [merge_raw_eq, List.map_take, sort_raw_levels, values]

/-! ## One side -/

/-- The depth of both signing venues. -/
def signedDepth : Nat := 50

/-- Texts that are there list the execution levels first. -/
def MirroredSide (side : BookSide) (levels : List PriceLevel) (raw : List RawChecksumLevel) : Prop :=
  raw ≠ [] → SortedSide side (raw.map RawChecksumLevel.level) ∧
    levels = (raw.map RawChecksumLevel.level).take signedDepth

/-- Execution levels of a side of texts: deletions are stripped. -/
def strippedLevels (texts : List (String × String)) : List PriceLevel :=
  (readLevels texts).filter (fun level => decide (0 < level.quantity))

/-- A delta that keeps one side mirrored. Texts may not start on a side whose
execution levels they do not list, and a deletion may not name an execution
level or a level of its own delta. -/
def DeltaKeepsSide (levels : List PriceLevel) (raw : List RawChecksumLevel)
    (texts : List (String × String)) : Prop :=
  if raw = [] ∧ levels ≠ [] then strippedLevels texts = []
  else ∀ deletion ∈ readLevels texts, deletion.quantity ≤ 0 →
    deletion.price ∉ levels.map PriceLevel.price ∧
      deletion.price ∉ (strippedLevels texts).map PriceLevel.price

instance (levels : List PriceLevel) (raw : List RawChecksumLevel)
    (texts : List (String × String)) : Decidable (DeltaKeepsSide levels raw texts) :=
  inferInstanceAs (Decidable (if raw = [] ∧ levels ≠ [] then strippedLevels texts = []
    else ∀ deletion ∈ readLevels texts, deletion.quantity ≤ 0 →
      deletion.price ∉ levels.map PriceLevel.price ∧
        deletion.price ∉ (strippedLevels texts).map PriceLevel.price))

/-- Merging only deletions into nothing gives nothing. -/
theorem merged_deletions {incoming : List PriceLevel}
    (deletes : ∀ level ∈ incoming, level.quantity ≤ 0) : mergedLevels [] incoming = [] := by
  rw [List.eq_nil_iff_forall_not_mem]
  intro level member
  rw [mem_merged (by simp)] at member
  cases last : OrderedDict.lastChange level.price (incoming.map levelChange) with
  | none => simp [last, quantityAt, OrderedDict.lookupEntries] at member
  | some change =>
    obtain ⟨source, belongs, same⟩ :=
      List.mem_map.mp (OrderedDict.lastChange_mem _ _ _ last)
    have erased : change = none := by
      have stands := congrArg Prod.snd same
      simpa [levelChange, deletes source belongs] using stands.symm
    simp [last, erased] at member

/-- Deletions that name neither an execution level nor a level of their own delta
do not change a merge. -/
theorem merged_stripped {levels : List PriceLevel}
    (distinct : (levels.map PriceLevel.price).Nodup) (texts : List (String × String))
    (idle : ∀ deletion ∈ readLevels texts, deletion.quantity ≤ 0 →
      deletion.price ∉ levels.map PriceLevel.price ∧
        deletion.price ∉ (strippedLevels texts).map PriceLevel.price) (level : PriceLevel) :
    level ∈ mergedLevels levels (strippedLevels texts) ↔
      level ∈ mergedLevels levels (readLevels texts) := by
  have changes : (strippedLevels texts).map levelChange =
      ((readLevels texts).map levelChange).filter (fun entry => entry.2.isSome) := by
    rw [strippedLevels, List.filter_map]
    congr 1
    refine List.filter_congr ?_
    intro source _
    by_cases deletes : source.quantity ≤ 0
    · simp [levelChange, deletes]
    · simp [levelChange, deletes, not_le.mp deletes]
  rw [mem_merged distinct, mem_merged distinct]
  by_cases named : level.price ∈ (strippedLevels texts).map PriceLevel.price
  · rw [changes, OrderedDict.lastChange_filter]
    intro entry member same
    obtain ⟨source, belongs, rfl⟩ := List.mem_map.mp member
    by_cases deletes : source.quantity ≤ 0
    · have price : source.price = level.price := same
      exact absurd (price ▸ named) (idle source belongs deletes).2
    · simp [levelChange, deletes]
  · have silent : OrderedDict.lastChange level.price ((strippedLevels texts).map levelChange) =
        none := by
      rw [OrderedDict.lastChange_none]
      simpa [levelChange, Function.comp_def] using named
    rw [silent, Option.getD_none]
    cases last : OrderedDict.lastChange level.price ((readLevels texts).map levelChange) with
    | none => rfl
    | some change =>
      obtain ⟨source, belongs, same⟩ :=
        List.mem_map.mp (OrderedDict.lastChange_mem _ _ _ last)
      have price : source.price = level.price := congrArg Prod.fst same
      have deletes : source.quantity ≤ 0 := by
        by_contra positive
        have kept : source ∈ strippedLevels texts :=
          List.mem_filter.mpr ⟨belongs, decide_eq_true (not_le.mp positive)⟩
        exact named (price ▸ List.mem_map_of_mem kept)
      have erased : change = none := by
        have stands := congrArg Prod.snd same
        simpa [levelChange, deletes] using stands.symm
      have absent : quantityAt level.price levels = none := by
        have unlisted := (idle source belongs deletes).1
        rw [price] at unlisted
        rw [quantityAt, OrderedDict.lookup_eq_none]
        simpa [PriceLevel.entry, Function.comp_def] using unlisted
      rw [erased, absent]
      rfl

/-- Prices that no deletion names stay in a merge. -/
theorem merged_keeps_price {levels incoming : List PriceLevel}
    (distinct : (levels.map PriceLevel.price).Nodup) {level : PriceLevel} (member : level ∈ levels)
    (kept : ∀ deletion ∈ incoming, deletion.quantity ≤ 0 → deletion.price ≠ level.price) :
    ∃ merged ∈ mergedLevels levels incoming, merged.price = level.price := by
  cases last : OrderedDict.lastChange level.price (incoming.map levelChange) with
  | none =>
    refine ⟨level, ?_, rfl⟩
    rw [mem_merged distinct, last, Option.getD_none]
    exact (mem_iff_quantity distinct level).mp member
  | some change =>
    obtain ⟨source, belongs, same⟩ := List.mem_map.mp (OrderedDict.lastChange_mem _ _ _ last)
    have price : source.price = level.price := congrArg Prod.fst same
    have positive : ¬ source.quantity ≤ 0 := fun deletes => kept source belongs deletes price
    have written : change = some source.quantity := by
      have stands := congrArg Prod.snd same
      simpa [levelChange, positive] using stands.symm
    refine ⟨⟨level.price, source.quantity⟩, ?_, rfl⟩
    rw [mem_merged distinct, last, written]
    rfl

/-- A delta whose deletions spare the first levels keeps the depth. -/
theorem keeps_depth_of_spared {side : BookSide} {levels incoming : List PriceLevel}
    (sorted : SortedSide side levels) (depth : Nat)
    (spared : ∀ deletion ∈ incoming, deletion.quantity ≤ 0 →
      deletion.price ∉ (levels.take depth).map PriceLevel.price) :
    KeepsDepth depth side (levels.take depth) levels incoming := by
  intro hidden isHidden
  obtain ⟨_, hiddenLost⟩ := first_untouched_lost isHidden
  have takeDistinct : ((levels.take depth).map PriceLevel.price).Nodup :=
    Ladder.strict_distinct (Ladder.strict_take sorted depth)
  have ordered : SortedSide side (levels.take depth ++ levels.drop depth) := by
    rw [List.take_append_drop]
    exact sorted
  have ahead := (List.pairwise_append.mp ordered).2.2
  have listed : (levels.take depth).map PriceLevel.price ⊆
      ((mergedLevels (levels.take depth) incoming).filter (fun level =>
        decide (side.better level.price hidden.price ∧ level.price ≠ hidden.price))).map
          PriceLevel.price := by
    intro price member
    obtain ⟨level, belongs, rfl⟩ := List.mem_map.mp member
    obtain ⟨merged, inMerge, samePrice⟩ := merged_keeps_price takeDistinct belongs
      (fun deletion inDelta deletes same => spared deletion inDelta deletes (same ▸ member))
    have better := ahead level belongs hidden hiddenLost
    refine List.mem_map.mpr ⟨merged, List.mem_filter.mpr ⟨inMerge, ?_⟩, samePrice⟩
    rw [samePrice]
    exact decide_eq_true better
  have enough := (List.subperm_of_subset takeDistinct listed).length_le
  have full : depth ≤ levels.length := by
    have someLeft := List.length_pos_of_mem hiddenLost
    rw [List.length_drop] at someLeft
    omega
  rw [List.length_map, List.length_map, List.length_take, min_eq_left full] at enough
  exact enough

/-- One delta keeps a side mirrored. -/
theorem mirrored_delta {side : BookSide} {levels : List PriceLevel} {raw : List RawChecksumLevel}
    (mirrored : MirroredSide side levels raw) (texts : List (String × String))
    (keeps : DeltaKeepsSide levels raw texts) (rawDepth : Nat) (deep : signedDepth ≤ rawDepth) :
    MirroredSide side
      ((sortSide side (mergedLevels levels (strippedLevels texts))).take signedDepth)
      (mergeRawChecksumSide raw texts side rawDepth) := by
  intro remains
  rw [merge_raw_levels]
  unfold DeltaKeepsSide at keeps
  split_ifs at keeps with unlisted
  · exfalso
    obtain ⟨rfl, _⟩ := unlisted
    have deletes : ∀ level ∈ readLevels texts, level.quantity ≤ 0 := by
      intro level member
      by_contra positive
      have kept : level ∈ strippedLevels texts :=
        List.mem_filter.mpr ⟨member, decide_eq_true (not_le.mp positive)⟩
      rw [keeps] at kept
      cases kept
    have nothing := merge_raw_levels [] texts side rawDepth
    rw [List.map_nil, merged_deletions deletes] at nothing
    exact remains (by simpa [sortSide, Ladder.sort] using nothing)
  · have start : SortedSide side (raw.map RawChecksumLevel.level) ∧
        levels = (raw.map RawChecksumLevel.level).take signedDepth := by
      by_cases empty : raw = []
      · subst empty
        have noLevels : levels = [] := by
          by_contra present
          exact unlisted ⟨rfl, present⟩
        exact ⟨List.Pairwise.nil, by simp [noLevels]⟩
      · exact mirrored empty
    obtain ⟨sorted, shown⟩ := start
    have distinct : (levels.map PriceLevel.price).Nodup := by
      rw [shown]
      exact Ladder.strict_distinct (Ladder.strict_take sorted signedDepth)
    have sameExecution : sortSide side (mergedLevels levels (strippedLevels texts)) =
        sortSide side (mergedLevels levels (readLevels texts)) := by
      refine Ladder.strict_ext (merged_sorted side _ _) (merged_sorted side _ _) ?_
      intro level
      rw [sortSide, sortSide, Ladder.mem_sort, Ladder.mem_sort]
      exact merged_stripped distinct texts keeps level
    refine ⟨Ladder.strict_take (merged_sorted side _ _) rawDepth, ?_⟩
    rw [sameExecution, List.take_take, min_eq_left deep, shown]
    apply (merge_keeps_prefix_iff sorted signedDepth (readLevels texts)).mpr
    apply keeps_depth_of_spared sorted
    intro deletion member deletes
    rw [← shown]
    exact (keeps deletion member deletes).1

/-- A snapshot that lists each price once mirrors its side. -/
theorem mirrored_snapshot {side : BookSide} (texts : List (String × String))
    (distinct : ((strippedLevels texts).map PriceLevel.price).Nodup) (rawDepth : Nat)
    (deep : signedDepth ≤ rawDepth) :
    MirroredSide side ((sortSide side (strippedLevels texts)).take signedDepth)
      (sanitizeRawChecksumSide texts side rawDepth) := by
  intro _
  rw [sanitize_levels]
  have sorted : SortedSide side (sortSide side (strippedLevels texts)) :=
    Ladder.sort_strict _ _ distinct
  refine ⟨Ladder.strict_take sorted rawDepth, ?_⟩
  rw [List.take_take, min_eq_left deep]
  rfl

/-- A delta without texts leaves a mirrored side as it is. -/
theorem mirrored_silent {side : BookSide} {levels : List PriceLevel} {raw : List RawChecksumLevel}
    (mirrored : MirroredSide side levels raw) :
    MirroredSide side ((sortSide side (mergedLevels levels [])).take signedDepth) raw := by
  intro present
  obtain ⟨sorted, shown⟩ := mirrored present
  have levelsSorted : SortedSide side levels := by
    rw [shown]
    exact Ladder.strict_take sorted signedDepth
  have same : sortSide side (mergedLevels levels []) = levels := by
    refine Ladder.strict_ext (merged_sorted side _ _) levelsSorted ?_
    intro level
    rw [sortSide, Ladder.mem_sort, merged_unnamed (Ladder.strict_distinct levelsSorted)]
    simp
  refine ⟨sorted, ?_⟩
  rw [same, shown, List.take_take, min_self]

/-! ## One recorded update -/

/-- Both sides of texts mirror the execution book of a signing venue. -/
structure MirroredBook (book : LocalL2Book) : Prop where
  depth : book.maxDepth = signedDepth
  bids : MirroredSide .bid book.bids book.rawChecksumBids
  asks : MirroredSide .ask book.asks book.rawChecksumAsks

/-- An update of a signing venue: its execution levels are its texts without the
deletions, or it is a REST snapshot that carries no texts. -/
structure SignedUpdate (update : LocalL2Update) : Prop where
  kind : update.updateKind = .snapshot ∨ update.updateKind = .delta
  sides : (update.bids = strippedLevels update.rawBids ∧
      update.asks = strippedLevels update.rawAsks) ∨
    (update.rawBids = [] ∧ update.rawAsks = [] ∧ update.updateKind = .snapshot)

/-- A step that keeps the book mirrored: a snapshot without texts meets no texts,
a snapshot with texts lists each price once, and a delta keeps both sides. -/
def StepKeepsMirror (book : LocalL2Book) (update : LocalL2Update) : Prop :=
  if update.updateKind = .snapshot then
    if update.rawBids = [] ∧ update.rawAsks = [] then
      update.bids = [] ∨ (book.rawChecksumBids = [] ∧ book.rawChecksumAsks = [])
    else (update.bids.map PriceLevel.price).Nodup ∧ (update.asks.map PriceLevel.price).Nodup
  else DeltaKeepsSide book.bids book.rawChecksumBids update.rawBids ∧
    DeltaKeepsSide book.asks book.rawChecksumAsks update.rawAsks

instance (book : LocalL2Book) (update : LocalL2Update) :
    Decidable (StepKeepsMirror book update) :=
  inferInstanceAs (Decidable (if update.updateKind = .snapshot then
    if update.rawBids = [] ∧ update.rawAsks = [] then
      update.bids = [] ∨ (book.rawChecksumBids = [] ∧ book.rawChecksumAsks = [])
    else (update.bids.map PriceLevel.price).Nodup ∧ (update.asks.map PriceLevel.price).Nodup
  else DeltaKeepsSide book.bids book.rawChecksumBids update.rawBids ∧
    DeltaKeepsSide book.asks book.rawChecksumAsks update.rawAsks))

/-- The update reaches the book: the preflight lets it through, and a delta is neither stale nor
across a gap. A snapshot is admitted whatever its levels are. -/
def Admitted (book : LocalL2Book) (update : LocalL2Update) (nowMs : Int) : Prop :=
  (preflightVenueUpdate book update).isNone = true ∧
    (update.updateKind = .snapshot ∨ (book.admitDelta update.sequence
      (runtimePreviousSequence book update) (effectiveTimeMs update nowMs)).isRight = true)

theorem trim_signed (levels : List PriceLevel) (book : LocalL2Book)
    (depth : book.maxDepth = signedDepth) :
    trim (orDefault 0 book.maxDepth) levels = levels.take signedDepth := by
  simp [trim, orDefault, depth, signedDepth]

theorem texts_unchanged {update : LocalL2Update} (book : LocalL2Book)
    (noTexts : update.rawBids = [] ∧ update.rawAsks = []) :
    updateRawChecksumBook book update = book := by
  simp [updateRawChecksumBook, noTexts]

theorem texts_updated {update : LocalL2Update} (book : LocalL2Book)
    (texts : ¬ (update.rawBids = [] ∧ update.rawAsks = [])) :
    updateRawChecksumBook book update =
      book.applyRawChecksumUpdate update.rawBids update.rawAsks update.updateKind := by
  have someTexts : update.rawBids ≠ [] ∨ update.rawAsks ≠ [] := not_and_or.mp texts
  simp only [updateRawChecksumBook, someTexts, if_true]

/-- An applied snapshot, with its texts, keeps the book mirrored. -/
theorem snapshot_mirrored {book : LocalL2Book} {update : LocalL2Update} (nowMs : Int)
    (mirrored : MirroredBook book) (signed : SignedUpdate update)
    (snapshot : update.updateKind = .snapshot) (keeps : StepKeepsMirror book update)
    (applied : (applyUpdate book update nowMs).2.applied = true) :
    MirroredBook (updateRawChecksumBook (applyUpdate book update nowMs).1 update) := by
  have isSnapshot : applyUpdate book update nowMs = book.applySnapshot update.bids update.asks
      update.sequence update.checksum (effectiveTimeMs update nowMs) := by
    simp [applyUpdate, snapshot]
  rw [isSnapshot] at applied ⊢
  have next := apply_snapshot_applied applied
  rw [trim_signed _ _ mirrored.depth, trim_signed _ _ mirrored.depth, sort_bids_eq,
    sort_asks_eq] at next
  unfold StepKeepsMirror at keeps
  rw [if_pos snapshot] at keeps
  by_cases noTexts : update.rawBids = [] ∧ update.rawAsks = []
  · rw [if_pos noTexts] at keeps
    rcases keeps with noBids | ⟨noRawBids, noRawAsks⟩
    · exfalso
      simp [LocalL2Book.applySnapshot, noBids, sortBids, Ladder.sort, trim,
        bookStructureFault] at applied
    · rw [texts_unchanged _ noTexts, next]
      exact ⟨mirrored.depth, fun present => absurd noRawBids present,
        fun present => absurd noRawAsks present⟩
  · rw [if_neg noTexts] at keeps
    obtain ⟨bids, asks⟩ := signed.sides.resolve_right
      (fun none => noTexts ⟨none.1, none.2.1⟩)
    rw [texts_updated _ noTexts, next, bids, asks, LocalL2Book.applyRawChecksumUpdate,
      if_pos snapshot]
    rw [bids, asks] at keeps
    exact ⟨mirrored.depth, mirrored_snapshot update.rawBids keeps.1 _ (by decide),
      mirrored_snapshot update.rawAsks keeps.2 _ (by decide)⟩

/-- An applied delta, with its texts, keeps the book mirrored. -/
theorem delta_mirrored {book : LocalL2Book} {update : LocalL2Update} (nowMs : Int)
    (mirrored : MirroredBook book) (signed : SignedUpdate update)
    (notSnapshot : update.updateKind ≠ .snapshot) (keeps : StepKeepsMirror book update)
    (applied : (applyUpdate book update nowMs).2.applied = true) :
    MirroredBook (updateRawChecksumBook (applyUpdate book update nowMs).1 update) := by
  have isDelta : applyUpdate book update nowMs = book.applyDelta update.bids update.asks
      update.sequence (runtimePreviousSequence book update) (effectiveTimeMs update nowMs) := by
    simp [applyUpdate, notSnapshot]
  rw [isDelta] at applied ⊢
  have next := apply_delta_applied applied
  rw [merge_levels_eq, merge_levels_eq, trim_signed _ _ mirrored.depth,
    trim_signed _ _ mirrored.depth] at next
  unfold StepKeepsMirror at keeps
  rw [if_neg notSnapshot] at keeps
  obtain ⟨bids, asks⟩ := signed.sides.resolve_right (fun none => notSnapshot none.2.2)
  by_cases noTexts : update.rawBids = [] ∧ update.rawAsks = []
  · rw [texts_unchanged _ noTexts, next, bids, asks, noTexts.1, noTexts.2]
    exact ⟨mirrored.depth, mirrored_silent mirrored.bids, mirrored_silent mirrored.asks⟩
  · rw [texts_updated _ noTexts, next, bids, asks, LocalL2Book.applyRawChecksumUpdate,
      if_neg notSnapshot]
    exact ⟨mirrored.depth, mirrored_delta mirrored.bids update.rawBids keeps.1 _ (by decide),
      mirrored_delta mirrored.asks update.rawAsks keeps.2 _ (by decide)⟩

/-- An update that is not applied leaves the book alone. -/
theorem unapplied_unchanged {book : LocalL2Book} {update : LocalL2Update} {nowMs : Int}
    (refused : (applyUpdate book update nowMs).2.applied = false) :
    (applyUpdate book update nowMs).1 = book := by
  unfold applyUpdate at refused ⊢
  split_ifs at refused ⊢ with snapshot
  · rcases apply_snapshot_cases book update.bids update.asks update.sequence update.checksum
        (effectiveTimeMs update nowMs) 0 with ⟨_, _, same, _⟩ | ⟨_, _, applied, _⟩
    · exact same
    · rw [applied] at refused
      cases refused
  · rcases apply_delta_cases book update.bids update.asks update.sequence
        (runtimePreviousSequence book update) (effectiveTimeMs update nowMs) 0 with
      ⟨_, _, outcome⟩ | ⟨_, _, same, _⟩ | ⟨_, _, _, applied, _⟩
    · rw [outcome]
    · exact same
    · rw [applied] at refused
      cases refused

/-- An update that is applied after the preflight was admitted. -/
theorem admitted_of_applied {book : LocalL2Book} {update : LocalL2Update} {nowMs : Int}
    (passed : preflightVenueUpdate book update = none)
    (applied : (applyUpdate book update nowMs).2.applied = true) : Admitted book update nowMs := by
  refine ⟨by rw [passed]; rfl, or_iff_not_imp_left.mpr fun notSnapshot => ?_⟩
  rw [applyUpdate, if_neg notSnapshot, LocalL2Book.applyDelta] at applied
  cases verdict : book.admitDelta update.sequence (runtimePreviousSequence book update)
      (effectiveTimeMs update nowMs) with
  | inl refused =>
    rw [verdict] at applied
    exact absurd ((admit_refused verdict).symm.trans applied) Bool.false_ne_true
  | inr events => rfl

/-- An applied update does not ask for a rebuild. -/
theorem applied_calm {book : LocalL2Book} {update : LocalL2Update} {nowMs : Int}
    (applied : (applyUpdate book update nowMs).2.applied = true) :
    (applyUpdate book update nowMs).2.rebuildRequired = false := by
  unfold applyUpdate at applied ⊢
  split_ifs at applied ⊢ with snapshot
  · rcases apply_snapshot_cases book update.bids update.asks update.sequence update.checksum
        (effectiveTimeMs update nowMs) 0 with ⟨_, _, _, refused, _⟩ | ⟨_, _, _, calm⟩
    · rw [refused] at applied
      cases applied
    · exact calm
  · rcases apply_delta_cases book update.bids update.asks update.sequence
        (runtimePreviousSequence book update) (effectiveTimeMs update nowMs) 0 with
      ⟨_, verdict, outcome⟩ | ⟨_, _, _, refused, _⟩ | ⟨_, _, _, _, calm⟩
    · rw [outcome, admit_refused verdict] at applied
      cases applied
    · rw [refused] at applied
      cases applied
    · exact calm

/-- The same sides, and the same texts or none. -/
structure KeepsSides (before after : LocalL2Book) : Prop where
  depth : after.maxDepth = before.maxDepth
  bids : after.bids = before.bids
  asks : after.asks = before.asks
  texts : (after.rawChecksumBids = before.rawChecksumBids ∧
      after.rawChecksumAsks = before.rawChecksumAsks) ∨
    (after.rawChecksumBids = [] ∧ after.rawChecksumAsks = [])

/-- Losing the texts or keeping everything preserves the mirror. -/
theorem mirrored_of_keeps {before after : LocalL2Book} (mirrored : MirroredBook before)
    (keeps : KeepsSides before after) : MirroredBook after := by
  refine ⟨keeps.depth.trans mirrored.depth, ?_, ?_⟩
  · rcases keeps.texts with same | none
    · rw [keeps.bids, same.1]
      exact mirrored.bids
    · exact fun present => absurd none.1 present
  · rcases keeps.texts with same | none
    · rw [keeps.asks, same.2]
      exact mirrored.asks
    · exact fun present => absurd none.2 present

/-- Verification keeps the sides and at most drops the texts. -/
theorem verify_keeps (book : LocalL2Book) (update : LocalL2Update) (result : LocalL2UpdateResult)
    (nowMs : Int) : KeepsSides book (verifyVenueChecksum book update result nowMs).1 := by
  unfold verifyVenueChecksum
  simp only []
  split_ifs
  · exact ⟨rfl, rfl, rfl, Or.inr ⟨rfl, rfl⟩⟩
  · exact ⟨rfl, rfl, rfl, Or.inl ⟨rfl, rfl⟩⟩
  · exact ⟨rfl, rfl, rfl, Or.inr ⟨rfl, rfl⟩⟩
  · exact ⟨rfl, rfl, rfl, Or.inl ⟨rfl, rfl⟩⟩
  · exact ⟨rfl, rfl, rfl, Or.inl ⟨rfl, rfl⟩⟩

theorem report_keeps (book : LocalL2Book) (result : LocalL2UpdateResult) :
    KeepsSides book (reportRebuild book result).book := by
  unfold reportRebuild LocalL2Book.transitionToRebuilding
  split_ifs
  · split <;> exact ⟨rfl, rfl, rfl, Or.inl ⟨rfl, rfl⟩⟩
  · exact ⟨rfl, rfl, rfl, Or.inl ⟨rfl, rfl⟩⟩

theorem bridge_keeps (book : LocalL2Book) (update : LocalL2Update) (result : LocalL2UpdateResult) :
    KeepsSides book (armSnapshotBridge book update result) := by
  unfold armSnapshotBridge
  split_ifs <;> exact ⟨rfl, rfl, rfl, Or.inl ⟨rfl, rfl⟩⟩

theorem with_texts_mirrored {book : LocalL2Book} {update : LocalL2Update} (nowMs : Int)
    (mirrored : MirroredBook book) (signed : SignedUpdate update)
    (passed : preflightVenueUpdate book update = none)
    (keeps : Admitted book update nowMs → StepKeepsMirror book update) :
    MirroredBook (withTexts book update nowMs) := by
  unfold withTexts
  split_ifs with accepted
  · have keeps := keeps (admitted_of_applied passed accepted.1)
    rcases signed.kind with snapshot | delta
    · exact snapshot_mirrored nowMs mirrored signed snapshot keeps accepted.1
    · exact delta_mirrored nowMs mirrored signed (by rw [delta]; decide) keeps accepted.1
  · cases applied : (applyUpdate book update nowMs).2.applied with
    | false => rw [unapplied_unchanged applied]; exact mirrored
    | true =>
      exfalso
      apply accepted
      exact ⟨applied, by rw [applied_calm applied]; rfl⟩

/-- A sequence boundary empties both books. -/
theorem boundary_mirrored {book : LocalL2Book} (mirrored : MirroredBook book) (reason : String) :
    MirroredBook (markSequenceBoundaryRebuild book reason).book := by
  unfold markSequenceBoundaryRebuild LocalL2Book.transitionToRebuilding
  split
  all_goals exact ⟨mirrored.depth, fun present => absurd rfl present,
    fun present => absurd rfl present⟩

/-- A refused update is a sequence boundary, or it is stale and leaves the book alone. -/
theorem preflight_refused {book : LocalL2Book} {update : LocalL2Update} {outcome : BookOutcome}
    (refused : preflightVenueUpdate book update = some outcome) :
    (∃ reason, outcome = markSequenceBoundaryRebuild book reason) ∨
      outcome = { book := book, result :=
        { faultReason := some (.staleUpdateSequence book.sequence update.sequence) } } := by
  unfold preflightVenueUpdate at refused
  split_ifs at refused <;> obtain rfl := Option.some.inj refused
  · exact Or.inl ⟨_, rfl⟩
  · exact Or.inr rfl
  · exact Or.inl ⟨_, rfl⟩
  · exact Or.inl ⟨_, rfl⟩

/-- One recorded update keeps the book mirrored. -/
theorem record_mirrored {book : LocalL2Book} {update : LocalL2Update} (nowMs : Int)
    (mirrored : MirroredBook book) (signed : SignedUpdate update)
    (keeps : Admitted book update nowMs → StepKeepsMirror book update) :
    MirroredBook (recordOnBook book update nowMs).book := by
  unfold recordOnBook
  cases refused : preflightVenueUpdate book update with
  | none =>
    have texts := with_texts_mirrored nowMs mirrored signed refused keeps
    have verified := mirrored_of_keeps texts (verify_keeps _ update (applyUpdate book update nowMs).2
      nowMs)
    exact mirrored_of_keeps (mirrored_of_keeps verified (bridge_keeps _ update _))
      (report_keeps _ _)
  | some outcome =>
    rcases preflight_refused refused with ⟨reason, rfl⟩ | rfl
    · exact boundary_mirrored mirrored reason
    · exact mirrored

/-! ## Whole runs -/

/-- The faults that recording reports leave the sides and texts alone. -/
theorem record_failure_kind {book : LocalL2Book} {update : LocalL2Update} {nowMs : Int}
    {fault : RuntimeFaultKind} {reason : FaultReason}
    (failed : (recordOnBook book update nowMs).failure = some (fault, reason)) :
    fault = .checksumMismatch ∨ fault = .sequenceGap := by
  unfold recordOnBook at failed
  cases refused : preflightVenueUpdate book update with
  | none =>
    simp only [refused, Option.getD_none, recordAdmitted, reportRebuild] at failed
    split_ifs at failed <;> simp only [Option.some.injEq, Prod.mk.injEq] at failed
    · exact Or.inl failed.1.symm
    · exact Or.inr failed.1.symm
  | some outcome =>
    rw [refused, Option.getD_some] at failed
    rcases preflight_refused refused with ⟨reason, rfl⟩ | rfl
    · simp only [markSequenceBoundaryRebuild, Option.some.injEq, Prod.mk.injEq] at failed
      exact Or.inr failed.1.symm
    · cases failed

theorem fault_keeps (book : LocalL2Book) {fault : RuntimeFaultKind}
    (kind : fault = .checksumMismatch ∨ fault = .sequenceGap) (detail : FaultReason)
    (resumeAtMs : Int) : KeepsSides book (faultBook book fault detail resumeAtMs) := by
  rcases kind with rfl | rfl <;> exact ⟨rfl, rfl, rfl, Or.inl ⟨rfl, rfl⟩⟩

/-- The stored book after a recorded update keeps what recording left. -/
theorem recorded_book_keeps (runtime : LocalL2Runtime) (update : LocalL2Update) (nowMs : Int) :
    KeepsSides (recordOnBook (runtime.ensureBook update.venue update.symbol) update nowMs).book
      ((runtime.recordUpdateResult update nowMs).1.ensureBook update.venue update.symbol) := by
  cases failed : (recordOnBook (runtime.ensureBook update.venue update.symbol) update
      nowMs).failure with
  | none =>
    simp only [LocalL2Runtime.recordUpdateResult, failed, ensure_enqueue, ensure_put_book]
    exact ⟨rfl, rfl, rfl, Or.inl ⟨rfl, rfl⟩⟩
  | some report =>
    obtain ⟨fault, reason⟩ := report
    simp only [LocalL2Runtime.recordUpdateResult, failed, ensure_failure, ensure_enqueue,
      ensure_put_book]
    exact fault_keeps _ (record_failure_kind failed) reason _

/-! ## Updates that the parsers produce -/

/-- The value reads, and prints, as this decimal. -/
def ReadsAs (value : DynValue) (decimal : ℚ) : Prop :=
  value.toFloat? = some (.finite decimal) ∧ DecimalText.decimal value.text = some decimal

/-- A wire level with a positive decimal price and a decimal quantity. -/
def DecimalLevel (level : DynValue) : Prop :=
  ∃ priceValue quantityValue price quantity, wireIndex level 0 = some priceValue ∧
    wireIndex level 1 = some quantityValue ∧ ReadsAs priceValue price ∧
    ReadsAs quantityValue quantity ∧ 0 < price

/-- The venues whose rules verify a checksum. -/
inductive SigningVenue where
  | okx | bitget
deriving DecidableEq, Repr

def SigningVenue.name : SigningVenue → String
  | okx => "okx"
  | bitget => "bitget"

def SigningVenue.parse (venue : SigningVenue) (payload : DynValue) (symbol : String) (nowMs : Int) :
    Option LocalL2Update :=
  match venue with
  | okx => parseOkxL2Update payload symbol nowMs
  | bitget => parseBitgetL2Update payload symbol nowMs

/-- Bid and ask levels of a payload, as the venue's parser finds them. -/
def SigningVenue.levels (venue : SigningVenue) (payload : DynValue) :
    Option (List DynValue × List DynValue) :=
  match venue with
  | okx => (okxEntry payload).bind okxLevels
  | bitget => (bitgetData payload).bind (fun data =>
      if isBitgetRest data then bitgetRestLevels data else (dataEntry data).bind bitgetLevels)

/-- The book's update, parsed from a payload whose levels are decimals. -/
def Produced (venue : SigningVenue) (symbol : String) (update : LocalL2Update) : Prop :=
  ∃ payload argument nowMs, venue.parse payload argument nowMs = some update ∧
    update.symbol = symbol ∧
    ∀ bids asks, venue.levels payload = some (bids, asks) → ∀ level ∈ bids ++ asks,
      DecimalLevel level

theorem raw_checksum_level_reads {priceText quantityText : String} {price quantity : ℚ}
    (readsPrice : DecimalText.decimal priceText = some price)
    (readsQuantity : DecimalText.decimal quantityText = some quantity) (positive : 0 < price) :
    (rawChecksumLevel (priceText, quantityText)).map RawChecksumLevel.level =
      some ⟨price, quantity⟩ := by
  unfold rawChecksumLevel
  split
  next foundPrice foundQuantity samePrice sameQuantity =>
    obtain rfl := Option.some.inj (samePrice.symm.trans readsPrice)
    obtain rfl := Option.some.inj (sameQuantity.symm.trans readsQuantity)
    simp [positive, RawChecksumLevel.level]
  next missing => exact absurd readsQuantity (missing price quantity readsPrice)

/-- The execution levels of a side are its texts without the deletions. -/
theorem execution_side_stripped {levels : List DynValue}
    (decimals : ∀ level ∈ levels, DecimalLevel level) {sides : List PriceLevel}
    {texts : List (String × String)} (execution : executionSide levels = some sides)
    (printed : textSide levels = some texts) : sides = strippedLevels texts := by
  induction levels generalizing sides texts with
  | nil =>
    obtain rfl := Option.some.inj execution
    obtain rfl := Option.some.inj printed
    rfl
  | cons level rest ih =>
    obtain ⟨priceValue, quantityValue, price, quantity, atZero, atOne, readsPrice, readsQuantity,
      positive⟩ := decimals level List.mem_cons_self
    have later := fun other member => decimals other (List.mem_cons_of_mem level member)
    cases restExecution : executionSide rest with
    | none => simp [executionSide, restExecution] at execution
    | some restSides =>
      cases restPrinted : textSide rest with
      | none => simp [textSide, atZero, atOne, restPrinted] at printed
      | some restTexts =>
        have tail := ih later restExecution restPrinted
        have head := raw_checksum_level_reads readsPrice.2 readsQuantity.2 positive
        simp only [textSide, atZero, atOne, restPrinted, Option.some.injEq] at printed
        obtain ⟨raw, parsed, same⟩ := Option.map_eq_some_iff.mp head
        have quantityOf : raw.level.quantity = quantity := by rw [same]
        rw [← printed, strippedLevels, readLevels, List.filterMap_cons, parsed]
        simp only [executionSide, executionLevel, restExecution, atZero, atOne, Option.bind_some,
          readsPrice.1, readsQuantity.1] at execution
        by_cases kept : 0 < quantity
        · simp only [kept, if_true, Option.some.injEq, Option.toList_some] at execution
          rw [List.map_cons, List.filter_cons_of_pos (by simpa [quantityOf] using kept), same,
            ← execution, tail]
          rfl
        · simp only [kept, if_false, Option.some.injEq, Option.toList_none] at execution
          rw [List.map_cons, List.filter_cons_of_neg (by simpa [quantityOf] using kept),
            ← execution, tail]
          rfl

/-- Both sides of a message, each from its own levels. -/
theorem execution_sides_stripped {bidsRaw asksRaw : List DynValue}
    (decimals : ∀ level ∈ bidsRaw ++ asksRaw, DecimalLevel level) {bids asks : List PriceLevel}
    {rawBids rawAsks : List (String × String)} (isBids : executionSide bidsRaw = some bids)
    (isAsks : executionSide asksRaw = some asks) (isRawBids : textSide bidsRaw = some rawBids)
    (isRawAsks : textSide asksRaw = some rawAsks) :
    bids = strippedLevels rawBids ∧ asks = strippedLevels rawAsks := by
  constructor
  · exact execution_side_stripped (fun level member =>
      decimals level (List.mem_append_left asksRaw member)) isBids isRawBids
  · exact execution_side_stripped (fun level member =>
      decimals level (List.mem_append_right bidsRaw member)) isAsks isRawAsks

theorem okx_produces {payload : DynValue} {argument : String} {nowMs : Int}
    {update : LocalL2Update} (parsed : parseOkxL2Update payload argument nowMs = some update)
    (decimals : ∀ bids asks, SigningVenue.okx.levels payload = some (bids, asks) →
      ∀ level ∈ bids ++ asks, DecimalLevel level) :
    update.venue = "okx" ∧ SignedUpdate update := by
  unfold parseOkxL2Update at parsed
  obtain ⟨entry, isEntry, parsed⟩ := Option.bind_eq_some_iff.mp parsed
  obtain ⟨⟨bidsRaw, asksRaw⟩, isLevels, parsed⟩ := Option.bind_eq_some_iff.mp parsed
  obtain ⟨bids, isBids, parsed⟩ := Option.bind_eq_some_iff.mp parsed
  obtain ⟨asks, isAsks, parsed⟩ := Option.bind_eq_some_iff.mp parsed
  obtain ⟨sequence, -, parsed⟩ := Option.bind_eq_some_iff.mp parsed
  obtain ⟨previousSequence, -, parsed⟩ := Option.bind_eq_some_iff.mp parsed
  obtain ⟨checksum, -, parsed⟩ := Option.bind_eq_some_iff.mp parsed
  obtain ⟨symbol, -, parsed⟩ := Option.bind_eq_some_iff.mp parsed
  obtain ⟨timestamp, -, parsed⟩ := Option.bind_eq_some_iff.mp parsed
  obtain ⟨rawBids, isRawBids, parsed⟩ := Option.bind_eq_some_iff.mp parsed
  obtain ⟨rawAsks, isRawAsks, parsed⟩ := Option.bind_eq_some_iff.mp parsed
  cases parsed
  have found : SigningVenue.okx.levels payload = some (bidsRaw, asksRaw) := by
    simp [SigningVenue.levels, isEntry, isLevels]
  refine ⟨rfl, ?_, Or.inl ?_⟩
  · dsimp only
    split <;> simp
  · exact execution_sides_stripped (decimals bidsRaw asksRaw found) isBids isAsks isRawBids isRawAsks

theorem bitget_produces {payload : DynValue} {argument : String} {nowMs : Int}
    {update : LocalL2Update} (parsed : parseBitgetL2Update payload argument nowMs = some update)
    (decimals : ∀ bids asks, SigningVenue.bitget.levels payload = some (bids, asks) →
      ∀ level ∈ bids ++ asks, DecimalLevel level) :
    update.venue = "bitget" ∧ SignedUpdate update := by
  simp only [parseBitgetL2Update, Option.bind_eq_bind, Option.bind_eq_some_iff] at parsed
  obtain ⟨data, isData, parsed⟩ := parsed
  by_cases rest : isBitgetRest data = true
  · simp only [rest, if_true, parseBitgetRest, Option.bind_eq_bind, Option.bind_eq_some_iff,
      Option.pure_def, Option.some.injEq] at parsed
    obtain ⟨_, _, _, _, _, _, _, _, rfl⟩ := parsed
    exact ⟨rfl, Or.inl rfl, Or.inr ⟨rfl, rfl, rfl⟩⟩
  · rw [if_neg rest, parseBitgetWs] at parsed
    obtain ⟨entry, isEntry, parsed⟩ := Option.bind_eq_some_iff.mp parsed
    obtain ⟨⟨bidsRaw, asksRaw⟩, isLevels, parsed⟩ := Option.bind_eq_some_iff.mp parsed
    obtain ⟨bids, isBids, parsed⟩ := Option.bind_eq_some_iff.mp parsed
    obtain ⟨asks, isAsks, parsed⟩ := Option.bind_eq_some_iff.mp parsed
    obtain ⟨sequence, -, parsed⟩ := Option.bind_eq_some_iff.mp parsed
    obtain ⟨previousSequence, -, parsed⟩ := Option.bind_eq_some_iff.mp parsed
    obtain ⟨checksum, -, parsed⟩ := Option.bind_eq_some_iff.mp parsed
    obtain ⟨symbol, -, parsed⟩ := Option.bind_eq_some_iff.mp parsed
    obtain ⟨rawBids, isRawBids, parsed⟩ := Option.bind_eq_some_iff.mp parsed
    obtain ⟨rawAsks, isRawAsks, parsed⟩ := Option.bind_eq_some_iff.mp parsed
    obtain ⟨timestamp, -, parsed⟩ := Option.bind_eq_some_iff.mp parsed
    cases parsed
    have found : SigningVenue.bitget.levels payload = some (bidsRaw, asksRaw) := by
      simp [SigningVenue.levels, isData, rest, isEntry, isLevels]
    refine ⟨rfl, ?_, Or.inl ?_⟩
    · dsimp only
      split <;> simp
    · exact execution_sides_stripped (decimals bidsRaw asksRaw found) isBids isAsks isRawBids isRawAsks

/-- Both parsers produce updates of a signing venue. -/
theorem produced_signed {venue : SigningVenue} {symbol : String} {update : LocalL2Update}
    (produced : Produced venue symbol update) :
    update.venue = venue.name ∧ update.symbol = symbol ∧ SignedUpdate update := by
  obtain ⟨payload, argument, nowMs, parsed, sameSymbol, decimals⟩ := produced
  cases venue with
  | okx =>
    obtain ⟨sameVenue, signed⟩ := okx_produces parsed decimals
    exact ⟨sameVenue, sameSymbol, signed⟩
  | bitget =>
    obtain ⟨sameVenue, signed⟩ := bitget_produces parsed decimals
    exact ⟨sameVenue, sameSymbol, signed⟩

/-! ## The run -/

/-- The book of a signing venue. -/
def SigningVenue.book (venue : SigningVenue) (symbol : String) (runtime : LocalL2Runtime) :
    LocalL2Book :=
  runtime.ensureBook venue.name symbol

/-- Price and quantity texts, read as decimals. -/
def textDecimals (raw : List RawChecksumLevel) : List (Option ℚ × Option ℚ) :=
  raw.map (fun level =>
    (DecimalText.decimal level.priceText, DecimalText.decimal level.quantityText))

/-- Texts, where there are any, show the execution levels within the book's depth. -/
def ShowsExecution (depth : Int) (raw : List RawChecksumLevel) (levels : List PriceLevel) : Prop :=
  raw ≠ [] → textDecimals (trim depth raw) =
    levels.map (fun level => (some level.price, some level.quantity))

/-- After every applied update that needs no rebuild, both sides of texts show
their execution sides. -/
def MirrorsThroughout (venue : SigningVenue) (symbol : String) :
    LocalL2Runtime → List (LocalL2Update × Int) → Prop
  | _, [] => True
  | runtime, (update, nowMs) :: rest =>
    let recorded := runtime.recordUpdateResult update nowMs
    (recorded.2.applied = true ∧ recorded.2.rebuildRequired = false →
      ShowsExecution (venue.book symbol recorded.1).maxDepth
          (venue.book symbol recorded.1).rawChecksumBids (venue.book symbol recorded.1).bids ∧
        ShowsExecution (venue.book symbol recorded.1).maxDepth
          (venue.book symbol recorded.1).rawChecksumAsks (venue.book symbol recorded.1).asks) ∧
      MirrorsThroughout venue symbol recorded.1 rest

/-- Every step of the run whose update is admitted keeps the mirror. -/
def KeepsMirrorThroughout (venue : SigningVenue) (symbol : String) :
    LocalL2Runtime → List (LocalL2Update × Int) → Prop
  | _, [] => True
  | runtime, (update, nowMs) :: rest =>
    (Admitted (venue.book symbol runtime) update nowMs →
        StepKeepsMirror (venue.book symbol runtime) update) ∧
      KeepsMirrorThroughout venue symbol (runtime.recordUpdateResult update nowMs).1 rest

/-- A mirrored side shows its execution levels. -/
theorem shows_of_mirrored {side : BookSide} {levels : List PriceLevel}
    {raw : List RawChecksumLevel} {depth : Int} (isSigned : depth = signedDepth)
    (mirrored : MirroredSide side levels raw) : ShowsExecution depth raw levels := by
  intro present
  obtain ⟨_, shown⟩ := mirrored present
  rw [shown, isSigned, ← List.map_take, List.map_map]
  simp only [trim, signedDepth, textDecimals]
  refine List.map_congr_left ?_
  intro level _
  rw [level.readsPrice, level.readsQuantity]
  rfl

theorem fresh_mirrored (venue : SigningVenue) (symbol : String) :
    MirroredBook (freshBook venue.name symbol) := by
  cases venue <;> exact ⟨rfl, fun present => absurd rfl present, fun present => absurd rfl present⟩

/-- One recorded update keeps the stored book mirrored. -/
theorem record_runtime_mirrored {venue : SigningVenue} {symbol : String} {runtime : LocalL2Runtime}
    {update : LocalL2Update} (nowMs : Int) (mirrored : MirroredBook (venue.book symbol runtime))
    (produced : Produced venue symbol update)
    (keeps : Admitted (venue.book symbol runtime) update nowMs →
      StepKeepsMirror (venue.book symbol runtime) update) :
    MirroredBook (venue.book symbol (runtime.recordUpdateResult update nowMs).1) := by
  obtain ⟨sameVenue, sameSymbol, signed⟩ := produced_signed produced
  unfold SigningVenue.book at mirrored keeps ⊢
  rw [← sameVenue, ← sameSymbol] at mirrored keeps ⊢
  exact mirrored_of_keeps (record_mirrored nowMs mirrored signed keeps)
    (recorded_book_keeps runtime update nowMs)

/-- The mirror is carried through a run whose steps all keep it. -/
theorem mirrors_of_mirrored {venue : SigningVenue} {symbol : String}
    (updates : List (LocalL2Update × Int)) {runtime : LocalL2Runtime}
    (mirrored : MirroredBook (venue.book symbol runtime))
    (produced : ∀ update ∈ updates, Produced venue symbol update.1)
    (keeps : KeepsMirrorThroughout venue symbol runtime updates) :
    MirrorsThroughout venue symbol runtime updates := by
  induction updates generalizing runtime with
  | nil => trivial
  | cons step rest ih =>
    obtain ⟨update, nowMs⟩ := step
    obtain ⟨keepsNow, keepsRest⟩ := keeps
    have next := record_runtime_mirrored nowMs mirrored (produced _ List.mem_cons_self) keepsNow
    constructor
    · intro _
      exact ⟨shows_of_mirrored next.depth next.bids, shows_of_mirrored next.depth next.asks⟩
    · exact ih next
        (fun other member => produced other (List.mem_cons_of_mem _ member)) keepsRest

/-- From a fresh book, the texts of a signing venue show its execution book
throughout every run whose admitted updates all keep the mirror. -/
theorem checksum_book_mirrors (venue : SigningVenue) (symbol : String) (runtime : LocalL2Runtime)
    (updates : List (LocalL2Update × Int)) (fresh : runtime.getBook venue.name symbol = none)
    (produced : ∀ update ∈ updates, Produced venue symbol update.1)
    (keeps : KeepsMirrorThroughout venue symbol runtime updates) :
    MirrorsThroughout venue symbol runtime updates := by
  apply mirrors_of_mirrored updates ?_ produced keeps
  rw [SigningVenue.book, LocalL2Runtime.ensureBook, fresh]
  exact fresh_mirrored venue symbol

/-- A wire level of two texts. -/
def wireTexts (level : String × String) : DynValue := .list [.str level.1, .str level.2]

theorem wire_texts_decimal {level : String × String} (price quantity : ℚ)
    (readsPrice : DecimalText.decimal level.1 = some price)
    (readsQuantity : DecimalText.decimal level.2 = some quantity) (positive : 0 < price) :
    DecimalLevel (wireTexts level) :=
  ⟨.str level.1, .str level.2, price, quantity, rfl, rfl,
    ⟨DecimalText.decimal_iff.mp readsPrice, readsPrice⟩,
    ⟨DecimalText.decimal_iff.mp readsQuantity, readsQuantity⟩, positive⟩

/-- An OKX payload with these bid and ask texts. -/
def okxPayload (action : String) (bids asks : List (String × String)) (sequence previous : Int) :
    DynValue :=
  .dict [("action", .str action), ("data", .list [.dict [("bids", .list (bids.map wireTexts)),
    ("asks", .list (asks.map wireTexts)), ("seqId", .int sequence),
    ("prevSeqId", .int previous)]])]

/-- What the parser makes of that payload. -/
def okxUpdate (kind : LocalL2UpdateKind) (bids asks : List (String × String))
    (sequence previous : Int) : LocalL2Update :=
  { venue := "okx", symbol := "BTC-USDT-SWAP", bids := strippedLevels bids
    asks := strippedLevels asks, sequence := sequence, previousSequence := previous
    previousSequencePresent := true, rawBids := bids, rawAsks := asks, eventTimeMs := 1
    receivedAtMs := 1, updateKind := kind }

/-- Two bids and one ask. -/
def okxSnapshot : LocalL2Update :=
  okxUpdate .snapshot [("100", "1"), ("99", "2")] [("101", "1")] 1 0

/-- The best bid gets this quantity. -/
def okxBestBid (quantity : String) : LocalL2Update := okxUpdate .delta [("100", quantity)] [] 2 1

theorem okx_snapshot_produced : Produced .okx "BTC-USDT-SWAP" okxSnapshot := by
  refine ⟨okxPayload "snapshot" [("100", "1"), ("99", "2")] [("101", "1")] 1 0,
    "BTC-USDT-SWAP", 1, by decide +kernel, rfl, ?_⟩
  rintro bids asks ⟨⟩ level member
  simp only [List.map_cons, List.map_nil, List.cons_append, List.nil_append, List.mem_cons,
    List.not_mem_nil, or_false] at member
  rcases member with rfl | rfl | rfl
  · exact wire_texts_decimal 100 1 (by decide +kernel) (by decide +kernel) (by decide +kernel)
  · exact wire_texts_decimal 99 2 (by decide +kernel) (by decide +kernel) (by decide +kernel)
  · exact wire_texts_decimal 101 1 (by decide +kernel) (by decide +kernel) (by decide +kernel)

theorem okx_best_bid_produced {text : String} (quantity : ℚ)
    (reads : DecimalText.decimal text = some quantity)
    (parsed : parseOkxL2Update (okxPayload "update" [("100", text)] [] 2 1) "BTC-USDT-SWAP" 1 =
      some (okxBestBid text)) : Produced .okx "BTC-USDT-SWAP" (okxBestBid text) := by
  refine ⟨okxPayload "update" [("100", text)] [] 2 1, "BTC-USDT-SWAP", 1, parsed, rfl, ?_⟩
  rintro bids asks ⟨⟩ level member
  simp only [List.map_cons, List.map_nil, List.append_nil, List.mem_cons, List.not_mem_nil,
    or_false] at member
  subst member
  have readsPrice : DecimalText.decimal "100" = some 100 := by decide +kernel
  exact wire_texts_decimal 100 quantity readsPrice reads (by decide +kernel)

theorem checksum_book_mirrors_resized :
    MirrorsThroughout .okx "BTC-USDT-SWAP" {} [(okxSnapshot, 1), (okxBestBid "3", 2)] := by
  refine checksum_book_mirrors .okx "BTC-USDT-SWAP" {} _ rfl ?_ ?_
  · intro update member
    simp only [List.mem_cons, List.not_mem_nil, or_false] at member
    rcases member with rfl | rfl
    · exact okx_snapshot_produced
    · exact okx_best_bid_produced 3 (by decide +kernel) (by decide +kernel)
  · exact ⟨fun _ => by decide +kernel, fun _ => by decide +kernel, trivial⟩

/-- A deletion of the best bid reaches the texts but not the execution book. -/
theorem checksum_book_keeps_deleted :
    ¬ ∀ (venue : SigningVenue) (symbol : String) (runtime : LocalL2Runtime)
      (updates : List (LocalL2Update × Int)), runtime.getBook venue.name symbol = none →
      (∀ update ∈ updates, Produced venue symbol update.1) →
      MirrorsThroughout venue symbol runtime updates := by
  intro mirrors
  have run := mirrors .okx "BTC-USDT-SWAP" {} [(okxSnapshot, 1), (okxBestBid "0", 2)] rfl (by
    intro update member
    simp only [List.mem_cons, List.not_mem_nil, or_false] at member
    rcases member with rfl | rfl
    · exact okx_snapshot_produced
    · exact okx_best_bid_produced 0 (by decide +kernel) (by decide +kernel))
  have shown := (run.2.1 ⟨by decide +kernel, by decide +kernel⟩).1 (by decide +kernel)
  exact absurd shown (by decide +kernel)

end LightFee.MarketData
