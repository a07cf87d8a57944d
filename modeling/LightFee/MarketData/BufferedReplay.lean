import LightFee.MarketData.LocalL2DataPlane

/-!
# Continuity of buffered replay

A replay that reports success should apply a chain of updates in which each one
continues the one before it. Every update with a previous link is checked; an
update without one is applied wherever it starts. The chain is therefore
unbroken exactly when no unlinked update jumps ahead of the book, which is what
the live path checks for.
-/

namespace LightFee.MarketData

/-- The update continues a book at this sequence: by its link or by its id range. -/
def Continues (previous : Int) (update : LocalL2Update) : Prop :=
  (hasLink update ∧ update.previousSequence = previous) ∨
    (rangeStart update ≤ previous + 1 ∧ previous + 1 ≤ update.sequence) ∨
    (rangeStart update ≤ previous ∧ previous ≤ update.sequence)

instance (previous : Int) (update : LocalL2Update) : Decidable (Continues previous update) :=
  inferInstanceAs (Decidable (_ ∨ _))

/-- Each update continues the one applied before it. -/
def ContinuousFrom (previous : Int) : List LocalL2Update → Prop
  | [] => True
  | update :: rest => Continues previous update ∧ ContinuousFrom update.sequence rest

instance (previous : Int) (updates : List LocalL2Update) :
    Decidable (ContinuousFrom previous updates) :=
  match updates with
  | [] => .isTrue trivial
  | update :: rest =>
    have : Decidable (ContinuousFrom update.sequence rest) :=
      instDecidableContinuousFrom update.sequence rest
    inferInstanceAs (Decidable (_ ∧ _))

/-- A linked update from behind the book that names no first id: the book ignores
it as stale once the snapshot's overlap allowance is used up. -/
def ignoredAsStale (snapshot previous : Int) (update : LocalL2Update) : Bool :=
  snapshot < previous ∧ update.firstSequence ≤ 0 ∧ 0 < update.previousSequence ∧
    update.previousSequence < previous ∧ update.sequence ≠ previous + 1

/-- No update without a previous link starts beyond the next id of the book. -/
def NoUnlinkedJump (snapshot : Int) : Int → List BufferedUpdate → Prop
  | _, [] => True
  | previous, buffered :: rest =>
    let update := buffered.update
    if update.sequence ≤ previous ∨ ignoredAsStale snapshot previous update then
      NoUnlinkedJump snapshot previous rest
    else
      (0 < update.previousSequence ∨ rangeStart update ≤ previous + 1) ∧
        NoUnlinkedJump snapshot update.sequence rest

/-- A delta of the replayed book. -/
def IsDeltaFor (key : LocalL2BookKey) (update : LocalL2Update) : Prop :=
  update.venue = key.venue ∧ update.symbol = key.symbol ∧ update.updateKind = .delta

instance (key : LocalL2BookKey) (update : LocalL2Update) : Decidable (IsDeltaFor key update) :=
  inferInstanceAs (Decidable (_ ∧ _))

/-- A REST snapshot at this sequence was just accepted. -/
structure JustLoaded (plane : LocalL2DataPlane) (key : LocalL2BookKey) (sequence : Int) : Prop where
  positive : 0 < sequence
  exists_book : ∃ book, plane.runtime.getBook key.venue key.symbol = some book ∧
    book.sequence = sequence
  armed : plane.overlapMarker key = some sequence

/-! ## One recorded delta of a range venue -/

/-- Range venues have no preflight and no checksum: the book's verdict stands. -/
theorem record_range_venue (book : LocalL2Book) (update : LocalL2Update) (nowMs : Int)
    (range : rangeVenue update.venue = true) :
    (recordOnBook book update nowMs).result = (applyUpdate book update nowMs).2 ∧
      ((applyUpdate book update nowMs).2.rebuildRequired = false →
        (recordOnBook book update nowMs).failure = none ∧
        (recordOnBook book update nowMs).book.sequence =
          (applyUpdate book update nowMs).1.sequence) := by
  have known : update.venue = "binance" ∨ update.venue = "aster" ∨ update.venue = "gate" := by
    simpa [rangeVenue] using range
  have noPreflight : preflightVenueUpdate book update = none := by
    rcases known with same | same | same <;> simp [preflightVenueUpdate, same]
  have noChecksum : (getVenueRules update.venue).shouldVerifyChecksum = false := by
    rcases known with same | same | same <;> rw [same] <;> rfl
  have notBitget : update.venue ≠ "bitget" := by
    rcases known with same | same | same <;> rw [same] <;> decide
  have sequenceKept (start : LocalL2Book) :
      (updateRawChecksumBook start update).sequence = start.sequence := by
    unfold updateRawChecksumBook LocalL2Book.applyRawChecksumUpdate
    split_ifs <;> rfl
  constructor
  · simp [recordOnBook, noPreflight, recordAdmitted, verifyVenueChecksum, noChecksum,
      reportRebuild]
    split_ifs <;> rfl
  · intro calm
    simp [recordOnBook, noPreflight, recordAdmitted, verifyVenueChecksum, noChecksum,
      reportRebuild, armSnapshotBridge, notBitget, withTexts, calm]
    split_ifs <;> simp [sequenceKept]

/-- A forward delta with an acceptable link is applied or asks for a rebuild. -/
theorem delta_forward (book : LocalL2Book) (update : LocalL2Update) (nowMs : Int)
    (delta : update.updateKind = .delta) (forward : book.sequence < update.sequence)
    (linked : runtimePreviousSequence book update = book.sequence ∨
      runtimePreviousSequence book update ≤ 0) :
    (applyUpdate book update nowMs).2.rebuildRequired = true ∨
      ((applyUpdate book update nowMs).2.rebuildRequired = false ∧
        (applyUpdate book update nowMs).2.applied = true ∧
        (applyUpdate book update nowMs).1.sequence = update.sequence) := by
  have isDelta : applyUpdate book update nowMs = book.applyDelta update.bids update.asks
      update.sequence (runtimePreviousSequence book update) (effectiveTimeMs update nowMs) := by
    simp [applyUpdate, delta]
  have admitted := admit_forward (effectiveTimeMs update nowMs) forward linked
  rw [isDelta]
  rcases apply_delta_cases book update.bids update.asks update.sequence
      (runtimePreviousSequence book update) (effectiveTimeMs update nowMs) 0 with
    ⟨refused, verdict, _⟩ | ⟨_, _, _, _, rebuild⟩ | ⟨_, _, next, applied, calm⟩
  · rw [admitted] at verdict
    cases verdict
  · exact Or.inl rebuild
  · refine Or.inr ⟨calm, applied, ?_⟩
    rw [next]
    rfl

/-- A forward delta with a link from behind the book is ignored. -/
theorem delta_stale (book : LocalL2Book) (update : LocalL2Update) (nowMs : Int)
    (delta : update.updateKind = .delta) (forward : book.sequence < update.sequence)
    (linked : 0 < runtimePreviousSequence book update)
    (older : runtimePreviousSequence book update < book.sequence) :
    (applyUpdate book update nowMs).1 = book ∧
      (applyUpdate book update nowMs).2.applied = false ∧
      (applyUpdate book update nowMs).2.rebuildRequired = false := by
  have refused := admit_stale_link (effectiveTimeMs update nowMs) forward linked older
  simp [applyUpdate, delta, LocalL2Book.applyDelta, refused]

/-! ## One step of the replay loop -/

/-- Where the loop stands: the book's sequence is the last applied one, and the
overlap marker is armed until the first update is applied. -/
structure ReplayInvariant (key : LocalL2BookKey) (snapshot : Int) (state : ReplayState) : Prop where
  positive : 0 < snapshot
  reached : snapshot ≤ state.previousSequence
  exists_book : ∃ book, state.plane.runtime.getBook key.venue key.symbol = some book ∧
    book.sequence = state.previousSequence
  marker : state.plane.overlapMarker key =
    if state.previousSequence = snapshot then some snapshot else none

/-- What an accepted step does with the update it saw. -/
inductive StepEffect (key : LocalL2BookKey) (snapshot : Int) (state next : ReplayState)
    (update : LocalL2Update) : Prop
  | skipped (same : next.previousSequence = state.previousSequence)
      (kept : next.applied = state.applied)
      (skip : update.sequence ≤ state.previousSequence ∨
        ignoredAsStale snapshot state.previousSequence update)
      (invariant : ReplayInvariant key snapshot next)
  | advanced (moved : next.previousSequence = update.sequence)
      (grown : next.applied = state.applied ++ [update])
      (ahead : state.previousSequence < update.sequence)
      (seen : ignoredAsStale snapshot state.previousSequence update = false)
      (continues : Continues state.previousSequence update ↔
        0 < update.previousSequence ∨ rangeStart update ≤ state.previousSequence + 1)
      (invariant : ReplayInvariant key snapshot next)

/-- Recording a forward update with an acceptable link moves the loop onto it. -/
theorem record_replayed_forward {key : LocalL2BookKey} {snapshot : Int} {state next : ReplayState}
    {buffered : BufferedUpdate} {book : LocalL2Book} (range : rangeVenue key.venue = true)
    (replay : LocalL2Update) (target : IsDeltaFor key replay)
    (invariant : ReplayInvariant key snapshot state)
    (stored : state.plane.runtime.getBook key.venue key.symbol = some book)
    (current : book.sequence = state.previousSequence)
    (ahead : state.previousSequence < replay.sequence)
    (linked : runtimePreviousSequence book replay = book.sequence ∨
      runtimePreviousSequence book replay ≤ 0)
    (accepted : recordReplayed state buffered replay true key = .next next) :
    next.previousSequence = replay.sequence ∧ next.applied = state.applied ++ [buffered.update] ∧
      ReplayInvariant key snapshot next := by
  obtain ⟨sameVenue, sameSymbol, isDelta⟩ := target
  have ensured : state.plane.runtime.ensureBook replay.venue replay.symbol = book := by
    simp [LocalL2Runtime.ensureBook, sameVenue, sameSymbol, stored]
  have recorded := record_range_venue book replay buffered.observedAtMs (sameVenue ▸ range)
  rcases delta_forward book replay buffered.observedAtMs isDelta (current ▸ ahead) linked with
    rebuild | ⟨calm, applied, moved⟩
  · simp [recordReplayed, LocalL2Runtime.recordUpdateResult, ensured, recorded.1] at accepted
    split at accepted <;> simp [rebuild] at accepted
  · obtain ⟨noFailure, sequence⟩ := recorded.2 calm
    simp only [recordReplayed, LocalL2Runtime.recordUpdateResult, ensured, noFailure, recorded.1,
      calm, applied, if_true, ReplayStep.next.injEq, Bool.false_eq_true, if_false] at accepted
    subst accepted
    refine ⟨rfl, rfl, ⟨invariant.positive, ?_, ?_, ?_⟩⟩
    · have reached := invariant.reached
      exact le_of_lt (lt_of_le_of_lt reached ahead)
    · refine ⟨_, ?_, sequence.trans moved⟩
      rw [sameVenue, sameSymbol]
      exact get_put_book _ _ _ _
    · have passed : replay.sequence ≠ snapshot := by
        have reached := invariant.reached
        omega
      simp [passed, LocalL2DataPlane.overlapMarker, LocalL2DataPlane.popOverlapMarker]

/-- Recording an update that the book ignores leaves the loop where it stands. -/
theorem record_replayed_stale {key : LocalL2BookKey} {snapshot : Int} {state next : ReplayState}
    {buffered : BufferedUpdate} {book : LocalL2Book} (range : rangeVenue key.venue = true)
    (replay : LocalL2Update) (target : IsDeltaFor key replay)
    (invariant : ReplayInvariant key snapshot state)
    (stored : state.plane.runtime.getBook key.venue key.symbol = some book)
    (current : book.sequence = state.previousSequence)
    (ahead : state.previousSequence < replay.sequence)
    (linked : 0 < runtimePreviousSequence book replay)
    (older : runtimePreviousSequence book replay < book.sequence)
    (accepted : recordReplayed state buffered replay true key = .next next) :
    next.previousSequence = state.previousSequence ∧ next.applied = state.applied ∧
      ReplayInvariant key snapshot next := by
  obtain ⟨sameVenue, sameSymbol, isDelta⟩ := target
  have ensured : state.plane.runtime.ensureBook replay.venue replay.symbol = book := by
    simp [LocalL2Runtime.ensureBook, sameVenue, sameSymbol, stored]
  have recorded := record_range_venue book replay buffered.observedAtMs (sameVenue ▸ range)
  obtain ⟨same, notApplied, calm⟩ :=
    delta_stale book replay buffered.observedAtMs isDelta (current ▸ ahead) linked older
  obtain ⟨noFailure, sequence⟩ := recorded.2 calm
  simp only [recordReplayed, LocalL2Runtime.recordUpdateResult, ensured, noFailure, recorded.1,
    calm, notApplied, ReplayStep.next.injEq, Bool.false_eq_true, if_false] at accepted
  subst accepted
  refine ⟨rfl, rfl, ⟨invariant.positive, invariant.reached, ?_, invariant.marker⟩⟩
  refine ⟨_, ?_, (sequence.trans (congrArg LocalL2Book.sequence same)).trans current⟩
  rw [sameVenue, sameSymbol]
  exact get_put_book _ _ _ _

/-- Under the invariant the boundary normalization only rewrites the update, and
only while the marker is armed. -/
theorem normalize_state {key : LocalL2BookKey} {snapshot : Int} {state : ReplayState}
    {update : LocalL2Update} (target : IsDeltaFor key update)
    (invariant : ReplayInvariant key snapshot state) :
    state.plane.normalizeInitialSnapshotOverlap update =
      (state.plane, if state.previousSequence = snapshot then
        normalizeOverlap state.previousSequence update else update) := by
  obtain ⟨sameVenue, sameSymbol, _⟩ := target
  obtain ⟨book, stored, current⟩ := invariant.exists_book
  have sameKey : (⟨update.venue, update.symbol⟩ : LocalL2BookKey) = key := by
    rw [sameVenue, sameSymbol]
  have sequence : (state.plane.book key).sequence = state.previousSequence := by
    simp [LocalL2DataPlane.book, LocalL2Runtime.ensureBook, stored, current]
  unfold LocalL2DataPlane.normalizeInitialSnapshotOverlap
  by_cases armed : state.previousSequence = snapshot
  · simp [sameKey, invariant.marker, armed, sequence]
  · simp [sameKey, invariant.marker, armed]

/-- A forward delta is left alone, or it overlaps the armed snapshot and is linked
to it. -/
theorem normalize_overlap_cases {previous : Int} {update : LocalL2Update}
    (delta : update.updateKind = .delta) (ahead : previous < update.sequence) :
    (normalizeOverlap previous update = update ∧
      ¬ (hasLink update ∧ update.previousSequence ≠ previous ∧
        sequenceRangeOverlapsExpected (if update.firstSequence ≤ 0 then update.previousSequence + 1
          else update.firstSequence) update.sequence (previous + 1))) ∨
      (normalizeOverlap previous update =
          { update with previousSequence := previous, previousSequencePresent := true } ∧
        hasLink update ∧ update.previousSequence ≠ previous ∧
        sequenceRangeOverlapsExpected (if update.firstSequence ≤ 0 then update.previousSequence + 1
          else update.firstSequence) update.sequence (previous + 1)) := by
  have notCovered : ¬ update.sequence ≤ previous := not_le.mpr ahead
  by_cases link : hasLink update
  · by_cases same : update.previousSequence = previous
    · exact Or.inl ⟨by simp [normalizeOverlap, same], fun all => all.2.1 same⟩
    · by_cases overlaps : sequenceRangeOverlapsExpected (if update.firstSequence ≤ 0 then
          update.previousSequence + 1 else update.firstSequence) update.sequence (previous + 1)
      · exact Or.inr ⟨by simp [normalizeOverlap, delta, notCovered, link, same, overlaps], link,
          same, overlaps⟩
      · exact Or.inl ⟨by simp [normalizeOverlap, overlaps], fun all => overlaps all.2.2⟩
  · exact Or.inl ⟨by simp [normalizeOverlap, link], fun all => link all.1⟩

/-- For an update without a link, continuing the book means not starting beyond
its next id. -/
theorem continues_unlinked {previous : Int} {update : LocalL2Update} (positive : 0 < previous)
    (ahead : previous < update.sequence) (unlinked : update.previousSequence ≤ 0) :
    Continues previous update ↔ 0 < update.previousSequence ∨ rangeStart update ≤ previous + 1 := by
  constructor
  · rintro (⟨_, same⟩ | ⟨starts, _⟩ | ⟨starts, _⟩)
    · omega
    · exact Or.inr starts
    · exact Or.inr (by omega)
  · rintro (linked | starts)
    · omega
    · exact Or.inr (Or.inl ⟨starts, by omega⟩)

theorem overlaps_iff (first sequence expected : Int) :
    sequenceRangeOverlapsExpected first sequence expected = true ↔
      0 < first ∧ 0 < sequence ∧ first ≤ expected ∧ expected ≤ sequence := by
  simp [sequenceRangeOverlapsExpected]

theorem runtime_previous_cases (book : LocalL2Book) (update : LocalL2Update) :
    runtimePreviousSequence book update = book.sequence ∨
      runtimePreviousSequence book update = update.previousSequence := by
  simp only [runtimePreviousSequence]
  split_ifs <;> simp

/-- A step that neither fails nor finds the update covered recorded it, linked or
with an accepted overlap. -/
theorem replay_ranged_recorded {context : ReplayContext} {snapshot : Int} {atStart : Bool}
    {state next : ReplayState} {buffered : BufferedUpdate} {replay : LocalL2Update}
    (target : IsDeltaFor context.key buffered.update)
    (invariant : ReplayInvariant context.key snapshot state)
    (rewritten : (if state.previousSequence = snapshot then
      normalizeOverlap state.previousSequence buffered.update else buffered.update) = replay)
    (ahead : state.previousSequence < replay.sequence)
    (accepted : replayRanged context atStart state buffered = .next next) :
    recordReplayed state buffered replay true context.key = .next next ∧
      (0 < replay.previousSequence → replay.previousSequence = state.previousSequence ∨
        ((policyForVenue context.key.venue).allowsOverlappingPreviousLink = true ∧
          sequenceRangeOverlapsExpected (rangeStart replay) replay.sequence
            (state.previousSequence + 1) = true)) := by
  have notCovered : ¬ replay.sequence ≤ state.previousSequence := not_le.mpr ahead
  simp only [replayRanged, normalize_state target invariant, rewritten, notCovered, if_false]
    at accepted
  split_ifs at accepted with mismatch boundary
  refine ⟨accepted, ?_⟩
  intro linked
  by_contra neither
  rw [not_or] at neither
  apply mismatch
  have link : hasLink replay = true := by simp [hasLink, linked]
  refine ⟨by simp [link, linked], neither.1, ?_⟩
  simpa [imp_iff_not_or] using neither.2

/-- The delta that the marker links to the snapshot advances the loop. -/
theorem effect_of_armed {context : ReplayContext} {snapshot : Int} {state next : ReplayState}
    {buffered : BufferedUpdate} {book : LocalL2Book}
    (range : rangeVenue context.key.venue = true) (target : IsDeltaFor context.key buffered.update)
    (invariant : ReplayInvariant context.key snapshot state)
    (stored : state.plane.runtime.getBook context.key.venue context.key.symbol = some book)
    (current : book.sequence = state.previousSequence)
    (armed : state.previousSequence = snapshot)
    (ahead : state.previousSequence < buffered.update.sequence)
    (overlaps : sequenceRangeOverlapsExpected (if buffered.update.firstSequence ≤ 0 then
      buffered.update.previousSequence + 1 else buffered.update.firstSequence)
      buffered.update.sequence (state.previousSequence + 1))
    (recorded : recordReplayed state buffered { buffered.update with
      previousSequence := state.previousSequence, previousSequencePresent := true } true
      context.key = .next next) :
    StepEffect context.key snapshot state next buffered.update := by
  have positive := invariant.positive
  have linked := runtime_previous_cases book { buffered.update with
    previousSequence := state.previousSequence, previousSequencePresent := true }
  have forward : runtimePreviousSequence book { buffered.update with
      previousSequence := state.previousSequence, previousSequencePresent := true }
        = book.sequence := by
    rcases linked with same | same
    · exact same
    · exact same.trans current.symm
  obtain ⟨moved, grown, nextInvariant⟩ := record_replayed_forward range
    { buffered.update with
      previousSequence := state.previousSequence, previousSequencePresent := true }
    target invariant stored current ahead (Or.inl forward) recorded
  rw [overlaps_iff] at overlaps
  refine .advanced moved grown ahead ?_ ?_ nextInvariant
  · simp [ignoredAsStale, armed]
  · by_cases unlinked : buffered.update.previousSequence ≤ 0
    · exact continues_unlinked (by omega) ahead unlinked
    · have starts : rangeStart buffered.update ≤ state.previousSequence + 1 := by
        unfold rangeStart
        split_ifs at overlaps ⊢ <;> omega
      exact iff_of_true (Or.inr (Or.inl ⟨starts, by omega⟩)) (Or.inr starts)

/-- An update that the marker leaves alone advances the loop, unless it is an
accepted overlap that the book ignores as stale. -/
theorem effect_of_plain {context : ReplayContext} {snapshot : Int} {state next : ReplayState}
    {buffered : BufferedUpdate} {book : LocalL2Book}
    (range : rangeVenue context.key.venue = true) (target : IsDeltaFor context.key buffered.update)
    (invariant : ReplayInvariant context.key snapshot state)
    (stored : state.plane.runtime.getBook context.key.venue context.key.symbol = some book)
    (current : book.sequence = state.previousSequence)
    (ahead : state.previousSequence < buffered.update.sequence)
    (plain : state.previousSequence = snapshot → ¬ (hasLink buffered.update ∧
      buffered.update.previousSequence ≠ state.previousSequence ∧
      sequenceRangeOverlapsExpected (if buffered.update.firstSequence ≤ 0 then
        buffered.update.previousSequence + 1 else buffered.update.firstSequence)
        buffered.update.sequence (state.previousSequence + 1)))
    (recorded : recordReplayed state buffered buffered.update true context.key = .next next)
    (linkedOr : 0 < buffered.update.previousSequence →
      buffered.update.previousSequence = state.previousSequence ∨
        ((policyForVenue context.key.venue).allowsOverlappingPreviousLink = true ∧
          sequenceRangeOverlapsExpected (rangeStart buffered.update) buffered.update.sequence
            (state.previousSequence + 1) = true)) :
    StepEffect context.key snapshot state next buffered.update := by
  have positive := invariant.positive
  have reached := invariant.reached
  have runtimeLink := runtime_previous_cases book buffered.update
  have advance (linked : runtimePreviousSequence book buffered.update = book.sequence ∨
      runtimePreviousSequence book buffered.update ≤ 0)
      (seen : ignoredAsStale snapshot state.previousSequence buffered.update = false)
      (continues : Continues state.previousSequence buffered.update ↔
        0 < buffered.update.previousSequence ∨
          rangeStart buffered.update ≤ state.previousSequence + 1) :
      StepEffect context.key snapshot state next buffered.update := by
    obtain ⟨moved, grown, nextInvariant⟩ :=
      record_replayed_forward range _ target invariant stored current ahead linked recorded
    exact .advanced moved grown ahead seen continues nextInvariant
  by_cases unlinked : buffered.update.previousSequence ≤ 0
  · apply advance
    · rcases runtimeLink with same | same
      · exact Or.inl same
      · exact Or.inr (same ▸ unlinked)
    · simp [ignoredAsStale, unlinked]
    · exact continues_unlinked (by omega) ahead unlinked
  · have linked : 0 < buffered.update.previousSequence := not_le.mp unlinked
    have link : hasLink buffered.update = true := by simp [hasLink, linked]
    by_cases same : buffered.update.previousSequence = state.previousSequence
    · apply advance
      · rcases runtimeLink with kept | kept
        · exact Or.inl kept
        · exact Or.inl (by rw [kept, same, current])
      · simp [ignoredAsStale, same]
      · exact iff_of_true (Or.inl ⟨link, same⟩) (Or.inl linked)
    · obtain ⟨allows, overlaps⟩ := (linkedOr linked).resolve_left same
      rw [overlaps_iff] at overlaps
      have continues : Continues state.previousSequence buffered.update :=
        Or.inr (Or.inl ⟨overlaps.2.2.1, overlaps.2.2.2⟩)
      have relinked (reaches : (if 0 < buffered.update.firstSequence then
          buffered.update.firstSequence else buffered.update.sequence)
            ≤ state.previousSequence + 1) :
          runtimePreviousSequence book buffered.update = book.sequence := by
        have runtimeOverlaps : sequenceRangeOverlapsExpected
            (if 0 < buffered.update.firstSequence then buffered.update.firstSequence
              else buffered.update.sequence) buffered.update.sequence (book.sequence + 1) := by
          rw [overlaps_iff, current]
          split_ifs at reaches ⊢ <;> omega
        have bookPositive : 0 < book.sequence := by omega
        simp [runtimePreviousSequence, target.1, allows, bookPositive, current ▸ same,
          runtimeOverlaps]
      by_cases named : 0 < buffered.update.firstSequence
      · apply advance
        · have starts : rangeStart buffered.update = buffered.update.firstSequence := by
            simp [rangeStart, named]
          exact Or.inl (relinked (by rw [if_pos named, ← starts]; exact overlaps.2.2.1))
        · simp [ignoredAsStale, named]
        · exact iff_of_true continues (Or.inl linked)
      · have starts : rangeStart buffered.update = buffered.update.previousSequence + 1 := by
          simp [rangeStart, named, linked]
        by_cases adjacent : buffered.update.sequence = state.previousSequence + 1
        · apply advance
          · exact Or.inl (relinked (by rw [if_neg named, adjacent]))
          · simp [ignoredAsStale, adjacent]
          · exact iff_of_true continues (Or.inl linked)
        · have behind : buffered.update.previousSequence < state.previousSequence := by omega
          have kept : runtimePreviousSequence book buffered.update =
              buffered.update.previousSequence := by
            have noOverlap : sequenceRangeOverlapsExpected buffered.update.sequence
                buffered.update.sequence (book.sequence + 1) = false := by
              rw [Bool.eq_false_iff, ne_eq, overlaps_iff, current]
              omega
            simp [runtimePreviousSequence, named, noOverlap]
          obtain ⟨stays, unchanged, nextInvariant⟩ := record_replayed_stale range _ target invariant
            stored current ahead (by rw [kept]; exact linked) (by rw [kept, current]; exact behind)
            recorded
          have disarmed : snapshot < state.previousSequence := by
            by_contra early
            have armed : state.previousSequence = snapshot := by omega
            refine plain armed ⟨link, same, ?_⟩
            rw [if_pos (not_lt.mp named), overlaps_iff]
            omega
          have ignored : ignoredAsStale snapshot state.previousSequence buffered.update := by
            simp [ignoredAsStale, disarmed, not_lt.mp named, linked, behind, adjacent]
          exact .skipped stays unchanged (Or.inr ignored) nextInvariant

/-- A replay step that does not fail skips the update or advances onto it. -/
theorem replay_ranged_effect {context : ReplayContext} {snapshot : Int} {atStart : Bool}
    {state next : ReplayState} {buffered : BufferedUpdate}
    (range : rangeVenue context.key.venue = true) (target : IsDeltaFor context.key buffered.update)
    (invariant : ReplayInvariant context.key snapshot state)
    (accepted : replayRanged context atStart state buffered = .next next) :
    StepEffect context.key snapshot state next buffered.update := by
  obtain ⟨book, stored, current⟩ := invariant.exists_book
  by_cases covered : buffered.update.sequence ≤ state.previousSequence
  · have sameSequence : (if state.previousSequence = snapshot then
        normalizeOverlap state.previousSequence buffered.update else buffered.update).sequence =
          buffered.update.sequence := by
      split_ifs <;> simp [normalizeOverlap, covered]
    simp only [replayRanged, normalize_state target invariant, sameSequence, covered, if_true,
      ReplayStep.next.injEq] at accepted
    subst accepted
    exact .skipped rfl rfl (Or.inl covered) ⟨invariant.positive, invariant.reached,
      invariant.exists_book, invariant.marker⟩
  · have ahead : state.previousSequence < buffered.update.sequence := not_le.mp covered
    by_cases armed : state.previousSequence = snapshot
    · rcases normalize_overlap_cases target.2.2 ahead with ⟨plain, unmet⟩ |
        ⟨rewritten, _, _, overlaps⟩
      · obtain ⟨recorded, linkedOr⟩ := replay_ranged_recorded target invariant
          ((if_pos armed).trans plain) ahead accepted
        exact effect_of_plain range target invariant stored current ahead (fun _ => unmet)
          recorded linkedOr
      · obtain ⟨recorded, _⟩ := replay_ranged_recorded target invariant
          ((if_pos armed).trans rewritten) ahead accepted
        exact effect_of_armed range target invariant stored current armed ahead overlaps recorded
    · obtain ⟨recorded, linkedOr⟩ := replay_ranged_recorded target invariant (if_neg armed) ahead
        accepted
      exact effect_of_plain range target invariant stored current ahead
        (fun same => absurd same armed) recorded linkedOr

/-! ## The whole replay -/

/-- The loop extends the applied list by a tail that is a chain exactly when the
window holds no unlinked jump. -/
theorem replay_loop_continues {context : ReplayContext} {snapshot : Int}
    (range : rangeVenue context.key.venue = true) (window : List BufferedUpdate)
    (targets : ∀ buffered ∈ window, IsDeltaFor context.key buffered.update) (atStart : Bool)
    (index : Int) (state : ReplayState) (invariant : ReplayInvariant context.key snapshot state)
    (ok : (replayLoop context (replayRanged context) atStart index state window).2.ok = true) :
    ∃ tail, (replayLoop context (replayRanged context) atStart index state window).2.applied =
        state.applied ++ tail ∧
      (ContinuousFrom state.previousSequence tail ↔
        NoUnlinkedJump snapshot state.previousSequence window) := by
  induction window generalizing atStart index state with
  | nil => exact ⟨[], by simp [replayLoop], Iff.rfl⟩
  | cons buffered rest ih =>
    have target := targets buffered List.mem_cons_self
    have later : ∀ other ∈ rest, IsDeltaFor context.key other.update :=
      fun other member => targets other (List.mem_cons_of_mem buffered member)
    cases step : replayRanged context atStart state buffered with
    | failed failed reason =>
      simp [replayLoop, step, markRebuildingFromBufferedReplayFailure] at ok
    | next next =>
      simp only [replayLoop, step] at ok ⊢
      cases replay_ranged_effect range target invariant step with
      | skipped same kept skip nextInvariant =>
        obtain ⟨tail, applied, chain⟩ := ih later false (index + 1) next
          nextInvariant ok
        refine ⟨tail, by rw [applied, kept], ?_⟩
        simp only [NoUnlinkedJump, if_pos skip]
        rw [← same]
        exact chain
      | advanced moved grown ahead seen continues nextInvariant =>
        obtain ⟨tail, applied, chain⟩ := ih later false (index + 1) next
          nextInvariant ok
        refine ⟨buffered.update :: tail, by rw [applied, grown, List.append_assoc]; rfl, ?_⟩
        have notSkipped : ¬ (buffered.update.sequence ≤ state.previousSequence ∨
            ignoredAsStale snapshot state.previousSequence buffered.update) := by
          rintro (covered | ignored)
          · omega
          · rw [seen] at ignored
            cases ignored
        simp only [NoUnlinkedJump, if_neg notSkipped, ContinuousFrom]
        rw [continues, ← moved, chain]

/-- The snapshot's acceptance starts the loop in its invariant. -/
theorem replay_start {plane : LocalL2DataPlane} {key : LocalL2BookKey} {sequence : Int}
    (loaded : JustLoaded plane key sequence) :
    ReplayInvariant key sequence
      { plane := plane.takeBuffer key, previousSequence := sequence, applied := [] } := by
  refine ⟨loaded.positive, le_refl sequence, loaded.exists_book, ?_⟩
  rw [if_pos rfl]
  exact loaded.armed

/-- Only range venues are replayed by range. -/
theorem range_venue_policy {venue : String} (range : rangeVenue venue = true) :
    (policyForVenue venue).venue ≠ "okx" := by
  rw [(overlapping_link_venue range).2]
  rintro rfl
  exact absurd range (by decide)

/-- An accepted REST snapshot with a sequence leaves its book just loaded. -/
theorem rest_snapshot_just_loaded (plane : LocalL2DataPlane) (update : LocalL2Update) (nowMs : Int)
    (range : rangeVenue update.venue = true) (snapshot : update.updateKind = .snapshot)
    (positive : 0 < update.sequence)
    (applied : (plane.runtime.recordUpdateResult update nowMs).2.applied = true)
    (calm : (plane.runtime.recordUpdateResult update nowMs).2.rebuildRequired = false) :
    JustLoaded (plane.acceptRestSnapshot update nowMs).1 ⟨update.venue, update.symbol⟩
      update.sequence := by
  have recorded := record_range_venue (plane.runtime.ensureBook update.venue update.symbol) update
    nowMs range
  have sameResult : (plane.runtime.recordUpdateResult update nowMs).2 =
      (applyUpdate (plane.runtime.ensureBook update.venue update.symbol) update nowMs).2 := by
    rw [← recorded.1]
    simp only [LocalL2Runtime.recordUpdateResult]
    split <;> rfl
  rw [sameResult] at applied calm
  obtain ⟨noFailure, sequence⟩ := recorded.2 calm
  have isSnapshot : applyUpdate (plane.runtime.ensureBook update.venue update.symbol) update nowMs =
      (plane.runtime.ensureBook update.venue update.symbol).applySnapshot update.bids update.asks
        update.sequence update.checksum (effectiveTimeMs update nowMs) := by
    simp [applyUpdate, snapshot]
  have loaded := apply_snapshot_applied (isSnapshot ▸ applied)
  have loadedSequence : (recordOnBook (plane.runtime.ensureBook update.venue update.symbol) update
      nowMs).book.sequence = update.sequence := by
    rw [sequence, isSnapshot, loaded]
    rfl
  have replays : (policyForVenue update.venue).replayRestSnapshotWithWsDeltas = true := by
    have known : update.venue = "binance" ∨ update.venue = "aster" ∨ update.venue = "gate" := by
      simpa [rangeVenue] using range
    rcases known with same | same | same <;> rw [same] <;> decide +kernel
  have stored : (plane.runtime.recordUpdateResult update nowMs).1.getBook update.venue
      update.symbol = some (recordOnBook (plane.runtime.ensureBook update.venue update.symbol)
        update nowMs).book := by
    simp only [LocalL2Runtime.recordUpdateResult, noFailure]
    exact get_put_book _ _ _ _
  have bookSequence : ({ plane with
      runtime := (plane.runtime.recordUpdateResult update nowMs).1 }.book
        ⟨update.venue, update.symbol⟩).sequence = update.sequence := by
    rw [LocalL2DataPlane.book, LocalL2Runtime.ensureBook, stored]
    exact loadedSequence
  rw [← sameResult] at applied calm
  have armed : (plane.acceptRestSnapshot update nowMs).1 = { plane with
      runtime := (plane.runtime.recordUpdateResult update nowMs).1
      initialSnapshotOverlapSequences := plane.initialSnapshotOverlapSequences.insert
        ⟨update.venue, update.symbol⟩ update.sequence } := by
    simp [LocalL2DataPlane.acceptRestSnapshot, applied, calm, replays, bookSequence, positive]
  rw [armed]
  exact ⟨positive, ⟨_, stored, loadedSequence⟩, by simp [LocalL2DataPlane.overlapMarker]⟩

/-- A successful replay over a just loaded book applies an unbroken chain exactly
when no unlinked update of its window jumps ahead of the book. -/
theorem replay_continues_iff (plane : LocalL2DataPlane) (key : LocalL2BookKey) (sequence nowMs : Int)
    (range : rangeVenue key.venue = true) (loaded : JustLoaded plane key sequence)
    (deltas : ∀ buffered ∈ plane.currentBuffer key, IsDeltaFor key buffered.update)
    (ok : (plane.replayBufferedUpdates key nowMs).2.ok = true) :
    ContinuousFrom sequence (plane.replayBufferedUpdates key nowMs).2.applied ↔
      NoUnlinkedJump sequence sequence (replayWindow sequence (plane.currentBuffer key)) := by
  obtain ⟨book, stored, current⟩ := loaded.exists_book
  have sameSequence : (plane.book key).sequence = sequence := by
    simp [LocalL2DataPlane.book, LocalL2Runtime.ensureBook, stored, current]
  have targets : ∀ buffered ∈ replayWindow sequence (plane.currentBuffer key),
      IsDeltaFor key buffered.update := by
    intro buffered member
    apply deltas
    exact ((List.dropWhile_sublist _).trans (List.dropWhile_sublist _)).subset member
  by_cases noBuffer : (plane.preSnapshotBuffers.find? key).getD [] = []
  · have noCurrent : plane.currentBuffer key = [] := by
      simp [LocalL2DataPlane.currentBuffer, noBuffer]
    simp [LocalL2DataPlane.replayBufferedUpdates, noBuffer, noCurrent, replayWindow, uncovered,
      NoUnlinkedJump, ContinuousFrom]
  · have start := replay_start loaded
    have notOkx := range_venue_policy range
    simp only [LocalL2DataPlane.replayBufferedUpdates, noBuffer, stored, sameSequence, notOkx,
      reduceCtorEq, or_self, if_false] at ok ⊢
    by_cases noCurrent : plane.currentBuffer key = []
    · simp [noCurrent, replayWindow, uncovered, NoUnlinkedJump, ContinuousFrom]
    · simp only [noCurrent, if_false] at ok ⊢
      cases left : uncovered sequence (plane.currentBuffer key) with
      | nil => simp [replayWindow, left, NoUnlinkedJump, ContinuousFrom]
      | cons first more =>
        simp only [left] at ok ⊢
        by_cases noWindow : replayWindow sequence (plane.currentBuffer key) = []
        · simp [noWindow, markRebuildingFromBufferedReplayFailure] at ok
        · simp only [noWindow, if_false] at ok ⊢
          obtain ⟨tail, applied, chain⟩ := replay_loop_continues range _ targets true _ _ start ok
          rw [applied, List.nil_append]
          exact chain

def gateKey : LocalL2BookKey := ⟨"gate", "BTCUSDT"⟩

def gateSnapshot : LocalL2Update :=
  { venue := "gate", symbol := "BTCUSDT", bids := [⟨10, 1⟩], asks := [⟨11, 1⟩], sequence := 100
    updateKind := .snapshot }

/-- A buffered gate range. -/
def gateDelta (first last : Int) : BufferedUpdate :=
  { generation := 1, observedAtMs := 1
    update := { venue := "gate", symbol := "BTCUSDT", firstSequence := first, sequence := last } }

/-- A gate book just loaded at sequence 100 over these buffered ranges. -/
def gatePlane (buffer : List BufferedUpdate) : LocalL2DataPlane :=
  ({ preSnapshotBuffers := OrderedDict.empty.insert gateKey buffer : LocalL2DataPlane
    }.acceptRestSnapshot gateSnapshot 1).1

theorem gate_just_loaded (buffer : List BufferedUpdate) :
    JustLoaded (gatePlane buffer) gateKey 100 :=
  rest_snapshot_just_loaded _ gateSnapshot 1 (by decide) rfl (by decide)
    (show (({} : LocalL2Runtime).recordUpdateResult gateSnapshot 1).2.applied = true by
      decide +kernel)
    (show (({} : LocalL2Runtime).recordUpdateResult gateSnapshot 1).2.rebuildRequired = false by
      decide +kernel)

theorem replay_continues_adjacent :
    ContinuousFrom 100 ((gatePlane [gateDelta 101 101, gateDelta 102 110]).replayBufferedUpdates
      gateKey 1).2.applied := by
  refine (replay_continues_iff _ gateKey 100 1 (by decide) (gate_just_loaded _) ?_
    (by decide +kernel)).mpr ?_
  · decide +kernel
  · have window : replayWindow 100 ((gatePlane [gateDelta 101 101, gateDelta 102 110]).currentBuffer
        gateKey) = [gateDelta 101 101, gateDelta 102 110] := by decide +kernel
    rw [window]
    simp [NoUnlinkedJump, gateDelta, ignoredAsStale, rangeStart]

/-- A second update that starts 99 ids beyond the book is applied all the same. -/
theorem replay_applies_gap :
    ¬ ∀ (plane : LocalL2DataPlane) (key : LocalL2BookKey) (sequence nowMs : Int),
      rangeVenue key.venue = true → JustLoaded plane key sequence →
      (∀ buffered ∈ plane.currentBuffer key, IsDeltaFor key buffered.update) →
      (plane.replayBufferedUpdates key nowMs).2.ok = true →
      ContinuousFrom sequence (plane.replayBufferedUpdates key nowMs).2.applied := by
  intro continues
  have chain := continues (gatePlane [gateDelta 101 101, gateDelta 200 210]) gateKey 100 1
    (by decide) (gate_just_loaded _) (by decide +kernel) (by decide +kernel)
  exact absurd chain (by decide +kernel)

end LightFee.MarketData
