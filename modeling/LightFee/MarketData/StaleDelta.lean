import LightFee.MarketData.LocalL2Runtime

/-!
# Stale deltas

A delta that the book itself would ignore as stale still passes the venue's preflight before it
and the verification of its checksum after it. The preflight of one venue takes a broken link for
a sequence boundary and empties the book. Otherwise the book is left as it was, as long as the
checksum that came with the delta does not contradict it.
-/

namespace LightFee.MarketData

/-- `apply_delta` would neither apply the update nor ask for a rebuild. -/
def StaleDelta (book : LocalL2Book) (update : LocalL2Update) (nowMs : Int) : Prop :=
  let verdict := (book.applyDelta update.bids update.asks update.sequence
    (runtimePreviousSequence book update) (effectiveTimeMs update nowMs)).2
  verdict.applied = false ∧ verdict.rebuildRequired = false

/-- The link that Bitget's preflight takes for a sequence boundary: one that starts from nothing,
one that is missing and not confirmed by the checksum, or one that neither names the book's
sequence nor is covered by the bridge from a snapshot. -/
def breaksBitgetLink (book : LocalL2Book) (update : LocalL2Update) : Prop :=
  update.venue = "bitget" ∧ 0 < book.sequence ∧ 0 < update.sequence ∧
    ((update.previousSequencePresent = true ∧ update.previousSequence = 0) ∨
      (book.sequence < update.sequence ∧
        ((update.previousSequencePresent = false ∧
            bitgetMissingPrevSequenceAdmissible book update = false) ∨
          (update.previousSequencePresent = true ∧ update.previousSequence ≠ book.sequence ∧
            ¬ (book.pendingSnapshotBridge = true ∧ update.previousSequence ≤ book.sequence)))))

instance (book : LocalL2Book) (update : LocalL2Update) : Decidable (breaksBitgetLink book update) :=
  inferInstanceAs (Decidable (_ ∧ _ ∧ _ ∧ (_ ∨ _)))

/-- The signature that a delta's checksum is compared with. -/
def comparedChecksum (book : LocalL2Book) (update : LocalL2Update) : Int :=
  if update.rawBids ≠ [] ∨ update.rawAsks ≠ [] ∨ book.rawChecksumBids ≠ [] ∨
      book.rawChecksumAsks ≠ [] then book.computeRawChecksum
  else book.computeChecksum

/-- No checksum is compared, or it is the book's own. -/
def ChecksumAgrees (book : LocalL2Book) (update : LocalL2Update) : Prop :=
  (getVenueRules update.venue).shouldVerifyChecksum = false ∨ update.checksum = 0 ∨
    comparedChecksum book update = 0 ∨ comparedChecksum book update = update.checksum

/-! ## The stages of a record -/

theorem preflight_boundary {book : LocalL2Book} {update : LocalL2Update}
    (isDelta : update.updateKind = .delta) (breaks : breaksBitgetLink book update) :
    ∃ reason, preflightVenueUpdate book update = some (markSequenceBoundaryRebuild book reason) := by
  obtain ⟨venue, bookNumbered, numbered, link⟩ := breaks
  rw [preflightVenueUpdate, if_neg (by simp [venue, isDelta]), if_neg (by omega)]
  obtain ⟨present, fromNothing⟩ | ⟨ahead, link⟩ := link
  · rw [if_pos ⟨present, fromNothing⟩]
    exact ⟨_, rfl⟩
  · obtain ⟨missing, unconfirmed⟩ | ⟨present, other, noBridge⟩ := link
    · rw [if_neg (by simp [missing]), if_neg (by omega), if_pos (by simp [missing]),
        if_neg (by simp [unconfirmed])]
      exact ⟨_, rfl⟩
    · have unbridged : ¬ (book.pendingSnapshotBridge = true ∧
          update.previousSequence ≤ book.sequence ∧ book.sequence ≤ update.sequence) :=
        fun bridged => noBridge ⟨bridged.1, bridged.2.1⟩
      split_ifs with fromNothing behind absent
      · exact ⟨_, rfl⟩
      · omega
      · simp [present] at absent
      · simp [present] at absent
      · exact ⟨_, rfl⟩

theorem preflight_kept {book : LocalL2Book} {update : LocalL2Update}
    (keeps : ¬ breaksBitgetLink book update) :
    preflightVenueUpdate book update = none ∨
      ∃ reason, preflightVenueUpdate book update =
        some { book := book, result := { faultReason := some reason } } := by
  rw [preflightVenueUpdate]
  split_ifs with elsewhere unnumbered fromNothing behind missing admissible other bridged
  · exact Or.inl rfl
  · exact Or.inl rfl
  · refine absurd ?_ keeps
    push Not at elsewhere
    exact ⟨elsewhere.1, by omega, by omega, Or.inl fromNothing⟩
  · exact Or.inr ⟨_, rfl⟩
  · exact Or.inl rfl
  · refine absurd ?_ keeps
    push Not at elsewhere
    exact ⟨elsewhere.1, by omega, by omega, Or.inr ⟨by omega, Or.inl ⟨by simpa using missing,
      by simpa using admissible⟩⟩⟩
  · exact Or.inl rfl
  · refine absurd ?_ keeps
    push Not at elsewhere bridged
    refine ⟨elsewhere.1, by omega, by omega, Or.inr ⟨by omega, Or.inr ⟨by simpa using missing,
      other, ?_⟩⟩⟩
    rintro ⟨armed, covered⟩
    exact absurd (bridged armed covered) (by omega)
  · exact Or.inl rfl

/-- A stale delta leaves the book to the verification as it was. -/
theorem applyUpdate_stale {book : LocalL2Book} {update : LocalL2Update} {nowMs : Int}
    (isDelta : update.updateKind = .delta) (stale : StaleDelta book update nowMs) :
    ∃ refused, applyUpdate book update nowMs = (book, refused) ∧ refused.applied = false ∧
      refused.rebuildRequired = false := by
  obtain ⟨notApplied, noRebuild⟩ := stale
  rw [applyUpdate, if_neg (by simp [isDelta])]
  obtain ⟨refused, _, applied⟩ | ⟨_, _, _, _, rebuild⟩ | ⟨_, _, _, applied, _⟩ :=
    apply_delta_cases book update.bids update.asks update.sequence
      (runtimePreviousSequence book update) (effectiveTimeMs update nowMs) 0
  · rw [applied] at notApplied noRebuild
    exact ⟨refused, applied, notApplied, noRebuild⟩
  · rw [rebuild] at noRebuild
    cases noRebuild
  · rw [applied] at notApplied
    cases notApplied

theorem verdict_agrees {book : LocalL2Book} {actual expected nowMs : Int}
    (agrees : expected = 0 ∨ actual = 0 ∨ actual = expected) :
    checksumVerdict book actual expected nowMs = { applied := true } := by
  rw [checksumVerdict, if_neg (by tauto)]

/-- A checksum that agrees adds nothing to the result. -/
theorem verify_agrees {book : LocalL2Book} {update : LocalL2Update} {result : LocalL2UpdateResult}
    {nowMs : Int} (agrees : ChecksumAgrees book update) :
    verifyVenueChecksum book update result nowMs = (book, result) := by
  rw [verifyVenueChecksum]
  by_cases verified : (getVenueRules update.venue).shouldVerifyChecksum = true ∧ update.checksum ≠ 0
  · obtain ⟨verifies, signed⟩ := verified
    have agrees : comparedChecksum book update = 0 ∨
        comparedChecksum book update = update.checksum := by
      obtain unverified | unsigned | agrees := agrees
      · rw [unverified] at verifies
        cases verifies
      · exact absurd unsigned signed
      · exact agrees
    have checked : (if update.rawBids ≠ [] ∨ update.rawAsks ≠ [] ∨ book.rawChecksumBids ≠ [] ∨
        book.rawChecksumAsks ≠ [] then book.verifyRawChecksum update.checksum nowMs
      else book.verifyChecksum update.checksum nowMs) = { applied := true } := by
      rw [comparedChecksum] at agrees
      split_ifs at agrees ⊢
      · exact verdict_agrees (Or.inr agrees)
      · exact verdict_agrees (Or.inr agrees)
    rw [if_pos ⟨verifies, signed⟩, checked]
    simp
  · rw [if_neg verified]

/-- A stale delta that passes the preflight and agrees is not recorded. -/
theorem recordAdmitted_stale {book : LocalL2Book} {update : LocalL2Update} {nowMs : Int}
    (isDelta : update.updateKind = .delta) (stale : StaleDelta book update nowMs)
    (agrees : ChecksumAgrees book update) :
    ∃ result, recordAdmitted book update nowMs = { book := book, result := result } ∧
      result.rebuildRequired = false := by
  obtain ⟨refused, applied, notApplied, noRebuild⟩ := applyUpdate_stale isDelta stale
  have texts : withTexts book update nowMs = book := by
    rw [withTexts, applied]
    simp [notApplied]
  refine ⟨refused, ?_, noRebuild⟩
  rw [recordAdmitted, texts, applied, verify_agrees agrees]
  simp [armSnapshotBridge, notApplied, reportRebuild, noRebuild]

/-! ## Recording a stale delta -/

/-- The book was emptied to be loaded again. -/
def Emptied (book : LocalL2Book) : Prop :=
  book.bids = [] ∧ book.asks = [] ∧ book.sequence = 0 ∧ book.rawChecksumBids = [] ∧
    book.rawChecksumAsks = [] ∧ book.pendingSnapshotBridge = false

theorem boundary_emptied (book : LocalL2Book) (reason : String) (detail : FaultReason)
    (resumeAtMs : Int) :
    Emptied (faultBook (markSequenceBoundaryRebuild book reason).book .sequenceGap detail
      resumeAtMs) := by
  simp only [markSequenceBoundaryRebuild, LocalL2Book.transitionToRebuilding, faultBook, Emptied]
  split <;> simp

/-- A stale delta that breaks Bitget's link empties the book; any other one, whose checksum agrees,
leaves the book as it was and asks for nothing. -/
theorem stale_delta_recorded (runtime : LocalL2Runtime) (update : LocalL2Update) (nowMs : Int)
    (isDelta : update.updateKind = .delta)
    (stale : StaleDelta (runtime.ensureBook update.venue update.symbol) update nowMs) :
    let book := runtime.ensureBook update.venue update.symbol
    let recorded := runtime.recordUpdateResult update nowMs
    if breaksBitgetLink book update then
      (∃ emptied, recorded.1.getBook update.venue update.symbol = some emptied ∧ Emptied emptied) ∧
        recorded.2.rebuildRequired = true
    else ChecksumAgrees book update →
      recorded.1.getBook update.venue update.symbol = some book ∧
        recorded.2.rebuildRequired = false := by
  dsimp only
  rw [LocalL2Runtime.recordUpdateResult, recordOnBook]
  split_ifs with breaks
  · obtain ⟨reason, boundary⟩ := preflight_boundary isDelta breaks
    rw [boundary, Option.getD_some]
    refine ⟨⟨_, get_put_book _ _ _ _, ?_⟩, rfl⟩
    rw [ensure_enqueue, ensure_put_book]
    exact boundary_emptied _ reason _ _
  · intro agrees
    have kept : ∃ result, (preflightVenueUpdate (runtime.ensureBook update.venue update.symbol)
        update).getD (recordAdmitted (runtime.ensureBook update.venue update.symbol) update nowMs) =
          { book := runtime.ensureBook update.venue update.symbol, result := result } ∧
        result.rebuildRequired = false := by
      obtain passed | ⟨reason, ignored⟩ := preflight_kept breaks
      · rw [passed]
        exact recordAdmitted_stale isDelta stale agrees
      · rw [ignored]
        exact ⟨_, rfl, rfl⟩
    obtain ⟨result, outcome, noRebuild⟩ := kept
    rw [outcome]
    exact ⟨get_put_book _ _ _ _, noRebuild⟩

/-- A runtime with one hot book at sequence ten. -/
def hotRuntime (venue : String) : LocalL2Runtime :=
  ({} : LocalL2Runtime).putBook venue "BTCUSDT"
    { freshBook venue "BTCUSDT" with
      bids := [⟨100, 1⟩], asks := [⟨101, 1⟩], status := .hot, sequence := 10, lastUpdateId := 10 }

/-- A delta up to sequence twelve that is linked to sequence five. -/
def olderLink (venue : String) : LocalL2Update :=
  { venue := venue
    symbol := "BTCUSDT"
    bids := [⟨99, 2⟩]
    sequence := 12
    previousSequence := 5
    previousSequencePresent := true }

theorem olderLink_stale (venue : String) (ownLink : runtimePreviousSequence
      ((hotRuntime venue).ensureBook venue "BTCUSDT") (olderLink venue) = 5) :
    StaleDelta ((hotRuntime venue).ensureBook venue "BTCUSDT") (olderLink venue) 1000 := by
  have numbered : ((hotRuntime venue).ensureBook venue "BTCUSDT").sequence = 10 := by
    rw [hotRuntime, ensure_put_book]
  have ahead : ((hotRuntime venue).ensureBook venue "BTCUSDT").sequence < 12 := by omega
  have older : 5 < ((hotRuntime venue).ensureBook venue "BTCUSDT").sequence := by omega
  have refused := admit_stale_link (effectiveTimeMs (olderLink venue) 1000) ahead (by decide) older
  rw [StaleDelta, ownLink, LocalL2Book.applyDelta]
  have same : (olderLink venue).sequence = 12 := rfl
  rw [same, refused]
  exact ⟨rfl, rfl⟩

/-- Bitget's preflight empties the book for a delta that the book would ignore. -/
theorem older_link_empties_book :
    StaleDelta ((hotRuntime "bitget").ensureBook "bitget" "BTCUSDT") (olderLink "bitget") 1000 ∧
      ((hotRuntime "bitget").ensureBook "bitget" "BTCUSDT").sequence = 10 ∧
      (((hotRuntime "bitget").recordUpdateResult (olderLink "bitget") 1000).1.getBook "bitget"
        "BTCUSDT").map LocalL2Book.sequence = some 0 ∧
      ((hotRuntime "bitget").recordUpdateResult (olderLink "bitget") 1000).2.rebuildRequired =
        true := by
  refine ⟨olderLink_stale "bitget" (by decide +kernel), by decide +kernel, by decide +kernel,
    by decide +kernel⟩

/-- A stale delta without a checksum, on a venue that verifies checksums. -/
theorem stale_delta_recorded_okx :
    ((hotRuntime "okx").recordUpdateResult (olderLink "okx") 1000).1.getBook "okx" "BTCUSDT" =
        some ((hotRuntime "okx").ensureBook "okx" "BTCUSDT") ∧
      ((hotRuntime "okx").recordUpdateResult (olderLink "okx") 1000).2.rebuildRequired = false := by
  have recorded := stale_delta_recorded (hotRuntime "okx") (olderLink "okx") 1000 rfl
    (olderLink_stale "okx" (by decide +kernel))
  dsimp only at recorded
  rw [if_neg (by rintro ⟨venue, _⟩; exact absurd venue (by decide))] at recorded
  exact recorded (Or.inr (Or.inl rfl))

end LightFee.MarketData
