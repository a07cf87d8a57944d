import LightFee.Library.DecimalText
import LightFee.Library.Ladder

/-!
# The local order book

A book keeps two sides of price levels. A snapshot replaces both sides; a delta
writes, replaces or deletes single levels. Each operation sorts the result, cuts
it to the book's depth and refuses a book whose top is empty, non-positive or
crossed. Prices and quantities are exact rationals; sequence numbers, checksums
and times are unbounded integers as in the source.

Beside the execution sides the book keeps the exchange's own price and quantity
texts. The checksum is computed over those texts, never over normalised numbers.
-/

namespace LightFee.MarketData

inductive L2BookStatus where
  | cold | bootstrapping | hot | degraded | rebuilding | suspended | resumeWaiting
deriving DecidableEq, Repr

inductive LocalL2UpdateKind where
  | snapshot | delta | zeroDelete | resume | rebuild
deriving DecidableEq, Repr

inductive LocalL2EventKind where
  | bestBidUpdated | bestAskUpdated | spreadChanged | midPriceChanged | depthChanged
  | sequenceGap | checksumMismatch | stale | statusTransition | rebuildRequired | resume
  | resumed | bookCleared
deriving DecidableEq, Repr

/-- Which side of the book; the source passes `"bid"` or `"ask"`. -/
inductive BookSide where
  | bid | ask
deriving DecidableEq, Repr

/-- The source's fault and detail texts, one constructor per format string with
the values it interpolates. -/
inductive FaultReason where
  | bookEmptySideBid
  | bookEmptySideAsk
  | nonPositiveTop (bestBid bestAsk : ℚ)
  | crossedOrLockedBook (bestBid bestAsk : ℚ)
  /-- `stale_update prev=.. incoming_prev=..` -/
  | staleUpdatePrev (prev incomingPrev : Int)
  /-- `stale_update prev=.. incoming_sequence=..` -/
  | staleUpdateSequence (prev incomingSequence : Int)
  /-- `sequence_gap_..` -/
  | sequenceGap (gap : Int)
  /-- `gap=.. prev=.. incoming_prev=..` -/
  | gapDetail (gap prev incomingPrev : Int)
  /-- `small_gap=..` -/
  | smallGap (gap : Int)
  /-- `checksum_mismatch expected=.. actual=..` -/
  | checksumMismatch (expected actual : Int)
  /-- A fixed text without interpolated values. -/
  | text (reason : String)
  /-- `label: detail` -/
  | labelled (label : String) (detail : FaultReason)
  /-- `previous_link_mismatch: expected .. got ..` and its relatives -/
  | expectedGot (label : String) (expected got : Int)
deriving DecidableEq, Repr

/-- `"checksum" in reason`. -/
def FaultReason.mentionsChecksum : FaultReason → Bool
  | .checksumMismatch _ _ => true
  | .labelled label detail => label == "checksum_mismatch" || detail.mentionsChecksum
  | _ => false

structure PriceLevel where
  price : ℚ
  quantity : ℚ
deriving DecidableEq, Repr

/-- A checksum level: the wire texts beside the numbers they read as. -/
structure RawChecksumLevel where
  price : ℚ
  quantity : ℚ
  priceText : String
  quantityText : String
  readsPrice : DecimalText.decimal priceText = some price
  readsQuantity : DecimalText.decimal quantityText = some quantity
deriving DecidableEq

structure LocalL2BookKey where
  venue : String
  symbol : String
deriving DecidableEq, Repr

structure LocalL2Update where
  venue : String
  symbol : String
  bids : List PriceLevel := []
  asks : List PriceLevel := []
  firstSequence : Int := 0
  sequence : Int := 0
  previousSequence : Int := 0
  previousSequencePresent : Bool := false
  checksum : Int := 0
  rawBids : List (String × String) := []
  rawAsks : List (String × String) := []
  eventTimeMs : Int := 0
  receivedAtMs : Int := 0
  updateKind : LocalL2UpdateKind := .delta
deriving DecidableEq, Repr

structure LocalL2Event where
  venue : String
  symbol : String
  eventKind : LocalL2EventKind
  observedAtMs : Int := 0
  sequence : Int := 0
  detail : Option FaultReason := none
  bid : ℚ := 0
  ask : ℚ := 0
  midPrice : ℚ := 0
deriving DecidableEq, Repr

/-- An empty fault reason of the source is `none`. -/
structure LocalL2UpdateResult where
  applied : Bool := false
  events : List LocalL2Event := []
  faultReason : Option FaultReason := none
  rebuildRequired : Bool := false
deriving DecidableEq, Repr

structure LocalL2Book where
  venue : String
  symbol : String
  bids : List PriceLevel := []
  asks : List PriceLevel := []
  status : L2BookStatus := .cold
  observedAtMs : Int := 0
  degradeCount : Nat := 0
  lastError : Option FaultReason := none
  lastUpdateId : Int := 0
  sequence : Int := 0
  checksum : Int := 0
  rawChecksumBids : List RawChecksumLevel := []
  rawChecksumAsks : List RawChecksumLevel := []
  lastSnapshotMs : Int := 0
  lastDeltaMs : Int := 0
  runtimeSuspendedUntilMs : Int := 0
  faultReason : Option FaultReason := none
  pendingSnapshotBridge : Bool := false
  maxConsecutiveDegradations : Nat := 3
  maxDepth : Int := 50
  maxSequenceGap : Int := 0
deriving DecidableEq

/-! ## Sorting, trimming and merging levels -/

/-- `sorted(levels, key=price, reverse=True)`; a reversed sort is still stable. -/
def sortBids (levels : List PriceLevel) : List PriceLevel :=
  Ladder.sort PriceLevel.price (· ≥ ·) levels

def sortAsks (levels : List PriceLevel) : List PriceLevel :=
  Ladder.sort PriceLevel.price (· ≤ ·) levels

/-- `levels[:depth] if depth > 0 else levels`. -/
def trim {α : Type} (depth : Int) (levels : List α) : List α :=
  if 0 < depth then levels.take depth.toNat else levels

/-- `max_depth or self.max_depth`. -/
def orDefault (maxDepth fallback : Int) : Int := if maxDepth ≠ 0 then maxDepth else fallback

def mergeLevels (existing incoming : List PriceLevel) (side : BookSide) (maxDepth : Int) :
    List PriceLevel :=
  let known : OrderedDict ℚ ℚ :=
    existing.foldl (fun priceMap level => priceMap.insert level.price level.quantity) .empty
  let priceMap := incoming.foldl (fun priceMap level =>
    if level.quantity ≤ 0 then priceMap.erase level.price
    else priceMap.insert level.price level.quantity) known
  let merged := priceMap.entries.map (fun entry => PriceLevel.mk entry.1 entry.2)
  trim maxDepth (match side with
    | .bid => sortBids merged
    | .ask => sortAsks merged)

def bookStructureFault (bids asks : List PriceLevel) : Option FaultReason :=
  match bids, asks with
  | [], _ => some .bookEmptySideBid
  | _ :: _, [] => some .bookEmptySideAsk
  | bestBid :: _, bestAsk :: _ =>
    if bestBid.price ≤ 0 ∨ bestAsk.price ≤ 0 then
      some (.nonPositiveTop bestBid.price bestAsk.price)
    else if bestBid.price ≥ bestAsk.price then
      some (.crossedOrLockedBook bestBid.price bestAsk.price)
    else none

/-! ## Snapshots and deltas -/

def LocalL2Book.bestBid (book : LocalL2Book) : ℚ := (book.bids.head?.map PriceLevel.price).getD 0

def LocalL2Book.bestAsk (book : LocalL2Book) : ℚ := (book.asks.head?.map PriceLevel.price).getD 0

def LocalL2Book.midPrice (book : LocalL2Book) : ℚ :=
  if 0 < book.bestBid ∧ 0 < book.bestAsk then (book.bestBid + book.bestAsk) / 2 else 0

def makeEvent (book : LocalL2Book) (kind : LocalL2EventKind) (nowMs sequence : Int)
    (detail : Option FaultReason := none) (bid ask midPrice : ℚ := 0) : LocalL2Event :=
  { venue := book.venue, symbol := book.symbol, eventKind := kind, observedAtMs := nowMs,
    sequence := sequence, detail := detail, bid := bid, ask := ask, midPrice := midPrice }

/-- The best-price events that follow an accepted snapshot or delta. -/
def topEvents (book : LocalL2Book) (nowMs sequence : Int) : List LocalL2Event :=
  (match book.bids with
    | [] => []
    | best :: _ => [makeEvent book .bestBidUpdated nowMs sequence none best.price]) ++
  (match book.asks with
    | [] => []
    | best :: _ => [makeEvent book .bestAskUpdated nowMs sequence none 0 best.price])

/-- The book after an accepted snapshot. -/
def LocalL2Book.loaded (book : LocalL2Book) (bids asks : List PriceLevel)
    (sequence checksum nowMs : Int) : LocalL2Book :=
  { book with
    bids := bids, asks := asks, sequence := sequence
    lastUpdateId := if 0 < sequence then sequence else book.lastUpdateId
    checksum := checksum, lastSnapshotMs := nowMs, observedAtMs := nowMs }

def LocalL2Book.applySnapshot (book : LocalL2Book) (bids asks : List PriceLevel)
    (sequence checksum nowMs : Int) (maxDepth : Int := 0) : LocalL2Book × LocalL2UpdateResult :=
  let depth := orDefault maxDepth book.maxDepth
  let nextBids := trim depth (sortBids bids)
  let nextAsks := trim depth (sortAsks asks)
  match bookStructureFault nextBids nextAsks with
  | some fault =>
    (book, { applied := false
             events := [makeEvent book .rebuildRequired nowMs sequence (some fault)]
             faultReason := some fault
             rebuildRequired := true })
  | none =>
    let next := book.loaded nextBids nextAsks sequence checksum nowMs
    (next, { applied := true, events := topEvents next nowMs sequence })

/-- The delta's verdict before any level is touched: refused as stale, refused
as a gap, or admitted with the events of a tolerated small gap. -/
def LocalL2Book.admitDelta (book : LocalL2Book) (sequence previousSequence nowMs : Int) :
    LocalL2UpdateResult ⊕ List LocalL2Event :=
  let sameSequenceRefresh : Bool :=
    0 < book.sequence ∧ sequence = book.sequence ∧ previousSequence = book.sequence
  if 0 < book.sequence ∧ 0 < sequence ∧ sequence ≤ book.sequence ∧ !sameSequenceRefresh ∧
      previousSequence ≠ book.sequence then
    .inl { faultReason := some (if 0 < previousSequence
             then .staleUpdatePrev book.sequence previousSequence
             else .staleUpdateSequence book.sequence sequence) }
  else if 0 < book.sequence ∧ 0 < previousSequence ∧ previousSequence ≠ book.sequence then
    let gap := previousSequence - book.sequence
    if gap < 0 then .inl { faultReason := some (.staleUpdatePrev book.sequence previousSequence) }
    else if 0 < gap ∧ (book.maxSequenceGap ≤ 0 ∨ book.maxSequenceGap < gap) then
      let detail := FaultReason.gapDetail gap book.sequence previousSequence
      .inl { events := [makeEvent book .sequenceGap nowMs sequence (some detail)]
             faultReason := some (.sequenceGap gap)
             rebuildRequired := true }
    else .inr [makeEvent book .sequenceGap nowMs sequence (some (.smallGap gap))]
  else .inr []

/-- The book after an accepted delta. -/
def LocalL2Book.merged (book : LocalL2Book) (bids asks : List PriceLevel)
    (sequence nowMs : Int) : LocalL2Book :=
  { book with
    bids := bids, asks := asks, sequence := sequence
    lastUpdateId := if 0 < sequence then sequence else book.lastUpdateId
    lastDeltaMs := nowMs, observedAtMs := nowMs }

def LocalL2Book.applyDelta (book : LocalL2Book) (bids asks : List PriceLevel)
    (sequence previousSequence nowMs : Int) (maxDepth : Int := 0) :
    LocalL2Book × LocalL2UpdateResult :=
  match book.admitDelta sequence previousSequence nowMs with
  | .inl refused => (book, refused)
  | .inr events =>
    let depth := orDefault maxDepth book.maxDepth
    let nextBids := mergeLevels book.bids bids .bid depth
    let nextAsks := mergeLevels book.asks asks .ask depth
    match bookStructureFault nextBids nextAsks with
    | some fault =>
      (book, { applied := false
               events := events ++ [makeEvent book .rebuildRequired nowMs sequence (some fault)]
               faultReason := some fault
               rebuildRequired := true })
    | none =>
      let next := book.merged nextBids nextAsks sequence nowMs
      let mid := next.midPrice
      (next, { applied := true
               events := events ++ topEvents next nowMs sequence ++
                 (if 0 < mid then [makeEvent next .midPriceChanged nowMs sequence none 0 0 mid]
                  else []) })

/-! ## What an operation can do -/

/-- A snapshot is either refused, leaving the book alone and asking for a
rebuild, or it loads the sorted and trimmed sides. -/
theorem apply_snapshot_cases (book : LocalL2Book) (bids asks : List PriceLevel)
    (sequence checksum nowMs maxDepth : Int) :
    (∃ fault, bookStructureFault (trim (orDefault maxDepth book.maxDepth) (sortBids bids))
          (trim (orDefault maxDepth book.maxDepth) (sortAsks asks)) = some fault ∧
        (book.applySnapshot bids asks sequence checksum nowMs maxDepth).1 = book ∧
        (book.applySnapshot bids asks sequence checksum nowMs maxDepth).2.applied = false ∧
        (book.applySnapshot bids asks sequence checksum nowMs maxDepth).2.rebuildRequired = true) ∨
      (bookStructureFault (trim (orDefault maxDepth book.maxDepth) (sortBids bids))
          (trim (orDefault maxDepth book.maxDepth) (sortAsks asks)) = none ∧
        (book.applySnapshot bids asks sequence checksum nowMs maxDepth).1 =
          book.loaded (trim (orDefault maxDepth book.maxDepth) (sortBids bids))
            (trim (orDefault maxDepth book.maxDepth) (sortAsks asks)) sequence checksum nowMs ∧
        (book.applySnapshot bids asks sequence checksum nowMs maxDepth).2.applied = true ∧
        (book.applySnapshot bids asks sequence checksum nowMs maxDepth).2.rebuildRequired =
          false) := by
  cases faulty : bookStructureFault (trim (orDefault maxDepth book.maxDepth) (sortBids bids))
      (trim (orDefault maxDepth book.maxDepth) (sortAsks asks)) with
  | some fault => exact Or.inl ⟨fault, rfl, by simp [LocalL2Book.applySnapshot, faulty]⟩
  | none => exact Or.inr ⟨rfl, by simp [LocalL2Book.applySnapshot, faulty]⟩

/-- An applied snapshot loads the sorted and trimmed sides. -/
theorem apply_snapshot_applied {book : LocalL2Book} {bids asks : List PriceLevel}
    {sequence checksum nowMs maxDepth : Int}
    (applied : (book.applySnapshot bids asks sequence checksum nowMs maxDepth).2.applied = true) :
    (book.applySnapshot bids asks sequence checksum nowMs maxDepth).1 =
      book.loaded (trim (orDefault maxDepth book.maxDepth) (sortBids bids))
        (trim (orDefault maxDepth book.maxDepth) (sortAsks asks)) sequence checksum nowMs := by
  rcases apply_snapshot_cases book bids asks sequence checksum nowMs maxDepth with
    ⟨_, _, _, refused, _⟩ | ⟨_, next, _⟩
  · exact absurd applied (by simp [refused])
  · exact next

/-- A refused delta is not applied. -/
theorem admit_refused {book : LocalL2Book} {sequence previousSequence nowMs : Int}
    {refused : LocalL2UpdateResult}
    (verdict : book.admitDelta sequence previousSequence nowMs = .inl refused) :
    refused.applied = false := by
  simp only [LocalL2Book.admitDelta] at verdict
  split_ifs at verdict <;> simp only [Sum.inl.injEq] at verdict <;> exact verdict ▸ rfl

/-- A linked or unlinked delta that moves the sequence forward is admitted. -/
theorem admit_forward {book : LocalL2Book} {sequence previousSequence : Int} (nowMs : Int)
    (forward : book.sequence < sequence)
    (linked : previousSequence = book.sequence ∨ previousSequence ≤ 0) :
    book.admitDelta sequence previousSequence nowMs = .inr [] := by
  have notStale : ¬ sequence ≤ book.sequence := not_le.mpr forward
  have noGap : ¬ (0 < book.sequence ∧ 0 < previousSequence ∧ previousSequence ≠ book.sequence) := by
    rintro ⟨_, positive, different⟩
    rcases linked with same | unlinked
    · exact different same
    · exact absurd positive (not_lt.mpr unlinked)
  simp [LocalL2Book.admitDelta, notStale, noGap]

/-- A delta that moves forward from a link older than the book is stale: it is
ignored without asking for a rebuild. -/
theorem admit_stale_link {book : LocalL2Book} {sequence previousSequence : Int} (nowMs : Int)
    (forward : book.sequence < sequence) (linked : 0 < previousSequence)
    (older : previousSequence < book.sequence) :
    book.admitDelta sequence previousSequence nowMs =
      .inl { faultReason := some (.staleUpdatePrev book.sequence previousSequence) } := by
  have notStale : ¬ sequence ≤ book.sequence := not_le.mpr forward
  have positive : 0 < book.sequence := linked.trans older
  simp [LocalL2Book.admitDelta, notStale, positive, linked, older.ne, older]

/-- A delta is refused before any level is touched, refused because the merged
book is faulty, or merged; only a merge changes the book. -/
theorem apply_delta_cases (book : LocalL2Book) (bids asks : List PriceLevel)
    (sequence previousSequence nowMs maxDepth : Int) :
    (∃ refused, book.admitDelta sequence previousSequence nowMs = .inl refused ∧
        book.applyDelta bids asks sequence previousSequence nowMs maxDepth = (book, refused)) ∨
      (∃ events, book.admitDelta sequence previousSequence nowMs = .inr events ∧
        (book.applyDelta bids asks sequence previousSequence nowMs maxDepth).1 = book ∧
        (book.applyDelta bids asks sequence previousSequence nowMs maxDepth).2.applied = false ∧
        (book.applyDelta bids asks sequence previousSequence nowMs maxDepth).2.rebuildRequired
          = true) ∨
      (∃ events, book.admitDelta sequence previousSequence nowMs = .inr events ∧
        (book.applyDelta bids asks sequence previousSequence nowMs maxDepth).1 =
          book.merged (mergeLevels book.bids bids .bid (orDefault maxDepth book.maxDepth))
            (mergeLevels book.asks asks .ask (orDefault maxDepth book.maxDepth)) sequence nowMs ∧
        (book.applyDelta bids asks sequence previousSequence nowMs maxDepth).2.applied = true ∧
        (book.applyDelta bids asks sequence previousSequence nowMs maxDepth).2.rebuildRequired
          = false) := by
  cases admitted : book.admitDelta sequence previousSequence nowMs with
  | inl refused => exact Or.inl ⟨refused, rfl, by simp [LocalL2Book.applyDelta, admitted]⟩
  | inr events =>
    cases faulty : bookStructureFault
        (mergeLevels book.bids bids .bid (orDefault maxDepth book.maxDepth))
        (mergeLevels book.asks asks .ask (orDefault maxDepth book.maxDepth)) with
    | some fault =>
      exact Or.inr (Or.inl ⟨events, rfl, by simp [LocalL2Book.applyDelta, admitted, faulty]⟩)
    | none =>
      exact Or.inr (Or.inr ⟨events, rfl, by simp [LocalL2Book.applyDelta, admitted, faulty]⟩)

/-- An applied delta merges both sides. -/
theorem apply_delta_applied {book : LocalL2Book} {bids asks : List PriceLevel}
    {sequence previousSequence nowMs maxDepth : Int}
    (applied : (book.applyDelta bids asks sequence previousSequence nowMs maxDepth).2.applied
      = true) :
    (book.applyDelta bids asks sequence previousSequence nowMs maxDepth).1 =
      book.merged (mergeLevels book.bids bids .bid (orDefault maxDepth book.maxDepth))
        (mergeLevels book.asks asks .ask (orDefault maxDepth book.maxDepth)) sequence nowMs := by
  rcases apply_delta_cases book bids asks sequence previousSequence nowMs maxDepth with
    ⟨refused, verdict, outcome⟩ | ⟨_, _, _, notApplied, _⟩ | ⟨_, _, next, _⟩
  · rw [outcome, admit_refused verdict] at applied
    cases applied
  · rw [notApplied] at applied
    cases applied
  · exact next

end LightFee.MarketData
