import LightFee.MarketData.LocalL2Policy
import LightFee.MarketData.LocalL2Venues

/-!
# The local-L2 runtime

The runtime owns one book for each venue and symbol. A recorded update passes
the venue's own preflight, changes the book, is merged into the checksum texts
and is then verified against the exchange's signature. A refused or mismatching
update asks for a rebuild. Pool assignments and leases do not influence a book
and are not part of the model.
-/

namespace LightFee.MarketData

inductive RuntimeFaultKind where
  | transportFailure | rateLimited | checksumMismatch | sequenceGap | quoteAgeTriggered
  | resumeExpired | budgetSuspended | runtimeSuspended
deriving DecidableEq, Repr

/-- The counters that a runtime fault moves. -/
structure LocalL2RuntimeMetrics where
  rebuildTotal : Nat := 0
  resumeExpiredTotal : Nat := 0
  budgetSuspendedTotal : Nat := 0
  runtimeSuspendedTotal : Nat := 0
  runtimeRateLimitedTotal : Nat := 0
  runtimeTransportFailureTotal : Nat := 0
deriving DecidableEq, Repr

structure LocalL2Runtime where
  books : OrderedDict LocalL2BookKey LocalL2Book := .empty
  pendingEvents : List LocalL2Event := []
  metrics : LocalL2RuntimeMetrics := {}
  maxEvents : Nat := 512
  resumeTimeoutMs : Int := 60000

/-! ## Status transitions -/

def LocalL2Book.transitionToDegraded (book : LocalL2Book) (error : FaultReason) : LocalL2Book :=
  { book with
    status := if book.maxConsecutiveDegradations ≤ book.degradeCount + 1 then .suspended
      else .degraded
    degradeCount := book.degradeCount + 1
    lastError := some error
    faultReason := some error }

def LocalL2Book.transitionToRebuilding (book : LocalL2Book) : LocalL2Book :=
  match book.status with
  | .degraded | .suspended | .hot | .bootstrapping => { book with status := .rebuilding }
  | _ => book

def LocalL2Book.transitionToSuspended (book : LocalL2Book) (reason : FaultReason) : LocalL2Book :=
  { book with status := .suspended, faultReason := some reason }

/-! ## Books, events and faults -/

def LocalL2Runtime.getBook (runtime : LocalL2Runtime) (venue symbol : String) :
    Option LocalL2Book :=
  runtime.books.find? ⟨venue, symbol⟩

/-- A new book takes its depth and gap from the venue's rules. -/
def freshBook (venue symbol : String) : LocalL2Book :=
  let rules := getVenueRules venue
  { venue := venue, symbol := symbol, maxDepth := rules.defaultDepth
    maxSequenceGap := rules.maxSequenceGap }

/-- The book that `ensure_book` returns. -/
def LocalL2Runtime.ensureBook (runtime : LocalL2Runtime) (venue symbol : String) : LocalL2Book :=
  (runtime.getBook venue symbol).getD (freshBook venue symbol)

def LocalL2Runtime.putBook (runtime : LocalL2Runtime) (venue symbol : String)
    (book : LocalL2Book) : LocalL2Runtime :=
  { runtime with books := runtime.books.insert ⟨venue, symbol⟩ book }

@[simp] theorem get_put_book (runtime : LocalL2Runtime) (venue symbol : String)
    (book : LocalL2Book) : (runtime.putBook venue symbol book).getBook venue symbol = some book := by
  simp [LocalL2Runtime.putBook, LocalL2Runtime.getBook]

@[simp] theorem ensure_put_book (runtime : LocalL2Runtime) (venue symbol : String)
    (book : LocalL2Book) : (runtime.putBook venue symbol book).ensureBook venue symbol = book := by
  rw [LocalL2Runtime.ensureBook, get_put_book, Option.getD_some]

/-- A bounded queue drops its oldest events. -/
def LocalL2Runtime.enqueueEvents (runtime : LocalL2Runtime) (events : List LocalL2Event) :
    LocalL2Runtime :=
  let queued := runtime.pendingEvents ++ events
  { runtime with pendingEvents := queued.drop (queued.length - runtime.maxEvents) }

/-- What a fault does to its book. -/
def faultBook (book : LocalL2Book) (fault : RuntimeFaultKind) (detail : FaultReason)
    (resumeAtMs : Int) : LocalL2Book :=
  match fault with
  | .rateLimited => { book with faultReason := some (.labelled "rate_limited" detail) }
  | .transportFailure => { book with faultReason := some (.labelled "transport_failure" detail) }
  | .checksumMismatch => { book with faultReason := some (.labelled "checksum_mismatch" detail) }
  | .sequenceGap => { book with faultReason := some (.labelled "sequence_gap" detail) }
  | .quoteAgeTriggered => book.transitionToDegraded (.labelled "quote_age" detail)
  | .resumeExpired => { book with faultReason := some (.labelled "resume_expired" detail) }
  | .budgetSuspended => book.transitionToSuspended (.text "budget")
  | .runtimeSuspended =>
    { book with runtimeSuspendedUntilMs := resumeAtMs }.transitionToSuspended (.text "runtime")

def countFault (metrics : LocalL2RuntimeMetrics) (fault : RuntimeFaultKind) :
    LocalL2RuntimeMetrics :=
  match fault with
  | .rateLimited =>
    { metrics with runtimeRateLimitedTotal := metrics.runtimeRateLimitedTotal + 1 }
  | .transportFailure =>
    { metrics with runtimeTransportFailureTotal := metrics.runtimeTransportFailureTotal + 1 }
  | .checksumMismatch | .sequenceGap => { metrics with rebuildTotal := metrics.rebuildTotal + 1 }
  | .quoteAgeTriggered => metrics
  | .resumeExpired => { metrics with resumeExpiredTotal := metrics.resumeExpiredTotal + 1 }
  | .budgetSuspended => { metrics with budgetSuspendedTotal := metrics.budgetSuspendedTotal + 1 }
  | .runtimeSuspended => { metrics with runtimeSuspendedTotal := metrics.runtimeSuspendedTotal + 1 }

def LocalL2Runtime.handleRuntimeFailure (runtime : LocalL2Runtime) (venue symbol : String)
    (fault : RuntimeFaultKind) (detail : FaultReason) (nowMs : Int) : LocalL2Runtime :=
  let book := faultBook (runtime.ensureBook venue symbol) fault detail
    (nowMs + runtime.resumeTimeoutMs)
  { runtime.putBook venue symbol book with metrics := countFault runtime.metrics fault }

@[simp] theorem ensure_enqueue (runtime : LocalL2Runtime) (events : List LocalL2Event)
    (venue symbol : String) :
    (runtime.enqueueEvents events).ensureBook venue symbol = runtime.ensureBook venue symbol := rfl

@[simp] theorem ensure_failure (runtime : LocalL2Runtime) (venue symbol : String)
    (fault : RuntimeFaultKind) (detail : FaultReason) (nowMs : Int) :
    (runtime.handleRuntimeFailure venue symbol fault detail nowMs).ensureBook venue symbol =
      faultBook (runtime.ensureBook venue symbol) fault detail (nowMs + runtime.resumeTimeoutMs) :=
  ensure_put_book runtime venue symbol _

/-! ## Recording one update -/

/-- What a recorded update does to its own book, with the fault to report. -/
structure BookOutcome where
  book : LocalL2Book
  result : LocalL2UpdateResult
  failure : Option (RuntimeFaultKind × FaultReason) := none
deriving DecidableEq

/-- The book is emptied at a sequence boundary. -/
def markSequenceBoundaryRebuild (book : LocalL2Book) (reason : String) : BookOutcome :=
  { book := { book with
      bids := [], asks := [], sequence := 0, lastUpdateId := 0, rawChecksumBids := []
      rawChecksumAsks := [], pendingSnapshotBridge := false
      faultReason := some (.text reason) }.transitionToRebuilding
    result := { faultReason := some (.text reason), rebuildRequired := true }
    failure := some (.sequenceGap, .text reason) }

/-- A delta without a link is still trusted when its checksum confirms it. -/
def bitgetMissingPrevSequenceAdmissible (book : LocalL2Book) (update : LocalL2Update) : Bool :=
  if update.checksum = 0 ∨ update.sequence ≤ book.sequence then false
  else if !(book.pendingSnapshotBridge || book.status = .hot) then false
  else if book.rawChecksumBids = [] ∧ book.rawChecksumAsks = [] then false
  else
    let candidate : LocalL2Book :=
      { venue := book.venue, symbol := book.symbol
        rawChecksumBids := book.rawChecksumBids, rawChecksumAsks := book.rawChecksumAsks }
    (candidate.applyRawChecksumUpdate update.rawBids update.rawAsks .delta).computeRawChecksum
      = update.checksum

/-- Bitget's continuity rule, before the book is touched. -/
def preflightVenueUpdate (book : LocalL2Book) (update : LocalL2Update) : Option BookOutcome :=
  if update.venue ≠ "bitget" ∨ update.updateKind ≠ .delta then none
  else if book.sequence ≤ 0 ∨ update.sequence ≤ 0 then none
  else if update.previousSequencePresent ∧ update.previousSequence = 0 then
    some (markSequenceBoundaryRebuild book "bitget_pseq_zero_snapshot_boundary")
  else if update.sequence ≤ book.sequence then
    some { book := book
           result := { faultReason := some (.staleUpdateSequence book.sequence update.sequence) } }
  else if !update.previousSequencePresent then
    if bitgetMissingPrevSequenceAdmissible book update then none
    else some (markSequenceBoundaryRebuild book "bitget_missing_prev_sequence")
  else if update.previousSequence ≠ book.sequence then
    if book.pendingSnapshotBridge ∧ update.previousSequence ≤ book.sequence ∧
        book.sequence ≤ update.sequence then none
    else some (markSequenceBoundaryRebuild book "bitget_previous_link_mismatch")
  else none

/-- A source timestamp never lies after its local receipt. -/
def effectiveTimeMs (update : LocalL2Update) (nowMs : Int) : Int :=
  let receivedAtMs := if 0 < update.receivedAtMs then update.receivedAtMs else nowMs
  let effectiveMs := if 0 < update.eventTimeMs then update.eventTimeMs else receivedAtMs
  if 0 < receivedAtMs ∧ receivedAtMs < effectiveMs then receivedAtMs else effectiveMs

/-- The previous link the book sees: an overlapping range replaces a stale link. -/
def runtimePreviousSequence (book : LocalL2Book) (update : LocalL2Update) : Int :=
  let firstSequence := if 0 < update.firstSequence then update.firstSequence else update.sequence
  if (policyForVenue update.venue).allowsOverlappingPreviousLink ∧ 0 < book.sequence ∧
      update.previousSequence ≠ book.sequence ∧
      sequenceRangeOverlapsExpected firstSequence update.sequence (book.sequence + 1) then
    book.sequence
  else update.previousSequence

def applyUpdate (book : LocalL2Book) (update : LocalL2Update) (nowMs : Int) :
    LocalL2Book × LocalL2UpdateResult :=
  if update.updateKind = .snapshot then
    book.applySnapshot update.bids update.asks update.sequence update.checksum
      (effectiveTimeMs update nowMs)
  else
    book.applyDelta update.bids update.asks update.sequence (runtimePreviousSequence book update)
      (effectiveTimeMs update nowMs)

def updateRawChecksumBook (book : LocalL2Book) (update : LocalL2Update) : LocalL2Book :=
  if update.rawBids ≠ [] ∨ update.rawAsks ≠ [] then
    book.applyRawChecksumUpdate update.rawBids update.rawAsks update.updateKind
  else book

/-- Verification by the venue's rules; a mismatch empties the texts and asks for
a rebuild. -/
def verifyVenueChecksum (book : LocalL2Book) (update : LocalL2Update)
    (result : LocalL2UpdateResult) (nowMs : Int) : LocalL2Book × LocalL2UpdateResult :=
  if (getVenueRules update.venue).shouldVerifyChecksum ∧ update.checksum ≠ 0 then
    let checked :=
      if update.rawBids ≠ [] ∨ update.rawAsks ≠ [] ∨ book.rawChecksumBids ≠ [] ∨
          book.rawChecksumAsks ≠ [] then book.verifyRawChecksum update.checksum nowMs
      else book.verifyChecksum update.checksum nowMs
    if checked.faultReason.isSome then
      (book.dropRawChecksum, { checked with rebuildRequired := true })
    else (book, { result with events := result.events ++ checked.events })
  else (book, result)

/-- A Bitget snapshot opens the bridge to its first delta; a delta closes it. -/
def armSnapshotBridge (book : LocalL2Book) (update : LocalL2Update) (result : LocalL2UpdateResult) :
    LocalL2Book :=
  if update.venue = "bitget" ∧ result.applied ∧ !result.rebuildRequired then
    { book with pendingSnapshotBridge := update.updateKind = .snapshot ∧ 0 < update.sequence }
  else book

/-- A result that requires a rebuild is reported as a fault. -/
def reportRebuild (book : LocalL2Book) (result : LocalL2UpdateResult) : BookOutcome :=
  if result.rebuildRequired then
    let reason := result.faultReason.getD (.text "rebuild_required")
    { book := book.transitionToRebuilding, result := result
      failure := some (if reason.mentionsChecksum then .checksumMismatch else .sequenceGap, reason) }
  else { book := book, result := result }

/-- The book after an update and its texts, before verification. -/
def withTexts (book : LocalL2Book) (update : LocalL2Update) (nowMs : Int) : LocalL2Book :=
  if (applyUpdate book update nowMs).2.applied ∧ !(applyUpdate book update nowMs).2.rebuildRequired
  then updateRawChecksumBook (applyUpdate book update nowMs).1 update
  else (applyUpdate book update nowMs).1

/-- Everything after the preflight. -/
def recordAdmitted (book : LocalL2Book) (update : LocalL2Update) (nowMs : Int) : BookOutcome :=
  let (verified, result) := verifyVenueChecksum (withTexts book update nowMs) update
    (applyUpdate book update nowMs).2 nowMs
  reportRebuild (armSnapshotBridge verified update result) result

def recordOnBook (book : LocalL2Book) (update : LocalL2Update) (nowMs : Int) : BookOutcome :=
  (preflightVenueUpdate book update).getD (recordAdmitted book update nowMs)

def LocalL2Runtime.recordUpdateResult (runtime : LocalL2Runtime) (update : LocalL2Update)
    (nowMs : Int) : LocalL2Runtime × LocalL2UpdateResult :=
  let outcome := recordOnBook (runtime.ensureBook update.venue update.symbol) update nowMs
  let recorded := (runtime.putBook update.venue update.symbol outcome.book).enqueueEvents
    outcome.result.events
  match outcome.failure with
  | none => (recorded, outcome.result)
  | some (fault, reason) =>
    (recorded.handleRuntimeFailure update.venue update.symbol fault reason nowMs, outcome.result)

end LightFee.MarketData
