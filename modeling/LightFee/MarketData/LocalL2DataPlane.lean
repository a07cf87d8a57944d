import LightFee.MarketData.LocalL2Runtime

/-!
# The local-L2 data plane

While a REST snapshot is in flight the data plane buffers the deltas of the
current stream. An accepted snapshot arms a one-time overlap marker and then
replays the buffer over the loaded book. The live path instead checks every
delta against the book before it records it. Journal entries and websocket
reconnects do not influence a book and are not part of the model; neither is the
diagnostic half of a failure's evidence.
-/

namespace LightFee.MarketData

structure BufferedUpdate where
  generation : Int
  observedAtMs : Int
  update : LocalL2Update
deriving DecidableEq

/-- The evidence of a failed replay that its caller reads. -/
structure ReplayFailure where
  reason : FaultReason
  rebuildAttemptId : Nat
  failureCount : Nat
  snapshotLastUpdateId : Int
  expectedPreviousSequence : Int
  bufferedCount : Nat
  filteredCount : Nat
  failureUpdate : Option LocalL2Update
  replayed : Nat
  replayIndex : Int
  statusBefore : L2BookStatus
  statusAfter : L2BookStatus
deriving DecidableEq

/-- `applied` names the buffered updates that the runtime applied, oldest first;
the source only counts them. -/
structure BufferedReplayResult where
  ok : Bool := true
  applied : List LocalL2Update := []
  failureEvidence : Option ReplayFailure := none
deriving DecidableEq

/-- Book keys stand for the source's `venue:symbol` texts. -/
structure LocalL2DataPlane where
  runtime : LocalL2Runtime := {}
  preSnapshotBuffers : OrderedDict LocalL2BookKey (List BufferedUpdate) := .empty
  streamGenerations : OrderedDict LocalL2BookKey Int := .empty
  initialSnapshotOverlapSequences : OrderedDict LocalL2BookKey Int := .empty
  bufferedReplayFailureCounts : OrderedDict LocalL2BookKey Nat := .empty
  rebuildAttemptIds : OrderedDict LocalL2BookKey Nat := .empty

namespace LocalL2DataPlane

def book (plane : LocalL2DataPlane) (key : LocalL2BookKey) : LocalL2Book :=
  plane.runtime.ensureBook key.venue key.symbol

def overlapMarker (plane : LocalL2DataPlane) (key : LocalL2BookKey) : Option Int :=
  plane.initialSnapshotOverlapSequences.find? key

def popOverlapMarker (plane : LocalL2DataPlane) (key : LocalL2BookKey) : LocalL2DataPlane :=
  { plane with
    initialSnapshotOverlapSequences := plane.initialSnapshotOverlapSequences.erase key }

def setBook (plane : LocalL2DataPlane) (key : LocalL2BookKey) (book : LocalL2Book) :
    LocalL2DataPlane :=
  { plane with runtime := plane.runtime.putBook key.venue key.symbol book }

/-- The current generation starts at one. -/
def currentStreamGeneration (plane : LocalL2DataPlane) (key : LocalL2BookKey) : Int :=
  (plane.streamGenerations.find? key).getD 1

def nextRebuildAttemptId (plane : LocalL2DataPlane) (key : LocalL2BookKey) : Nat :=
  (plane.rebuildAttemptIds.find? key).getD 0 + 1

end LocalL2DataPlane

/-- First exchange id of an update: its own, else the one after its link, else its last. -/
def rangeStart (update : LocalL2Update) : Int :=
  if 0 < update.firstSequence then update.firstSequence
  else if 0 < update.previousSequence then update.previousSequence + 1
  else update.sequence

def hasLink (update : LocalL2Update) : Bool :=
  update.previousSequencePresent || 0 < update.previousSequence

/-! ## The one-time overlap after a REST snapshot -/

/-- The delta that overlaps the armed snapshot is linked to it. -/
def normalizeOverlap (bookSequence : Int) (update : LocalL2Update) : LocalL2Update :=
  let firstSequence :=
    if update.firstSequence ≤ 0 then update.previousSequence + 1 else update.firstSequence
  if update.updateKind ≠ .delta ∨ update.sequence ≤ bookSequence ∨ !hasLink update ∨
      update.previousSequence = bookSequence then update
  else if !sequenceRangeOverlapsExpected firstSequence update.sequence (bookSequence + 1) then
    update
  else { update with previousSequence := bookSequence, previousSequencePresent := true }

/-- A marker that no longer names the book's sequence is dropped. -/
def LocalL2DataPlane.normalizeInitialSnapshotOverlap (plane : LocalL2DataPlane)
    (update : LocalL2Update) : LocalL2DataPlane × LocalL2Update :=
  let key : LocalL2BookKey := ⟨update.venue, update.symbol⟩
  let bookSequence := (plane.book key).sequence
  match plane.overlapMarker key with
  | none => (plane, update)
  | some marked =>
    if marked ≠ bookSequence then (plane.popOverlapMarker key, update)
    else (plane, normalizeOverlap bookSequence update)

/-! ## The live path's continuity check -/

/-- Forget the book's position and ask for a rebuild. -/
def LocalL2DataPlane.markRebuilding (plane : LocalL2DataPlane) (key : LocalL2BookKey)
    (reason : FaultReason) (nowMs : Int) : LocalL2DataPlane :=
  let book := { plane.book key with
    sequence := 0, lastUpdateId := 0, faultReason := some reason }.transitionToRebuilding
  let marked := (plane.popOverlapMarker key).setBook key book
  { marked with
    rebuildAttemptIds := marked.rebuildAttemptIds.insert key (plane.nextRebuildAttemptId key)
    runtime := marked.runtime.handleRuntimeFailure key.venue key.symbol .sequenceGap reason nowMs }

/-! ## Buffered replay -/

/-- What stays fixed during one replay. -/
structure ReplayContext where
  key : LocalL2BookKey
  nowMs : Int
  snapshotSequence : Int
  bufferedCount : Nat
  filteredCount : Nat
deriving DecidableEq

structure ReplayState where
  plane : LocalL2DataPlane
  previousSequence : Int
  applied : List LocalL2Update := []

inductive ReplayStep where
  | next (state : ReplayState)
  | failed (state : ReplayState) (reason : FaultReason)

def markRebuildingFromBufferedReplayFailure (context : ReplayContext) (state : ReplayState)
    (reason : FaultReason) (failureUpdate : Option LocalL2Update) (replayIndex : Int) :
    LocalL2DataPlane × BufferedReplayResult :=
  let plane := state.plane
  let failureCount := (plane.bufferedReplayFailureCounts.find? context.key).getD 0 + 1
  let marked := plane.markRebuilding context.key reason context.nowMs
  ({ marked with
      bufferedReplayFailureCounts :=
        marked.bufferedReplayFailureCounts.insert context.key failureCount },
    { ok := false
      applied := state.applied
      failureEvidence := some
        { reason := reason
          rebuildAttemptId := plane.nextRebuildAttemptId context.key
          failureCount := failureCount
          snapshotLastUpdateId := context.snapshotSequence
          expectedPreviousSequence := state.previousSequence
          bufferedCount := context.bufferedCount
          filteredCount := context.filteredCount
          failureUpdate := failureUpdate
          replayed := state.applied.length
          replayIndex := replayIndex
          statusBefore := (plane.book context.key).status
          statusAfter := (marked.book context.key).status } })

/-- Record one update; `applied` counts the buffered original. -/
def recordReplayed (state : ReplayState) (buffered : BufferedUpdate) (replayUpdate : LocalL2Update)
    (popMarker : Bool) (key : LocalL2BookKey) : ReplayStep :=
  let (runtime, result) :=
    state.plane.runtime.recordUpdateResult replayUpdate buffered.observedAtMs
  let plane := { state.plane with runtime := runtime }
  if result.rebuildRequired then
    .failed { state with plane := plane }
      (result.faultReason.getD (.text "buffered_replay_apply_failed"))
  else if result.applied then
    .next { plane := if popMarker then plane.popOverlapMarker key else plane
            previousSequence := replayUpdate.sequence
            applied := state.applied ++ [buffered.update] }
  else .next { state with plane := plane }

/-- One buffered update of a venue that replays by range and previous link. -/
def replayRanged (context : ReplayContext) (atStart : Bool) (state : ReplayState)
    (buffered : BufferedUpdate) : ReplayStep :=
  let (plane, replayUpdate) := state.plane.normalizeInitialSnapshotOverlap buffered.update
  let normalized := { state with plane := plane }
  if replayUpdate.sequence ≤ state.previousSequence then .next normalized
  else
    let expected := context.snapshotSequence + 1
    let hasPreviousLink : Bool := hasLink replayUpdate && 0 < replayUpdate.previousSequence
    let overlapsExpected := sequenceRangeOverlapsExpected (rangeStart replayUpdate)
      replayUpdate.sequence (state.previousSequence + 1)
    let acceptsOverlap :=
      (policyForVenue context.key.venue).allowsOverlappingPreviousLink && overlapsExpected
    let boundary := FaultReason.expectedGot "buffered_replay_snapshot_boundary" expected
      (replayUpdate.previousSequence + 1)
    let mismatch := FaultReason.expectedGot "buffered_replay_previous_link_mismatch"
      state.previousSequence replayUpdate.previousSequence
    if hasPreviousLink ∧ replayUpdate.previousSequence ≠ state.previousSequence ∧
        !acceptsOverlap then
      .failed normalized
        (if atStart ∧ expected < replayUpdate.previousSequence + 1 ∧ !acceptsOverlap then boundary
         else mismatch)
    else if atStart ∧ hasPreviousLink ∧ expected < replayUpdate.previousSequence + 1 ∧
        !acceptsOverlap then
      .failed normalized boundary
    else recordReplayed normalized buffered replayUpdate true context.key

/-- One buffered update of the venue whose links are classified. -/
def replayClassified (context : ReplayContext) (state : ReplayState)
    (buffered : BufferedUpdate) : ReplayStep :=
  let update := buffered.update
  match (policyForVenue context.key.venue).classifyReplayLink state.previousSequence update.sequence
      update.previousSequence update.bids.length update.asks.length with
  | .obsolete => .next state
  | .invalid =>
    .failed state (.labelled "buffered_replay_invalid_link"
      (.expectedGot "link" state.previousSequence update.previousSequence))
  | _ => recordReplayed state buffered update false context.key

/-- The replay loop: stop at the first failure. -/
def replayLoop (context : ReplayContext) (step : Bool → ReplayState → BufferedUpdate → ReplayStep) :
    Bool → Int → ReplayState → List BufferedUpdate → LocalL2DataPlane × BufferedReplayResult
  | _, _, state, [] => (state.plane, { applied := state.applied })
  | atStart, index, state, buffered :: rest =>
    match step atStart state buffered with
    | .next next => replayLoop context step false (index + 1) next rest
    | .failed failed reason =>
      markRebuildingFromBufferedReplayFailure context failed reason (some buffered.update) index

/-- The update bridges a snapshot at this sequence to the stream. -/
def bridgesSnapshot (snapshotSequence : Int) (update : LocalL2Update) : Bool :=
  (rangeStart update ≤ snapshotSequence ∧ snapshotSequence ≤ update.sequence) ∨
    (rangeStart update ≤ snapshotSequence + 1 ∧ snapshotSequence + 1 ≤ update.sequence) ∨
    (hasLink update ∧ update.previousSequence = snapshotSequence)

/-- Leading updates that the snapshot already covers are dropped. -/
def uncovered (snapshotSequence : Int) (buffer : List BufferedUpdate) : List BufferedUpdate :=
  buffer.dropWhile (fun buffered => buffered.update.sequence ≤ snapshotSequence)

/-- What is left to replay: from the first uncovered update that bridges the snapshot. -/
def replayWindow (snapshotSequence : Int) (buffer : List BufferedUpdate) : List BufferedUpdate :=
  (uncovered snapshotSequence buffer).dropWhile (fun buffered =>
    !bridgesSnapshot snapshotSequence buffered.update)

/-- Buffered updates of the stream's current generation. -/
def LocalL2DataPlane.currentBuffer (plane : LocalL2DataPlane) (key : LocalL2BookKey) :
    List BufferedUpdate :=
  ((plane.preSnapshotBuffers.find? key).getD []).filter (fun buffered =>
    decide (buffered.generation = plane.currentStreamGeneration key))

/-- The buffer is taken and the generation initialised, whatever the replay does. -/
def LocalL2DataPlane.takeBuffer (plane : LocalL2DataPlane) (key : LocalL2BookKey) :
    LocalL2DataPlane :=
  { plane with
    preSnapshotBuffers := plane.preSnapshotBuffers.erase key
    streamGenerations := plane.streamGenerations.insert key (plane.currentStreamGeneration key) }

def LocalL2DataPlane.replayBufferedUpdates (plane : LocalL2DataPlane) (key : LocalL2BookKey)
    (nowMs : Int) : LocalL2DataPlane × BufferedReplayResult :=
  let buffer := (plane.preSnapshotBuffers.find? key).getD []
  let popped := { plane with preSnapshotBuffers := plane.preSnapshotBuffers.erase key }
  if buffer = [] ∨ plane.runtime.getBook key.venue key.symbol = none then (popped, {})
  else
    let taken := plane.takeBuffer key
    let filtered := plane.currentBuffer key
    let snapshotSequence := (plane.book key).sequence
    let context (kept : List BufferedUpdate) : ReplayContext :=
      { key := key, nowMs := nowMs, snapshotSequence := snapshotSequence
        bufferedCount := buffer.length, filteredCount := kept.length }
    let start : ReplayState := { plane := taken, previousSequence := snapshotSequence }
    if filtered = [] then (taken, {})
    else if (policyForVenue key.venue).venue = "okx" then
      replayLoop (context filtered) (fun _ => replayClassified (context filtered)) true 0 start
        filtered
    else
      match uncovered snapshotSequence filtered with
      | [] => (taken, {})
      | first :: more =>
        let kept := first :: more
        let window := replayWindow snapshotSequence filtered
        if window = [] then
          markRebuildingFromBufferedReplayFailure (context kept) start
            (.text "buffered_replay_snapshot_boundary: no overlapping update")
            (some first.update) (-1)
        else
          replayLoop (context kept) (replayRanged (context kept)) true
            ((kept.length : Int) - (window.length : Int)) start window

/-- The tail of a REST bootstrap: record the snapshot, arm the overlap marker. -/
def LocalL2DataPlane.acceptRestSnapshot (plane : LocalL2DataPlane) (update : LocalL2Update)
    (nowMs : Int) : LocalL2DataPlane × LocalL2UpdateResult :=
  let key : LocalL2BookKey := ⟨update.venue, update.symbol⟩
  let (runtime, result) := plane.runtime.recordUpdateResult update nowMs
  let recorded := { plane with runtime := runtime }
  if !result.applied ∨ result.rebuildRequired then (recorded, result)
  else
    let sequence := (recorded.book key).sequence
    if (policyForVenue update.venue).replayRestSnapshotWithWsDeltas ∧ 0 < sequence then
      ({ recorded with
          initialSnapshotOverlapSequences :=
            recorded.initialSnapshotOverlapSequences.insert key sequence }, result)
    else (recorded.popOverlapMarker key, result)

end LightFee.MarketData
