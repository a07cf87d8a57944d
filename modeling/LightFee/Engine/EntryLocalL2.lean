import LightFee.MarketData.BookWalk
import LightFee.MarketData.LocalL2Runtime
import Mathlib.Data.List.Induction

/-!
# Sessions over local books

A tracked pair owns a session with one leg for each venue. A leg is ready on the strength of the
book of its own venue and symbol: each refresh reads the book again, and a leg that is not ready
there is faulted or armed. The session says which books an entry of its pair may execute against.

Texts for diagnostics, and the reasons for which a leg is armed, are read by nothing else and left
out.
-/

namespace LightFee.Engine

open LightFee.MarketData

/-! ## Legs -/

inductive TrackedOpportunityClass where
  | primary
  | shadow
deriving DecidableEq

inductive EntryLocalL2SessionState where
  | arming
  | ready
  | faulted
  | closed
deriving DecidableEq

inductive EntryLocalL2LegState where
  | arming
  | ready
  | faulted
deriving DecidableEq

inductive EntryLocalL2LegFault where
  | gateObuGap
  | okxPrevSeqMismatch
  | okxChecksumMismatch
  | hyperliquidDisconnect
  | crossedOrLockedBook
  | staleBook
  | runtimeSuspended
deriving DecidableEq

structure TrackedOpportunity where
  pairId : String
  symbol : String
  longVenue : String
  shortVenue : String
  rankingEdgeBps : ExactFloat
  classOf : TrackedOpportunityClass := .shadow
deriving DecidableEq

structure EntryLocalL2LegSession where
  venue : String
  symbol : String
  state : EntryLocalL2LegState := .arming
  lastSeenAtMs : Int := 0
  fault : Option EntryLocalL2LegFault := none
deriving DecidableEq

namespace EntryLocalL2LegSession

def isStale (leg : EntryLocalL2LegSession) (nowMs staleAfterMs : Int) : Bool :=
  if staleAfterMs ≤ 0 then false
  else if leg.lastSeenAtMs ≤ 0 then true
  else decide (staleAfterMs < nowMs - leg.lastSeenAtMs)

def isReady (leg : EntryLocalL2LegSession) (nowMs staleAfterMs : Int) : Bool :=
  leg.state == .ready && leg.fault.isNone && !leg.isStale nowMs staleAfterMs

def markReady (leg : EntryLocalL2LegSession) (seenAtMs : Int) : EntryLocalL2LegSession :=
  { leg with state := .ready, lastSeenAtMs := seenAtMs, fault := none }

def markFaulted (leg : EntryLocalL2LegSession) (fault : EntryLocalL2LegFault) (seenAtMs : Int) :
    EntryLocalL2LegSession :=
  { leg with
    state := .faulted
    fault := some fault
    lastSeenAtMs := if 0 < seenAtMs then seenAtMs else leg.lastSeenAtMs }

def markArming (leg : EntryLocalL2LegSession) : EntryLocalL2LegSession :=
  { leg with state := .arming, fault := none }

end EntryLocalL2LegSession

/-! ## Books -/

/-- `is_stale`. -/
def bookIsStale (book : LocalL2Book) (maxAgeMs nowMs : Int) : Bool :=
  if book.observedAtMs ≤ 0 then true else decide (maxAgeMs < nowMs - book.observedAtMs)

/-- `execution_snapshot_is_valid`. -/
def executionSnapshotIsValid (book : LocalL2Book) (maxAgeMs nowMs : Int) : Bool :=
  !bookIsStale book maxAgeMs nowMs && book.hasValidExecutionStructure

/-- `has_crossed_book`. -/
def hasCrossedBook (book : LocalL2Book) : Bool :=
  decide (0 < book.bestBid) && decide (0 < book.bestAsk) && decide (book.bestAsk ≤ book.bestBid)

def bookStatusValue : L2BookStatus → String
  | .cold => "cold"
  | .bootstrapping => "bootstrapping"
  | .hot => "hot"
  | .degraded => "degraded"
  | .rebuilding => "rebuilding"
  | .suspended => "suspended"
  | .resumeWaiting => "resume_waiting"

/-- A book with this status is waited for. -/
def bookIsArming (status : L2BookStatus) : Bool :=
  [.bootstrapping, .cold, .rebuilding, .resumeWaiting].contains status

/-- `apply_book_readiness_to_leg`: the leg, and the reason that the diagnostics name. -/
def applyBookReadinessToLeg (leg : EntryLocalL2LegSession) (book : Option LocalL2Book)
    (nowMs staleAfterMs : Int) : EntryLocalL2LegSession × String :=
  match book with
  | none => (leg.markArming, "book_missing")
  | some book =>
    if bookIsArming book.status then (leg.markArming, "book_" ++ bookStatusValue book.status)
    else if book.status = .suspended then
      (leg.markFaulted .runtimeSuspended book.observedAtMs, "book_suspended")
    else if book.observedAtMs ≤ 0 then (leg.markFaulted .staleBook 0, "book_timestamp_missing")
    else if 0 < staleAfterMs ∧ bookIsStale book staleAfterMs nowMs = true then
      (leg.markFaulted .staleBook book.observedAtMs, "stale_book")
    else if hasCrossedBook book = true ∨ (book.bestAsk ≤ book.bestBid ∧ 0 < book.bestAsk) then
      (leg.markFaulted .crossedOrLockedBook book.observedAtMs, "crossed_or_locked_book")
    else if executionSnapshotIsValid book staleAfterMs nowMs = false then
      (leg.markFaulted .runtimeSuspended book.observedAtMs, "book_invalid_execution_structure")
    -- every status but hot and degraded was answered above
    else if book.bestBid ≤ 0 ∨ book.bestAsk ≤ 0 then
      (leg.markFaulted .staleBook book.observedAtMs, "book_empty_side")
    else (leg.markReady book.observedAtMs, "ready")

/-! ## Sessions -/

structure EntryLocalL2Session where
  pairId : String
  state : EntryLocalL2SessionState := .arming
  /-- By venue. -/
  legs : OrderedDict String EntryLocalL2LegSession := .empty
  primaryAssignedAtMs : Int := 0
  shadowPromotedAtMs : Int := 0

namespace EntryLocalL2Session

def ensureLeg (session : EntryLocalL2Session) (venue symbol : String) : EntryLocalL2Session :=
  if venue ∈ session.legs.keys then session
  else { session with legs := session.legs.insert venue { venue := venue, symbol := symbol } }

def bothLegsReady (session : EntryLocalL2Session) (nowMs staleAfterMs : Int) : Bool :=
  decide (2 ≤ session.legs.keys.length) &&
    session.legs.values.all fun leg => leg.isReady nowMs staleAfterMs

/-- `refresh_state`: one faulted leg faults the session. -/
def refreshState (session : EntryLocalL2Session) (nowMs staleAfterMs : Int) :
    EntryLocalL2Session :=
  if session.state = .closed then session
  else if session.bothLegsReady nowMs staleAfterMs then { session with state := .ready }
  else if session.legs.values.any fun leg => leg.state == .faulted then
    { session with state := .faulted }
  else { session with state := .arming }

/-- Each leg by the book of its venue and symbol. -/
def readBooks (session : EntryLocalL2Session) (books : LocalL2Runtime) (nowMs staleAfterMs : Int) :
    EntryLocalL2Session :=
  { session with legs := session.legs.mapEntries fun _ leg =>
      (applyBookReadinessToLeg leg (books.getBook leg.venue leg.symbol) nowMs staleAfterMs).1 }

end EntryLocalL2Session

/-! ## The recent primaries -/

/-- `min`. -/
def leastText (first : String) (rest : List String) : String :=
  rest.foldl (fun least text => if text < least then text else least) first

/-- The least ones leave until no more than 64 stay; each turn removes one. -/
def evictLeast : Nat → List String → List String
  | 0, ids => ids
  | _ + 1, [] => []
  | turns + 1, first :: rest =>
    if rest.length < 64 then first :: rest
    else evictLeast turns ((first :: rest).erase (leastText first rest))

theorem leastText_mem (first : String) (rest : List String) :
    leastText first rest ∈ first :: rest := by
  induction rest generalizing first with
  | nil => exact List.mem_cons_self
  | cons next rest ih =>
    rw [leastText, List.foldl_cons]
    have found := ih (if next < first then next else first)
    rw [leastText, List.mem_cons] at found
    obtain same | later := found
    · rw [same]
      split_ifs
      · exact List.mem_cons_of_mem _ List.mem_cons_self
      · exact List.mem_cons_self
    · exact List.mem_cons_of_mem _ (List.mem_cons_of_mem _ later)

theorem evictLeast_sublist (turns : Nat) (ids : List String) :
    (evictLeast turns ids).Sublist ids := by
  induction turns generalizing ids with
  | zero => exact List.Sublist.refl ids
  | succ turns ih =>
    cases ids with
    | nil => exact List.Sublist.refl []
    | cons first rest =>
      rw [evictLeast]
      split_ifs
      · exact List.Sublist.refl _
      · exact (ih _).trans List.erase_sublist

theorem evictLeast_bounded (turns : Nat) (ids : List String) (enough : ids.length ≤ 64 + turns) :
    (evictLeast turns ids).length ≤ 64 := by
  induction turns generalizing ids with
  | zero => exact enough
  | succ turns ih =>
    cases ids with
    | nil => exact Nat.zero_le _
    | cons first rest =>
      rw [evictLeast]
      split_ifs with few
      · exact few
      · apply ih
        rw [List.length_erase_of_mem (leastText_mem first rest)]
        rw [List.length_cons] at enough
        exact Nat.le_of_succ_le_succ enough

/-- The sticky pairs: a set that holds 64. -/
structure StickyPairs where
  ids : List String
  distinct : ids.Nodup
  bounded : ids.length ≤ 64

namespace StickyPairs

def empty : StickyPairs := ⟨[], List.nodup_nil, by decide⟩

/-- `mark_sticky_prewarm`. -/
def mark (sticky : StickyPairs) (pairId : String) : StickyPairs where
  ids := evictLeast (sticky.ids.insert pairId).length (sticky.ids.insert pairId)
  distinct := (sticky.distinct.insert).sublist (evictLeast_sublist _ _)
  bounded := evictLeast_bounded _ _ (Nat.le_add_left _ _)

def discard (sticky : StickyPairs) (pairId : String) : StickyPairs where
  ids := sticky.ids.erase pairId
  distinct := sticky.distinct.erase pairId
  bounded := (List.erase_sublist.length_le).trans sticky.bounded

end StickyPairs

/-! ## The runtime -/

structure EntryLocalL2SessionRuntime where
  sessions : OrderedDict String EntryLocalL2Session := .empty
  stickyPairIds : StickyPairs := .empty

namespace EntryLocalL2SessionRuntime

def session (runtime : EntryLocalL2SessionRuntime) (pairId : String) : EntryLocalL2Session :=
  (runtime.sessions.find? pairId).getD { pairId := pairId }

/-- `track_pair`. -/
def trackPair (runtime : EntryLocalL2SessionRuntime)
    (pairId longVenue shortVenue symbol : String) (nowMs : Int) (primary demotePrimary : Bool) :
    EntryLocalL2SessionRuntime :=
  let session := ((runtime.session pairId).ensureLeg longVenue symbol).ensureLeg shortVenue symbol
  if primary then
    let assignedAtMs :=
      if session.primaryAssignedAtMs ≤ 0 then nowMs else session.primaryAssignedAtMs
    { sessions :=
        runtime.sessions.insert pairId { session with primaryAssignedAtMs := assignedAtMs }
      stickyPairIds := runtime.stickyPairIds.mark pairId }
  else
    let assignedAtMs := if demotePrimary then 0 else session.primaryAssignedAtMs
    { runtime with
      sessions :=
        runtime.sessions.insert pairId { session with primaryAssignedAtMs := assignedAtMs } }

/-- `track_opportunity`. -/
def trackOpportunity (runtime : EntryLocalL2SessionRuntime) (opportunity : TrackedOpportunity)
    (nowMs : Int) : EntryLocalL2SessionRuntime :=
  runtime.trackPair opportunity.pairId opportunity.longVenue opportunity.shortVenue
    opportunity.symbol nowMs (opportunity.classOf == .primary) (opportunity.classOf == .shadow)

/-- `ready_pair_legs`. -/
def readyPairLegs (runtime : EntryLocalL2SessionRuntime)
    (pairId longVenue shortVenue symbol : String) (nowMs staleAfterMs : Int) :
    Option (EntryLocalL2LegSession × EntryLocalL2LegSession) :=
  match runtime.sessions.find? pairId with
  | none => none
  | some session =>
    if session.bothLegsReady nowMs staleAfterMs = false then none
    else
      match session.legs.find? longVenue, session.legs.find? shortVenue with
      | some longLeg, some shortLeg =>
        if longLeg.symbol ≠ symbol ∨ shortLeg.symbol ≠ symbol then none
        else some (longLeg, shortLeg)
      | _, _ => none

/-- `close_missing`. -/
def closeMissing (runtime : EntryLocalL2SessionRuntime) (activePairIds : List String) :
    EntryLocalL2SessionRuntime :=
  { runtime with sessions := runtime.sessions.filter fun pairId _ =>
      activePairIds.contains pairId || runtime.stickyPairIds.ids.contains pairId }

/-- `remove_session`. -/
def removeSession (runtime : EntryLocalL2SessionRuntime) (pairId : String) :
    EntryLocalL2SessionRuntime where
  sessions := runtime.sessions.erase pairId
  stickyPairIds := runtime.stickyPairIds.discard pairId

/-- `_refresh_entry_l2_session_readiness`. -/
def refreshReadiness (runtime : EntryLocalL2SessionRuntime) (books : LocalL2Runtime)
    (nowMs staleAfterMs : Int) : EntryLocalL2SessionRuntime :=
  { runtime with sessions := runtime.sessions.mapEntries fun _ session =>
      (session.readBooks books nowMs staleAfterMs).refreshState nowMs staleAfterMs }

end EntryLocalL2SessionRuntime

/-! ## Runs -/

/-- What is done to the sessions. -/
inductive SessionStep where
  | track (opportunity : TrackedOpportunity) (nowMs : Int)
  | trackPending (pairId longVenue shortVenue symbol : String) (nowMs : Int)
  | closeMissing (activePairIds : List String)
  | remove (pairId : String)
  | clear
  | refresh (books : LocalL2Runtime) (nowMs staleAfterMs : Int)

def SessionStep.apply (runtime : EntryLocalL2SessionRuntime) :
    SessionStep → EntryLocalL2SessionRuntime
  | .track opportunity nowMs => runtime.trackOpportunity opportunity nowMs
  | .trackPending pairId longVenue shortVenue symbol nowMs =>
    runtime.trackPair pairId longVenue shortVenue symbol nowMs false false
  | .closeMissing activePairIds => runtime.closeMissing activePairIds
  | .remove pairId => runtime.removeSession pairId
  | .clear => {}
  | .refresh books nowMs staleAfterMs => runtime.refreshReadiness books nowMs staleAfterMs

def runSessions (steps : List SessionStep) : EntryLocalL2SessionRuntime :=
  steps.foldl SessionStep.apply {}

/-- A book with one level on each side. -/
def narrowBook (venue : String) : LocalL2Book where
  venue := venue
  symbol := "BTCUSDT"
  bids := [⟨99, 1⟩]
  asks := [⟨101, 1⟩]
  status := .hot
  observedAtMs := 1000

def narrowBooks : LocalL2Runtime where
  books := (OrderedDict.empty.insert ⟨"binance", "BTCUSDT"⟩ (narrowBook "binance")).insert
    ⟨"okx", "BTCUSDT"⟩ (narrowBook "okx")

/-! ## How many sessions stay -/

/-- The steps that may open a session. -/
def SessionStep.opens : SessionStep → Bool
  | .track _ _ => true
  | .trackPending _ _ _ _ _ => true
  | _ => false

theorem keys_trackPair (runtime : EntryLocalL2SessionRuntime)
    (pairId longVenue shortVenue symbol : String) (nowMs : Int) (primary demotePrimary : Bool) :
    (runtime.trackPair pairId longVenue shortVenue symbol nowMs primary
      demotePrimary).sessions.keys =
      if pairId ∈ runtime.sessions.keys then runtime.sessions.keys
      else runtime.sessions.keys ++ [pairId] := by
  rw [EntryLocalL2SessionRuntime.trackPair]
  split_ifs
  all_goals rw [OrderedDict.keys_insert]; simp_all

/-- A step adds one session at most, and only by tracking a pair. -/
theorem step_keys (runtime : EntryLocalL2SessionRuntime) (step : SessionStep) :
    (step.apply runtime).sessions.keys.length ≤
      runtime.sessions.keys.length + if step.opens then 1 else 0 := by
  have tracked : ∀ pairId longVenue shortVenue symbol nowMs primary demotePrimary,
      (runtime.trackPair pairId longVenue shortVenue symbol nowMs primary
        demotePrimary).sessions.keys.length ≤ runtime.sessions.keys.length + 1 := by
    intro pairId longVenue shortVenue symbol nowMs primary demotePrimary
    rw [keys_trackPair]
    split_ifs <;> simp
  cases step with
  | track opportunity nowMs => exact tracked _ _ _ _ _ _ _
  | trackPending pairId longVenue shortVenue symbol nowMs => exact tracked _ _ _ _ _ _ _
  | closeMissing activePairIds =>
    exact (List.filter_sublist.map Prod.fst).length_le
  | remove pairId =>
    rw [SessionStep.apply, EntryLocalL2SessionRuntime.removeSession, OrderedDict.keys_erase]
    exact List.length_filter_le _ _
  | clear => exact Nat.zero_le _
  | refresh books nowMs staleAfterMs =>
    simp [SessionStep.apply, EntryLocalL2SessionRuntime.refreshReadiness, OrderedDict.keys,
      OrderedDict.mapEntries]

/-- Closing keeps the active pairs and the sticky ones. -/
theorem closed_keys (runtime : EntryLocalL2SessionRuntime) (activePairIds : List String) :
    (runtime.closeMissing activePairIds).sessions.keys.length ≤ activePairIds.length + 64 := by
  have kept : (runtime.closeMissing activePairIds).sessions.keys ⊆
      activePairIds ++ runtime.stickyPairIds.ids := by
    intro pairId member
    obtain ⟨entry, filtered, rfl⟩ := List.mem_map.mp member
    have passes := (List.mem_filter.mp filtered).2
    simpa [List.mem_append] using passes
  have distinct : (runtime.closeMissing activePairIds).sessions.keys.Nodup :=
    (runtime.closeMissing activePairIds).sessions.distinct
  have counted := (List.subperm_of_subset distinct kept).length_le
  rw [List.length_append] at counted
  have sticky := runtime.stickyPairIds.bounded
  omega

/-- Sessions do not pile up: after the last closing there are as many as it kept, 64 beside the
active pairs, and those that were tracked since. -/
theorem sessions_bounded (before after : List SessionStep) (activePairIds : List String) :
    (runSessions (before ++ .closeMissing activePairIds :: after)).sessions.keys.length ≤
      activePairIds.length + 64 + (after.filter SessionStep.opens).length := by
  induction after using List.reverseRecOn with
  | nil =>
    rw [runSessions, List.foldl_append]
    exact closed_keys _ activePairIds
  | append_singleton after step ih =>
    have stepped := step_keys (runSessions (before ++ .closeMissing activePairIds :: after)) step
    have run : runSessions (before ++ .closeMissing activePairIds :: (after ++ [step])) =
        step.apply (runSessions (before ++ .closeMissing activePairIds :: after)) := by
      rw [runSessions, ← List.cons_append, ← List.append_assoc, List.foldl_append]
      rfl
    rw [run, List.filter_append, List.length_append, List.filter_singleton]
    cases opens : step.opens with
    | true =>
      simp only [opens, if_true, cond_true, List.length_singleton] at stepped ⊢
      omega
    | false =>
      simp only [opens, Bool.false_eq_true, if_false, cond_false, List.length_nil] at stepped ⊢
      omega

end LightFee.Engine
