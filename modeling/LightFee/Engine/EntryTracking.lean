import LightFee.Engine.EntryLocalL2

/-!
# The primaries of a scan

A scan tracks the best candidates: a few primaries, which may enter, and shadows behind them. A
pair that is a primary stays one while it is in the scope of the scan; a better shadow replaces the
worst primary once that one was held long enough.
-/

namespace LightFee.Engine

open LightFee.MarketData

/-! ## The scope of a scan -/

structure TrackedCandidate where
  symbol : String
  longVenue : String
  shortVenue : String
  pairId : String := ""
  rankingEdgeBps : ExactFloat

/-- `set.add`. -/
def addIndex (chosen : List Nat) (index : Nat) : List Nat :=
  if index ∈ chosen then chosen else chosen ++ [index]

/-- Indexes are added one after another until there are enough. -/
def fillIndexes (enough : Nat) : List Nat → List Nat → List Nat
  | [], chosen => chosen
  | index :: rest, chosen =>
    if enough ≤ chosen.length then chosen else fillIndexes enough rest (addIndex chosen index)

/-- The loop over the pairs that were primaries before. -/
def keepPrevious (enough : Nat) (previous : List String) :
    Nat → List String → List Nat → List Nat
  | _, [], chosen => chosen
  | index, pairId :: rest, chosen =>
    if enough ≤ chosen.length then chosen
    else
      keepPrevious enough previous (index + 1) rest
        (if previous.contains pairId then addIndex chosen index else chosen)

/-- The indexes of the primaries among the pairs in scope. -/
def primaryIndexes (primaryCount : Nat) (previous pairIds : List String) : List Nat :=
  fillIndexes primaryCount (List.range pairIds.length)
    (keepPrevious primaryCount previous 0 pairIds [])

section Scope

variable [TextCase]

/-- `make_candidate_pair_id`. -/
def makeCandidatePairId (symbol longVenue shortVenue : String) : String :=
  TextCase.lower symbol ++ ":" ++ longVenue ++ "->" ++ shortVenue

def candidatePairId (candidate : TrackedCandidate) : String :=
  if candidate.pairId ≠ "" then candidate.pairId
  else makeCandidatePairId candidate.symbol candidate.longVenue candidate.shortVenue

/-- `select_tracked_opportunities`. -/
def selectTrackedOpportunities (candidates : List TrackedCandidate)
    (primaryCount shadowCount : Nat) (previousPrimaryPairIds : List String) :
    List TrackedOpportunity :=
  let selected := candidates.take (primaryCount + shadowCount)
  let primaries := primaryIndexes primaryCount previousPrimaryPairIds (selected.map candidatePairId)
  selected.mapIdx fun index candidate =>
    { pairId := candidatePairId candidate
      symbol := candidate.symbol
      longVenue := candidate.longVenue
      shortVenue := candidate.shortVenue
      rankingEdgeBps := candidate.rankingEdgeBps
      classOf := if primaries.contains index then .primary else .shadow }

end Scope

/-! ## Promotion -/

/-- `primary_hold_window_allows_replacement`. -/
def primaryHoldWindowAllowsReplacement (primaryAssignedAtMs nowMs primaryMinHoldMs : Int) : Bool :=
  if primaryMinHoldMs ≤ 0 then true
  else if primaryAssignedAtMs ≤ 0 then false
  else decide (primaryMinHoldMs ≤ nowMs - primaryAssignedAtMs)

/-- `shadow_promotion_is_eligible`. -/
def shadowPromotionIsEligible (primary shadow : TrackedOpportunity)
    (primaryAssignedAtMs nowMs primaryMinHoldMs : Int) (shadowPromotionScoreDeltaBps : ExactFloat)
    (primaryExecuting shadowReady : Bool) : Bool :=
  if primaryExecuting || !shadowReady then false
  else shadowPromotionScoreDeltaBps.le (shadow.rankingEdgeBps.sub primary.rankingEdgeBps) &&
    primaryHoldWindowAllowsReplacement primaryAssignedAtMs nowMs primaryMinHoldMs

/-- `max` by the ranking edge: the first of the best. -/
def bestRanked (first : TrackedOpportunity) (rest : List TrackedOpportunity) : TrackedOpportunity :=
  rest.foldl (fun best other =>
    if best.rankingEdgeBps.lt other.rankingEdgeBps then other else best) first

/-- `min` by the ranking edge: the first of the worst. -/
def worstRanked (first : TrackedOpportunity) (rest : List TrackedOpportunity) :
    TrackedOpportunity :=
  rest.foldl (fun worst other =>
    if other.rankingEdgeBps.lt worst.rankingEdgeBps then other else worst) first

structure TrackingSettings where
  entryLocalL2PrimaryCount : Int
  maxConcurrentPositions : Int
  shadowEntryOpportunityCount : Int
  entryLocalL2BookStaleAfterMs : Int
  shadowPromotionScoreDeltaBps : ExactFloat
  primaryMinHoldMs : Int

namespace TrackingSettings

def primaryCount (settings : TrackingSettings) : Nat :=
  (min (max settings.entryLocalL2PrimaryCount 0) (max settings.maxConcurrentPositions 1)).toNat

def shadowCount (settings : TrackingSettings) : Nat := settings.shadowEntryOpportunityCount.toNat

end TrackingSettings

/-- The sessions, and `_tracked_primary_pair_ids`, a set. -/
structure EntryTracking where
  runtime : EntryLocalL2SessionRuntime := {}
  trackedPrimaryPairIds : List String := []

namespace EntryTracking

/-- Changes a session that exists. -/
def changeSession (runtime : EntryLocalL2SessionRuntime) (pairId : String)
    (change : EntryLocalL2Session → EntryLocalL2Session) : EntryLocalL2SessionRuntime :=
  match runtime.sessions.find? pairId with
  | none => runtime
  | some session => { runtime with sessions := runtime.sessions.insert pairId (change session) }

/-- The shadow takes the primary's place. -/
def promote (tracking : EntryTracking) (primary shadow : TrackedOpportunity) (nowMs : Int) :
    EntryTracking :=
  let demoted := changeSession tracking.runtime primary.pairId
    fun session => { session with primaryAssignedAtMs := 0 }
  let promoted := changeSession demoted shadow.pairId
    fun session => { session with primaryAssignedAtMs := nowMs, shadowPromotedAtMs := nowMs }
  { runtime :=
      if (tracking.runtime.sessions.find? shadow.pairId).isSome then
        { promoted with stickyPairIds := promoted.stickyPairIds.mark shadow.pairId }
      else promoted
    trackedPrimaryPairIds :=
      (tracking.trackedPrimaryPairIds.erase primary.pairId).insert shadow.pairId }

def assignedAtMs (runtime : EntryLocalL2SessionRuntime) (pairId : String) : Int :=
  ((runtime.sessions.find? pairId).map EntryLocalL2Session.primaryAssignedAtMs).getD 0

/-- `_apply_shadow_promotion_if_eligible`. -/
def applyShadowPromotionIfEligible (settings : TrackingSettings) (executing : String → Bool)
    (tracking : EntryTracking) (tracked : List TrackedOpportunity) (nowMs : Int) : EntryTracking :=
  match tracked.filter fun opportunity => opportunity.classOf == .primary,
    tracked.filter fun opportunity => opportunity.classOf == .shadow with
  | firstPrimary :: primaries, firstShadow :: shadows =>
    let bestShadow := bestRanked firstShadow shadows
    let worstPrimary := worstRanked firstPrimary primaries
    let shadowReady := (tracking.runtime.sessions.find? bestShadow.pairId).any
      fun session => session.state == .ready
    if shadowPromotionIsEligible worstPrimary bestShadow
        (assignedAtMs tracking.runtime worstPrimary.pairId) nowMs settings.primaryMinHoldMs
        settings.shadowPromotionScoreDeltaBps (executing worstPrimary.pairId) shadowReady then
      promote tracking worstPrimary bestShadow nowMs
    else tracking
  | _, _ => tracking

end EntryTracking

/-! ## Scans -/

/-- What a scan works with: its candidates, the pairs with a pending entry, the books that it reads
and its two looks at the clock. -/
structure TrackingScan where
  candidates : List TrackedCandidate
  executing : String → Bool
  books : LocalL2Runtime
  trackedAtMs : Int
  readAtMs : Int

/-- What happens to the tracked pairs: a scan, a pending entry's pair, or a refresh. -/
inductive TrackingStep where
  | scan (look : TrackingScan)
  | trackPending (pairId longVenue shortVenue symbol : String) (nowMs : Int)
  | refresh (books : LocalL2Runtime) (nowMs : Int)

section Scan

variable [TextCase] (settings : TrackingSettings)

/-- The opportunities that a scan tracks. -/
def trackedScope (tracking : EntryTracking) (scan : TrackingScan) : List TrackedOpportunity :=
  selectTrackedOpportunities scan.candidates settings.primaryCount settings.shadowCount
    tracking.trackedPrimaryPairIds

/-- The sessions of the tracked pairs and the primaries, before a shadow may be promoted. -/
def scanOpened (tracking : EntryTracking) (scan : TrackingScan) : EntryTracking :=
  let tracked := trackedScope settings tracking scan
  let opened := tracked.foldl (fun runtime opportunity =>
    runtime.trackOpportunity opportunity scan.trackedAtMs) tracking.runtime
  { runtime := (opened.closeMissing (tracked.map TrackedOpportunity.pairId)).refreshReadiness
      scan.books scan.readAtMs settings.entryLocalL2BookStaleAfterMs
    trackedPrimaryPairIds := ((tracked.filter fun opportunity =>
      opportunity.classOf == .primary).map TrackedOpportunity.pairId).dedup }

/-- The tracking part of a scan. -/
def scanTracked (tracking : EntryTracking) (scan : TrackingScan) : EntryTracking :=
  EntryTracking.applyShadowPromotionIfEligible settings scan.executing
    (scanOpened settings tracking scan) (trackedScope settings tracking scan) scan.readAtMs

def TrackingStep.apply (tracking : EntryTracking) : TrackingStep → EntryTracking
  | .scan look => scanTracked settings tracking look
  | .trackPending pairId longVenue shortVenue symbol nowMs =>
    { tracking with
      runtime := tracking.runtime.trackPair pairId longVenue shortVenue symbol nowMs false false }
  | .refresh books nowMs =>
    { tracking with
      runtime := tracking.runtime.refreshReadiness books nowMs
        settings.entryLocalL2BookStaleAfterMs }

def runTracking (steps : List TrackingStep) (tracking : EntryTracking) : EntryTracking :=
  steps.foldl (TrackingStep.apply settings) tracking

end Scan

/-! ## A scan of two candidates -/

def rankedCandidate (pairId : String) (edge : ℚ) : TrackedCandidate where
  symbol := "BTCUSDT"
  longVenue := "binance"
  shortVenue := "okx"
  pairId := pairId
  rankingEdgeBps := .finite edge

def onePrimary : TrackingSettings where
  entryLocalL2PrimaryCount := 1
  maxConcurrentPositions := 1
  shadowEntryOpportunityCount := 1
  entryLocalL2BookStaleAfterMs := 1000
  shadowPromotionScoreDeltaBps := .finite 1
  primaryMinHoldMs := 30000

def rankedScan (first second : String) (nowMs : Int) : TrackingStep :=
  .scan { candidates := [rankedCandidate first 9, rankedCandidate second 5]
          executing := fun _ => false
          books := narrowBooks
          trackedAtMs := nowMs
          readAtMs := nowMs }

end LightFee.Engine
