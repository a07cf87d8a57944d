import Mathlib.Data.Int.Order.Basic

/-!
# Bridge policies

How each venue's REST snapshots meet its incremental stream: whether buffered
deltas are replayed over the snapshot, how many are kept while it is in flight,
and which venue may overlap its previous link. Venue names are ASCII.
-/

namespace LightFee.MarketData

/-- The buffer cap of the Binance-style streams. -/
def v1BinanceBufferCap : Nat := 4096

def legacyGenericBufferCap : Nat := 512

inductive BridgeMode where
  | restSnapshotBufferedReplay | wsSnapshotAuthoritative | restPollingSnapshotOnly | streamOnly
deriving DecidableEq, Repr

inductive ReplayLinkKind where
  | normal | keepalive | reset | obsolete | invalid
deriving DecidableEq, Repr

/-- Whether a ranged delta contains the next sequence required locally. -/
def sequenceRangeOverlapsExpected (firstSequence sequence expectedSequence : Int) : Bool :=
  0 < firstSequence ∧ 0 < sequence ∧ firstSequence ≤ expectedSequence ∧ expectedSequence ≤ sequence

structure LocalL2VenuePolicy where
  venue : String
  bridgeMode : BridgeMode
  preSnapshotBufferCap : Nat
  restSnapshotSequenceComparable : Bool := true
  replayRestSnapshotWithWsDeltas : Bool := true
  allowsOverlappingPreviousLink : Bool := false
deriving DecidableEq, Repr

def LocalL2VenuePolicy.classifyReplayLink (policy : LocalL2VenuePolicy)
    (previousSequence sequence previousSequenceFromUpdate : Int) (bidCount askCount : Nat) :
    ReplayLinkKind :=
  if policy.venue = "okx" then
    if previousSequenceFromUpdate = previousSequence ∧ sequence = previousSequence ∧
        bidCount = 0 ∧ askCount = 0 then .keepalive
    else if previousSequenceFromUpdate = previousSequence ∧ sequence < previousSequence then .reset
    else if previousSequenceFromUpdate = previousSequence ∧ previousSequence < sequence then .normal
    else if sequence ≤ previousSequence then .obsolete
    else .invalid
  else if 0 < previousSequenceFromUpdate then
    if previousSequenceFromUpdate = previousSequence then .normal
    else if sequence ≤ previousSequence then .obsolete
    else .invalid
  else if sequence ≤ previousSequence then .obsolete
  else .normal

def policyForVenue (venue : String) : LocalL2VenuePolicy :=
  match venue.toLower with
  | "binance" =>
    { venue := "binance", bridgeMode := .restSnapshotBufferedReplay
      preSnapshotBufferCap := v1BinanceBufferCap }
  | "aster" =>
    { venue := "aster", bridgeMode := .restSnapshotBufferedReplay
      preSnapshotBufferCap := v1BinanceBufferCap, allowsOverlappingPreviousLink := true }
  | "okx" =>
    { venue := "okx", bridgeMode := .restSnapshotBufferedReplay
      preSnapshotBufferCap := v1BinanceBufferCap }
  | "hyperliquid" =>
    { venue := "hyperliquid", bridgeMode := .streamOnly, preSnapshotBufferCap := 0
      restSnapshotSequenceComparable := false, replayRestSnapshotWithWsDeltas := false }
  | "bybit" =>
    { venue := "bybit", bridgeMode := .wsSnapshotAuthoritative
      preSnapshotBufferCap := v1BinanceBufferCap
      restSnapshotSequenceComparable := false, replayRestSnapshotWithWsDeltas := false }
  | normalized =>
    { venue := normalized, bridgeMode := .restSnapshotBufferedReplay
      preSnapshotBufferCap := legacyGenericBufferCap }

/-- Venues with an update range `U..u` beside or instead of a previous link. -/
def rangeVenue (venue : String) : Bool := venue ∈ ["binance", "aster", "gate"]

/-- Only one range venue may overlap its previous link. -/
theorem overlapping_link_venue {venue : String} (range : rangeVenue venue = true) :
    (policyForVenue venue).allowsOverlappingPreviousLink = decide (venue = "aster") ∧
      (policyForVenue venue).venue = venue := by
  have known : venue = "binance" ∨ venue = "aster" ∨ venue = "gate" := by
    simpa [rangeVenue] using range
  rcases known with rfl | rfl | rfl <;> exact ⟨by decide +kernel, by decide +kernel⟩

end LightFee.MarketData
