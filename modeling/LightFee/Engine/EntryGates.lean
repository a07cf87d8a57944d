import LightFee.Engine.FinalL2Cost
import LightFee.Library.DynValue

/-!
# The gates before an entry

A candidate is held back while one of its venues is blocked for its symbol, while its funding is
unknown, too close or too far away, and in a live engine until its pair is a primary whose session
is ready. The first gate that blocks it names the reason.

A block is remembered beside the state that it was read from. What is remembered is never shorter
than what the state says, so asking about one candidate does not change the answer for another.
-/

namespace LightFee.Engine

open LightFee.MarketData LightFee.Venues

structure SelectionConfig where
  mode : String
  localL2Enabled : Bool
  minScanMinutesBeforeFunding : Int
  entryWindowSecs : Int
  entryLocalL2PrewarmWindowSecs : Int
  /-- `_entry_local_l2_stale_after_ms`. -/
  entryLocalL2StaleAfterMs : Int

/-! ## Blocked venues -/

/-- `venue_entry_cooldowns` of the state, and `_symbol_admission_blocked_until_ms` beside it. -/
structure AdmissionBlocks where
  venueEntryCooldowns : OrderedDict String DynValue := .empty
  symbolAdmissionBlockedUntilMs : OrderedDict (String × String) Int := .empty

namespace AdmissionBlocks

/-- The later of two cooldowns, with its end. -/
def laterCooldown (cooldowns : OrderedDict String DynValue) (best : Int × DynValue)
    (stateKey : String) : Int × DynValue :=
  let payload := ((cooldowns.find? stateKey).getD .null).orElse (.dict [])
  let blockedUntilMs := (((payload.get "blocked_until_ms" (.int 0)).orElse (.int 0)).toInt?).getD 0
  if best.1 < blockedUntilMs then (blockedUntilMs, payload) else best

/-- The cooldown of a venue for a symbol, or for all of them. -/
def stateCooldown (blocks : AdmissionBlocks) (venue symbol : String) : Int × DynValue :=
  [venue ++ ":" ++ symbol, venue ++ ":*"].foldl (laterCooldown blocks.venueEntryCooldowns)
    (0, .dict [])

def blockedUntilMs (blocks : AdmissionBlocks) (venue symbol : String) : Int :=
  max ((blocks.symbolAdmissionBlockedUntilMs.find? (venue, symbol)).getD 0)
    (blocks.stateCooldown venue symbol).1

variable [TextCase]

/-- One venue of the loop in `_candidate_admission_block`: the reason, if there is one. -/
def venueAdmissionBlock (blocks : AdmissionBlocks) (venueRaw symbol : String) (nowMs : Int) :
    Option String × AdmissionBlocks :=
  match Venue.fromStr venueRaw with
  | none => (none, blocks)
  | some venue =>
    let untilMs := blocks.blockedUntilMs venue.value symbol
    if nowMs < untilMs then
      let payload := (blocks.stateCooldown venue.value symbol).2
      (some ((payload.get "reason" (.str "")).orElse (.str "symbol_admission_blocked")).text,
        { blocks with
          symbolAdmissionBlockedUntilMs :=
            blocks.symbolAdmissionBlockedUntilMs.insert (venue.value, symbol) untilMs })
    else (none, blocks)

/-- `_candidate_admission_block`. -/
def candidateAdmissionBlock (blocks : AdmissionBlocks) (candidate : CandidateInput) (nowMs : Int) :
    Option String × AdmissionBlocks :=
  match blocks.venueAdmissionBlock candidate.longVenue candidate.symbol nowMs with
  | (some reason, after) => (some reason, after)
  | (none, after) => after.venueAdmissionBlock candidate.shortVenue candidate.symbol nowMs

end AdmissionBlocks

/-! ## Funding -/

/-- `positive_ms`. -/
def positiveMs (value : Int) : Int := if 0 < value then value else 0

/-- `first_funding_ms`. -/
def firstFundingMs (candidate : CandidateInput) : Int :=
  if 0 < positiveMs candidate.firstFundingTimestampMs then
    positiveMs candidate.firstFundingTimestampMs
  else if 0 < positiveMs candidate.fundingTimestampMs then positiveMs candidate.fundingTimestampMs
  else
    match [positiveMs candidate.longFundingTimestampMs,
        positiveMs candidate.shortFundingTimestampMs].filter (fun legMs => 0 < legMs) with
    | [] => 0
    | first :: rest => rest.foldl min first

namespace SelectionConfig

def minBeforeMs (config : SelectionConfig) : Int := config.minScanMinutesBeforeFunding * 60000

/-- `entry_admissibility`: what is wrong with the horizon of the entry. -/
def entryAdmissibility (config : SelectionConfig) (candidate : CandidateInput) (nowMs : Int) :
    Option String :=
  if firstFundingMs candidate ≤ 0 then some "entry_blocked_first_funding_missing"
  else if firstFundingMs candidate - max nowMs 0 < max config.minBeforeMs 0 then
    some "entry_blocked_first_funding_too_close"
  else none

/-- `_entry_finalization_window_blocker`. -/
def entryFinalizationWindowBlocker (config : SelectionConfig) (firstFundingTimestampMs nowMs : Int) :
    Option String :=
  let remainingMs := firstFundingTimestampMs - max nowMs 0
  let entryWindowMs := config.entryWindowSecs * 1000
  if remainingMs ≤ 0 ∨ (0 < config.minBeforeMs ∧ remainingMs < config.minBeforeMs) then
    some "entry_finalization_window_expired"
  else if 0 < entryWindowMs ∧ entryWindowMs < remainingMs then
    some "entry_waiting_for_finalization_window_too_early"
  else none

end SelectionConfig

/-! ## Readiness -/

section Gates

variable [TextCase]

/-- What `_candidate_pair_id` reads. -/
def CandidateInput.tracked (candidate : CandidateInput) : TrackedCandidate where
  symbol := candidate.symbol
  longVenue := candidate.longVenue
  shortVenue := candidate.shortVenue
  pairId := candidate.pairId
  rankingEdgeBps := candidate.rankingEdgeBps

/-- `_entry_local_l2_selection_blocker`. -/
def entryLocalL2SelectionBlocker (config : SelectionConfig) (tracking : EntryTracking)
    (candidate : CandidateInput) (nowMs : Int) : Option String :=
  if config.mode ≠ "live" then none
  else if candidate.firstFundingTimestampMs ≤ 0 then
    if config.localL2Enabled then some "entry_local_l2_waiting_for_prewarm_window" else none
  else
    match config.entryFinalizationWindowBlocker candidate.firstFundingTimestampMs nowMs with
    | some blocker => some blocker
    | none =>
      let pairId := candidatePairId candidate.tracked
      let remainingMs := candidate.firstFundingTimestampMs - max nowMs 0
      if config.localL2Enabled = false then none
      else if remainingMs ≤ 0 ∨ config.entryLocalL2PrewarmWindowSecs * 1000 < remainingMs then
        some "entry_local_l2_waiting_for_prewarm_window"
      else if pairId ∉ tracking.trackedPrimaryPairIds then
        some "entry_local_l2_waiting_for_primary_tracking"
      else if (tracking.runtime.readyPairLegs pairId candidate.longVenue candidate.shortVenue
          candidate.symbol nowMs config.entryLocalL2StaleAfterMs).isNone then
        some "entry_local_l2_waiting_for_dual_ready"
      else none

/-- The gates of one candidate, in their order. -/
def selectionBlocker (config : SelectionConfig) (tracking : EntryTracking)
    (blocks : AdmissionBlocks) (candidate : CandidateInput) (nowMs : Int) :
    Option String × AdmissionBlocks :=
  match blocks.candidateAdmissionBlock candidate nowMs with
  | (some reason, after) => (some reason, after)
  | (none, after) =>
    match config.entryAdmissibility candidate nowMs with
    | some reason => (some reason, after)
    | none =>
      let window :=
        if 0 < candidate.firstFundingTimestampMs then
          config.entryFinalizationWindowBlocker candidate.firstFundingTimestampMs nowMs
        else none
      match window with
      | some reason => (some reason, after)
      | none => (entryLocalL2SelectionBlocker config tracking candidate nowMs, after)

end Gates

/-! ## Asking changes no answer -/

/-- Two records that block the same. -/
structure AdmissionBlocks.Alike (left right : AdmissionBlocks) : Prop where
  cooldowns : left.venueEntryCooldowns = right.venueEntryCooldowns
  blocked : ∀ venue symbol, left.blockedUntilMs venue symbol = right.blockedUntilMs venue symbol

namespace AdmissionBlocks

variable {left right blocks : AdmissionBlocks}

theorem Alike.refl (blocks : AdmissionBlocks) : blocks.Alike blocks := ⟨rfl, fun _ _ => rfl⟩

theorem Alike.trans {last : AdmissionBlocks} (first : left.Alike right) (second : right.Alike last) :
    left.Alike last :=
  ⟨first.cooldowns.trans second.cooldowns,
    fun venue symbol => (first.blocked venue symbol).trans (second.blocked venue symbol)⟩

theorem stateCooldown_congr (alike : left.Alike right) (venue symbol : String) :
    left.stateCooldown venue symbol = right.stateCooldown venue symbol := by
  rw [stateCooldown, stateCooldown, alike.cooldowns]

variable [TextCase]

/-- A remembered block is as long as the one it was made from. -/
theorem venue_alike (blocks : AdmissionBlocks) (venueRaw symbol : String) (nowMs : Int) :
    (blocks.venueAdmissionBlock venueRaw symbol nowMs).2.Alike blocks := by
  unfold venueAdmissionBlock
  split
  · exact Alike.refl blocks
  · next venue _ =>
    dsimp only
    split_ifs
    · refine ⟨rfl, fun tested other => ?_⟩
      rw [blockedUntilMs, blockedUntilMs, OrderedDict.find_insert]
      by_cases same : (venue.value, symbol) = (tested, other)
      · obtain ⟨rfl, rfl⟩ := Prod.mk.inj same
        rw [if_pos rfl, Option.getD_some, blockedUntilMs, max_assoc]
        exact congrArg _ (max_self _)
      · rw [if_neg same]
        rfl
    · exact Alike.refl blocks

theorem venue_congr (alike : left.Alike right) (venueRaw symbol : String) (nowMs : Int) :
    (left.venueAdmissionBlock venueRaw symbol nowMs).1 =
      (right.venueAdmissionBlock venueRaw symbol nowMs).1 := by
  unfold venueAdmissionBlock
  split
  · rfl
  · dsimp only
    rw [alike.blocked, stateCooldown_congr alike]
    split_ifs <;> rfl

theorem candidate_alike (blocks : AdmissionBlocks) (candidate : CandidateInput) (nowMs : Int) :
    (blocks.candidateAdmissionBlock candidate nowMs).2.Alike blocks := by
  have first := venue_alike blocks candidate.longVenue candidate.symbol nowMs
  unfold candidateAdmissionBlock
  split
  · next asked =>
    rw [asked] at first
    exact first
  · next asked =>
    rw [asked] at first
    exact (venue_alike _ candidate.shortVenue candidate.symbol nowMs).trans first

/-- The long venue's reason comes first. -/
theorem candidate_reason (blocks : AdmissionBlocks) (candidate : CandidateInput) (nowMs : Int) :
    (blocks.candidateAdmissionBlock candidate nowMs).1 =
      (blocks.venueAdmissionBlock candidate.longVenue candidate.symbol nowMs).1.or
        (blocks.venueAdmissionBlock candidate.shortVenue candidate.symbol nowMs).1 := by
  have first := venue_alike blocks candidate.longVenue candidate.symbol nowMs
  unfold candidateAdmissionBlock
  split
  · next asked =>
    rw [asked]
    rfl
  · next asked =>
    rw [asked] at first
    rw [asked, venue_congr first]
    rfl

theorem venue_admitted_iff (blocks : AdmissionBlocks) (venueRaw symbol : String) (nowMs : Int) :
    (blocks.venueAdmissionBlock venueRaw symbol nowMs).1 = none ↔
      ∀ venue, Venue.fromStr venueRaw = some venue →
        blocks.blockedUntilMs venue.value symbol ≤ nowMs := by
  unfold venueAdmissionBlock
  split
  · next unnamed => simp [unnamed]
  · next venue named =>
    dsimp only
    split_ifs with blocked
    · refine iff_of_false (by simp) (fun admitted => ?_)
      exact absurd blocked (not_lt.mpr (admitted venue named))
    · refine iff_of_true rfl (fun other same => ?_)
      obtain rfl := Option.some.inj (named.symm.trans same)
      exact not_lt.mp blocked

end AdmissionBlocks

/-- The reason of the first gate that blocks, and what asking for admission remembers. -/
theorem selection_eq [TextCase] (config : SelectionConfig) (tracking : EntryTracking)
    (blocks : AdmissionBlocks) (candidate : CandidateInput) (nowMs : Int) :
    selectionBlocker config tracking blocks candidate nowMs =
      ((blocks.candidateAdmissionBlock candidate nowMs).1.or
        ((config.entryAdmissibility candidate nowMs).or
          ((if 0 < candidate.firstFundingTimestampMs then
              config.entryFinalizationWindowBlocker candidate.firstFundingTimestampMs nowMs
            else none).or
            (entryLocalL2SelectionBlocker config tracking candidate nowMs))),
        (blocks.candidateAdmissionBlock candidate nowMs).2) := by
  unfold selectionBlocker
  split
  · next asked =>
    rw [asked]
    rfl
  · next asked =>
    rw [asked]
    cases config.entryAdmissibility candidate nowMs with
    | some reason => rfl
    | none =>
      generalize (if 0 < candidate.firstFundingTimestampMs then
        config.entryFinalizationWindowBlocker candidate.firstFundingTimestampMs nowMs
          else none) = window
      cases window with
      | some reason => rfl
      | none => rfl

theorem selection_alike [TextCase] (config : SelectionConfig) (tracking : EntryTracking)
    (blocks : AdmissionBlocks) (candidate : CandidateInput) (nowMs : Int) :
    (selectionBlocker config tracking blocks candidate nowMs).2.Alike blocks := by
  rw [selection_eq]
  exact AdmissionBlocks.candidate_alike blocks candidate nowMs

/-- What is remembered about other candidates changes no reason. -/
theorem selection_congr [TextCase] (config : SelectionConfig) (tracking : EntryTracking)
    {left right : AdmissionBlocks} (alike : left.Alike right) (candidate : CandidateInput)
    (nowMs : Int) :
    (selectionBlocker config tracking left candidate nowMs).1 =
      (selectionBlocker config tracking right candidate nowMs).1 := by
  simp only [selection_eq]
  rw [AdmissionBlocks.candidate_reason, AdmissionBlocks.candidate_reason, AdmissionBlocks.venue_congr alike,
    AdmissionBlocks.venue_congr alike]

/-! ## What a candidate that passes has -/

section Passing

variable [TextCase]

/-- The candidate passes every gate. -/
structure PassesGates (config : SelectionConfig) (tracking : EntryTracking)
    (blocks : AdmissionBlocks) (candidate : CandidateInput) (nowMs : Int) : Prop where
  admitted : ∀ venueRaw ∈ [candidate.longVenue, candidate.shortVenue], ∀ venue,
    Venue.fromStr venueRaw = some venue →
      blocks.blockedUntilMs venue.value candidate.symbol ≤ nowMs
  funded : 0 < firstFundingMs candidate
  distant : max config.minBeforeMs 0 ≤ firstFundingMs candidate - max nowMs 0
  window : 0 < candidate.firstFundingTimestampMs →
    0 < candidate.firstFundingTimestampMs - max nowMs 0 ∧
      (0 < config.entryWindowSecs * 1000 →
        candidate.firstFundingTimestampMs - max nowMs 0 ≤ config.entryWindowSecs * 1000)
  ready : config.mode = "live" → config.localL2Enabled = true →
    0 < candidate.firstFundingTimestampMs ∧
      candidate.firstFundingTimestampMs - max nowMs 0 ≤
        config.entryLocalL2PrewarmWindowSecs * 1000 ∧
      candidatePairId candidate.tracked ∈ tracking.trackedPrimaryPairIds ∧
      ∃ legs, tracking.runtime.readyPairLegs (candidatePairId candidate.tracked)
        candidate.longVenue candidate.shortVenue candidate.symbol nowMs
          config.entryLocalL2StaleAfterMs = some legs

variable {config : SelectionConfig} {tracking : EntryTracking} {blocks : AdmissionBlocks}
  {candidate : CandidateInput} {nowMs : Int}

omit [TextCase] in
theorem window_open_iff (firstFundingTimestampMs : Int) :
    config.entryFinalizationWindowBlocker firstFundingTimestampMs nowMs = none ↔
      0 < firstFundingTimestampMs - max nowMs 0 ∧
        (0 < config.minBeforeMs → config.minBeforeMs ≤ firstFundingTimestampMs - max nowMs 0) ∧
        (0 < config.entryWindowSecs * 1000 →
          firstFundingTimestampMs - max nowMs 0 ≤ config.entryWindowSecs * 1000) := by
  rw [SelectionConfig.entryFinalizationWindowBlocker]
  split_ifs <;> simp <;> omega

omit [TextCase] in
theorem admissible_iff : config.entryAdmissibility candidate nowMs = none ↔
    0 < firstFundingMs candidate ∧
      max config.minBeforeMs 0 ≤ firstFundingMs candidate - max nowMs 0 := by
  rw [SelectionConfig.entryAdmissibility]
  split_ifs <;> simp <;> omega

theorem localL2_open (opened : entryLocalL2SelectionBlocker config tracking candidate nowMs = none)
    (live : config.mode = "live") (enabled : config.localL2Enabled = true) :
    0 < candidate.firstFundingTimestampMs ∧
      candidate.firstFundingTimestampMs - max nowMs 0 ≤
        config.entryLocalL2PrewarmWindowSecs * 1000 ∧
      candidatePairId candidate.tracked ∈ tracking.trackedPrimaryPairIds ∧
      ∃ legs, tracking.runtime.readyPairLegs (candidatePairId candidate.tracked)
        candidate.longVenue candidate.shortVenue candidate.symbol nowMs
          config.entryLocalL2StaleAfterMs = some legs := by
  have usable : ¬ config.localL2Enabled = false := by
    rw [enabled]
    exact Bool.true_eq_false.mp
  rw [entryLocalL2SelectionBlocker, if_neg (not_not.mpr live)] at opened
  by_cases unfunded : candidate.firstFundingTimestampMs ≤ 0
  · rw [if_pos unfunded, if_pos enabled] at opened
    cases opened
  · rw [if_neg unfunded] at opened
    generalize config.entryFinalizationWindowBlocker candidate.firstFundingTimestampMs nowMs =
      window at opened
    cases window with
    | some reason => cases opened
    | none =>
      dsimp only at opened
      rw [if_neg usable] at opened
      split_ifs at opened with outside untracked unready
      refine ⟨not_le.mp unfunded, not_lt.mp (not_or.mp outside).2, untracked, ?_⟩
      rw [Bool.not_eq_true, Option.isNone_eq_false_iff] at unready
      exact Option.isSome_iff_exists.mp unready

/-- A candidate without a reason passes every gate. -/
theorem passes_of_open (opened : (selectionBlocker config tracking blocks candidate nowMs).1 = none) :
    PassesGates config tracking blocks candidate nowMs := by
  rw [selection_eq, Option.or_eq_none_iff, Option.or_eq_none_iff, Option.or_eq_none_iff,
    AdmissionBlocks.candidate_reason, Option.or_eq_none_iff, AdmissionBlocks.venue_admitted_iff,
    AdmissionBlocks.venue_admitted_iff, admissible_iff] at opened
  obtain ⟨⟨longOpen, shortOpen⟩, ⟨funded, distant⟩, inside, localOpen⟩ := opened
  refine ⟨?_, funded, distant, ?_, fun live enabled => localL2_open localOpen live enabled⟩
  · intro venueRaw member
    obtain rfl | rfl : venueRaw = candidate.longVenue ∨ venueRaw = candidate.shortVenue := by
      simpa using member
    · exact longOpen
    · exact shortOpen
  · intro direct
    rw [if_pos direct, window_open_iff] at inside
    exact ⟨inside.1, inside.2.2⟩

end Passing

end LightFee.Engine
