import LightFee.Engine.HedgeRemainder
import Mathlib.Data.Rat.Floor

/-!
# Releasing what is to be hedged

Before a hedge order of a pending entry is sent, the missing quantity is cut down to whole chunks,
and a small one may be kept back: below a chunk while the maker order works, below the venue's
minimum for a number of attempts, and below a notional for a time after the oldest fill.
-/

namespace LightFee.Engine

open LightFee.Venues

/-! ## Strategy, plan and answer -/

structure HedgeDeltaStrategy where
  makerEntryProgressPollMs : Int := 500
  makerMinNotionalAccumulationAttempts : Int := 3
  passiveSmallFillBufferNotionalQuote : ℚ := 25
  passiveSmallFillBufferMaxWaitMs : Int := 1500

structure PendingEntryHedgeabilityPlan where
  minHedgeableChunk : ℚ
  diagnostics : OrderedDict String DynValue := .empty

/-- Why an order would be below the venue's minimum: by name, as a pair, or unsaid. -/
inductive MinNotionalViolation where
  | named (legNotionalQuote legNotional venueMinNotionalQuote minNotional : ℚ)
  | pair (legNotionalQuote venueMinNotionalQuote : ℚ)
  | other

inductive HedgeDeltaKind where
  | keepPending | bufferSmallFill | waitMinNotionalAccumulation | abortAndFlatten
  | waitPassiveSmallFillBuffer | submitHedge
deriving DecidableEq, Repr

def HedgeDeltaKind.isWait : HedgeDeltaKind → Bool
  | .bufferSmallFill | .waitMinNotionalAccumulation | .waitPassiveSmallFillBuffer => true
  | _ => false

/-- The hedge is sent or given up. -/
def HedgeDeltaKind.settles : HedgeDeltaKind → Bool
  | .submitHedge | .abortAndFlatten => true
  | _ => false

/-- What a decision adds to the evidence that all have. -/
inductive HedgeDeltaFinding where
  | nothing
  | chunk (minHedgeableChunk : ℚ) (hedgeability : OrderedDict String DynValue)
  | minNotional (attempt maxAttempts : Int) (legNotionalQuote venueMinNotionalQuote : ℚ)
      (shouldCountSmallFill : Bool)
  | buffer (bufferedNotionalQuote bufferThresholdQuote : ℚ) (bufferedElapsedMs bufferWaitMs : Int)

structure HedgeDeltaEvidence where
  entryId : String
  symbol : String
  missingHedgeQuantity : ℚ
  releasableQuantity : ℚ
  normalizedQuantity : ℚ
  terminalOrCanceling : Bool
  finding : HedgeDeltaFinding := .nothing

structure PendingEntryHedgeDeltaDecision where
  kind : HedgeDeltaKind
  reason : String := ""
  releasableQuantity : ℚ := 0
  normalizedQuantity : ℚ := 0
  nextProgressPollMs : Option Int := none
  event : String := ""
  evidence : HedgeDeltaEvidence

/-! ## Reading the entry -/

/-- `_finite_positive`. -/
def finitePositive (number : ℚ) : ℚ := if number ≤ quantityDust then 0 else number

/-- `int(value or default)`. -/
def strategyInt (value default : Int) : Int := if value = 0 then default else value

def releasableHedgeQuantity (unmatchedQuantity minHedgeableChunk : ℚ) : ℚ :=
  let unmatched := finitePositive unmatchedQuantity
  if unmatched ≤ quantityDust then 0
  else if minHedgeableChunk ≤ quantityDust then unmatched
  else
    let wholeChunks : Int := ⌊unmatched / minHedgeableChunk⌋
    if wholeChunks ≤ 0 then 0 else wholeChunks * minHedgeableChunk

def PassiveOrderState.isTerminal : PassiveOrderState → Bool
  | .filled | .canceled | .rejected | .expired => true
  | _ => false

namespace PendingEntry

def makerCompleted (pending : PendingEntry ℚ) : Bool :=
  pending.targetQuantity - quantityDust ≤ pending.makerLegFilled ||
    pending.passiveOrder.any (fun order => order.lastProgressState.isTerminal)

/-- `_passive_order_terminal_or_canceling`. -/
def terminalOrCanceling (pending : PendingEntry ℚ) : Bool :=
  pending.makerCompleted || pending.passiveOrder.any (fun order => 0 < order.cancelRequestedAtMs)

/-- `_can_accumulate_small_fill`. -/
def canAccumulateSmallFill (pending : PendingEntry ℚ) : Bool := pending.repairState = ""

/-- `average_price` of a slice. -/
def sliceAveragePrice (slice : PendingEntryRemainderSlice ℚ) : ℚ :=
  if 0 < slice.quantity then slice.notionalQuote / slice.quantity else 0

def unmatchedMakerWeightedAveragePrice (pending : PendingEntry ℚ) : Option ℚ :=
  let held := pending.makerRemainderSlices.filter (fun slice => 0 < slice.quantity)
  let totalQuantity := (held.map (fun slice => slice.quantity)).sum
  let totalNotionalQuote :=
    (held.map (fun slice => max 0 (sliceAveragePrice slice) * slice.quantity)).sum
  if 0 < totalQuantity then some (totalNotionalQuote / totalQuantity)
  else if 0 < pending.legacyMissingHedgeQuantity then some (max 0 pending.fallbackMakerPrice)
  else none

/-- `_maker_remainder_notional_quote`. -/
def makerRemainderNotionalQuote (pending : PendingEntry ℚ) (quantity : ℚ) : ℚ :=
  let held := pending.makerRemainderSlices.filter (fun slice => quantityDust < slice.quantity)
  let total := (held.map (fun slice => max 0 slice.notionalQuote)).sum
  if quantityDust < total then total
  else
    let average := finitePositive (pending.unmatchedMakerWeightedAveragePrice.getD 0)
    let filled := if average ≤ quantityDust then finitePositive pending.makerFillPrice else average
    let price := if filled ≤ quantityDust then finitePositive pending.makerPrice else filled
    max 0 quantity * max 0 price

/-- The recorded times of the unmatched fills. -/
def unmatchedFillTimes (pending : PendingEntry ℚ) : List Int :=
  (pending.makerRemainderSlices.filter (fun slice => quantityDust < slice.quantity)).filterMap
    (fun slice => slice.fillAtMs.filter (0 < ·))

/-- `_oldest_unmatched_maker_fill_at_ms`: without a recorded time it is now. -/
def oldestUnmatchedMakerFillAtMs (pending : PendingEntry ℚ) (nowMs : Int) : Int :=
  match pending.unmatchedFillTimes with
  | [] => nowMs
  | first :: rest => rest.foldl min first

end PendingEntry

def minNotionalValues (violation : Option MinNotionalViolation) : ℚ × ℚ :=
  match violation with
  | some (.named legNotionalQuote legNotional venueMinNotionalQuote minNotional) =>
    (orElseNumber legNotionalQuote legNotional, orElseNumber venueMinNotionalQuote minNotional)
  | some (.pair legNotionalQuote venueMinNotionalQuote) => (legNotionalQuote, venueMinNotionalQuote)
  | _ => (0, 0)

/-! ## The decision -/

/-- What one call is given beside the entry. -/
structure HedgeDeltaCall where
  hedgeabilityPlan : PendingEntryHedgeabilityPlan
  normalizedQuantity : Option ℚ := none
  minNotionalViolation : Option MinNotionalViolation := none
  nowMs : Int
  makerProgressUpdated : Bool := false

section Decide

variable (strategy : HedgeDeltaStrategy) (pending : PendingEntry ℚ) (call : HedgeDeltaCall)

/-- `_missing_hedge_quantity`. -/
def hedgeDelta : ℚ := finitePositive pending.missingHedgeQuantity

def releasableDelta : ℚ :=
  releasableHedgeQuantity (hedgeDelta pending) call.hedgeabilityPlan.minHedgeableChunk

/-- The quantity that an order would have. -/
def normalizedDelta : ℚ :=
  finitePositive (call.normalizedQuantity.getD (releasableDelta pending call))

def baseEvidence (normalizedQuantity : ℚ) (finding : HedgeDeltaFinding) : HedgeDeltaEvidence where
  entryId := pending.pendingId
  symbol := pending.symbol
  missingHedgeQuantity := hedgeDelta pending
  releasableQuantity := releasableDelta pending call
  normalizedQuantity := normalizedQuantity
  terminalOrCanceling := pending.terminalOrCanceling
  finding := finding

def progressPollMs : Int := max 1 (strategyInt strategy.makerEntryProgressPollMs 1)

/-- Below a chunk while the maker order works. -/
def bufferSmallFill : PendingEntry ℚ × PendingEntryHedgeDeltaDecision :=
  let pollMs := call.nowMs + progressPollMs strategy
  ({ pending with nextProgressPollMs := pollMs },
    { kind := .bufferSmallFill
      reason := "below_min_hedgeable_chunk"
      releasableQuantity := releasableDelta pending call
      nextProgressPollMs := some pollMs
      event := "execution.pending_entry_hedge_chunk_buffering"
      evidence := baseEvidence pending call 0
        (.chunk call.hedgeabilityPlan.minHedgeableChunk call.hedgeabilityPlan.diagnostics) })

/-- Nothing to send, or less than the venue takes: the attempt is counted, and the last one gives
up. -/
def accumulateMinNotional : PendingEntry ℚ × PendingEntryHedgeDeltaDecision :=
  let phaseState := ensurePendingEntryPhaseState pending call.nowMs
  let previousAttempt := phaseState.smallFillMinNotionalAttempts
  let shouldCountSmallFill :=
    call.makerProgressUpdated || pending.terminalOrCanceling || previousAttempt = 0
  let attempt := if shouldCountSmallFill then previousAttempt + 1 else previousAttempt
  let counted := { pending with
    phaseState := some (if shouldCountSmallFill then
        { phaseState with smallFillMinNotionalAttempts := attempt, hedgeDeadlineAtMs := none }
      else phaseState) }
  let configured := strategyInt strategy.makerMinNotionalAccumulationAttempts 0
  let values := minNotionalValues call.minNotionalViolation
  let evidence := baseEvidence pending call (normalizedDelta pending call)
    (.minNotional attempt configured values.1 values.2 shouldCountSmallFill)
  if pending.canAccumulateSmallFill && decide (attempt < max 0 configured) then
    let pollMs := call.nowMs + progressPollMs strategy
    ({ counted with nextProgressPollMs := pollMs },
      { kind := .waitMinNotionalAccumulation
        reason := "hedge_leg_below_min_notional"
        releasableQuantity := releasableDelta pending call
        normalizedQuantity := normalizedDelta pending call
        nextProgressPollMs := some pollMs
        event := "execution.min_notional_accumulating"
        evidence := evidence })
  else
    (counted,
      { kind := .abortAndFlatten
        reason := "entry_hedge_leg_below_minimum_notional"
        releasableQuantity := releasableDelta pending call
        normalizedQuantity := normalizedDelta pending call
        event := "execution.min_notional_abort_and_flatten"
        evidence := evidence })

/-- How long a small fill may be kept back. -/
def bufferWaitMs : Int := max 1 (strategyInt strategy.passiveSmallFillBufferMaxWaitMs 1)

def bufferedElapsedMs : Int :=
  max 0 (call.nowMs - max 0 (pending.oldestUnmatchedMakerFillAtMs call.nowMs))

def canBufferSmallFill : Bool :=
  let buffered := pending.makerRemainderNotionalQuote (hedgeDelta pending)
  let threshold := max 0 strategy.passiveSmallFillBufferNotionalQuote
  quantityDust < threshold && quantityDust < buffered && buffered + quantityDust < threshold &&
    pending.canAccumulateSmallFill && !pending.terminalOrCanceling && pending.hedgeInflight.isNone

/-- The order is sent, unless a small notional is still kept back. -/
def submitOrBuffer : PendingEntry ℚ × PendingEntryHedgeDeltaDecision :=
  let waitMs := bufferWaitMs strategy
  let elapsedMs := bufferedElapsedMs pending call
  let evidence := baseEvidence pending call (normalizedDelta pending call)
    (.buffer (pending.makerRemainderNotionalQuote (hedgeDelta pending))
      (max 0 strategy.passiveSmallFillBufferNotionalQuote) elapsedMs waitMs)
  if canBufferSmallFill strategy pending && decide (elapsedMs < waitMs) then
    let pollMs := call.nowMs + min (progressPollMs strategy) (max 1 (waitMs - elapsedMs))
    ({ pending with nextProgressPollMs := pollMs },
      { kind := .waitPassiveSmallFillBuffer
        reason := "passive_small_fill_buffering"
        releasableQuantity := releasableDelta pending call
        normalizedQuantity := normalizedDelta pending call
        nextProgressPollMs := some pollMs
        event := "execution.passive_small_fill_buffering"
        evidence := evidence })
  else
    let expired := canBufferSmallFill strategy pending
    (pending,
      { kind := .submitHedge
        reason := if expired then "passive_small_fill_buffer_expired" else ""
        releasableQuantity := releasableDelta pending call
        normalizedQuantity := normalizedDelta pending call
        event := if expired then "execution.passive_small_fill_buffer_expired" else ""
        evidence := evidence })

/-- `decide_pending_entry_hedge_delta_pre_submit`: the entry afterwards and the decision. -/
def decidePendingEntryHedgeDeltaPreSubmit : PendingEntry ℚ × PendingEntryHedgeDeltaDecision :=
  if hedgeDelta pending ≤ quantityDust then
    (pending, { kind := .keepPending
                reason := "no_missing_hedge_quantity"
                evidence := baseEvidence pending call 0 .nothing })
  else if releasableDelta pending call ≤ quantityDust ∧ pending.canAccumulateSmallFill = true ∧
      pending.terminalOrCanceling = false then
    bufferSmallFill strategy pending call
  else if normalizedDelta pending call ≤ quantityDust ∨ call.minNotionalViolation.isSome = true then
    accumulateMinNotional strategy pending call
  else submitOrBuffer strategy pending call

end Decide

/-! ## Whole chunks -/

theorem finitePositive_of_le {number : ℚ} (small : number ≤ quantityDust) :
    finitePositive number = 0 := if_pos small

theorem finitePositive_of_lt {number : ℚ} (large : quantityDust < number) :
    finitePositive number = number := if_neg (not_le.mpr large)

theorem missing_nonneg (pending : PendingEntry ℚ) : 0 ≤ pending.missingHedgeQuantity := by
  rw [PendingEntry.missingHedgeQuantity, PendingEntry.unmatchedMakerQuantity]
  split_ifs with held
  · exact held.le
  · exact le_max_left _ _

theorem releasable_small {missing : ℚ} (small : missing ≤ quantityDust) (chunk : ℚ) :
    releasableHedgeQuantity (finitePositive missing) chunk = 0 := by
  have nothing : finitePositive (0 : ℚ) ≤ quantityDust := by
    rw [finitePositive_of_le PendingEntry.dust_pos.le]
    exact PendingEntry.dust_pos.le
  rw [finitePositive_of_le small, releasableHedgeQuantity]
  exact if_pos nothing

/-- Whole chunks as far as they go, or everything when there is no chunk. -/
theorem releasable_large {missing : ℚ} (large : quantityDust < missing) (chunk : ℚ) :
    releasableHedgeQuantity (finitePositive missing) chunk =
      if chunk ≤ quantityDust then missing
      else if ⌊missing / chunk⌋ ≤ 0 then 0 else ⌊missing / chunk⌋ * chunk := by
  rw [finitePositive_of_lt large, releasableHedgeQuantity]
  simp only [finitePositive_of_lt large]
  rw [if_neg (not_le.mpr large)]

theorem releasable_le {missing : ℚ} (nonnegative : 0 ≤ missing) (chunk : ℚ) :
    releasableHedgeQuantity (finitePositive missing) chunk ≤ missing := by
  obtain small | large := le_or_gt missing quantityDust
  · rw [releasable_small small]
    exact nonnegative
  · rw [releasable_large large]
    split_ifs with noChunk below
    · exact le_refl missing
    · exact nonnegative
    · have positive : 0 < chunk := PendingEntry.dust_pos.trans (not_le.mp noChunk)
      exact (le_div_iff₀ positive).mp (Int.floor_le (missing / chunk))

theorem releasable_chunks {missing chunk : ℚ} (nonnegative : 0 ≤ missing)
    (chunked : quantityDust < chunk) :
    ∃ chunks : ℕ, releasableHedgeQuantity (finitePositive missing) chunk = chunks * chunk ∧
      missing - releasableHedgeQuantity (finitePositive missing) chunk < chunk := by
  have positive : 0 < chunk := PendingEntry.dust_pos.trans chunked
  obtain small | large := le_or_gt missing quantityDust
  · rw [releasable_small small]
    exact ⟨0, by simp, by linarith⟩
  · have within : missing < (⌊missing / chunk⌋ + 1) * chunk :=
      (div_lt_iff₀ positive).mp (Int.lt_floor_add_one (missing / chunk))
    rw [releasable_large large, if_neg (not_le.mpr chunked)]
    split_ifs with below
    · have none : ⌊missing / chunk⌋ = 0 :=
        le_antisymm below (Int.floor_nonneg.mpr (div_nonneg nonnegative positive.le))
      rw [none] at within
      exact ⟨0, by simp, by simpa using within⟩
    · obtain ⟨chunks, counted⟩ := Int.eq_ofNat_of_zero_le (not_le.mp below).le
      rw [counted] at within ⊢
      refine ⟨chunks, rfl, ?_⟩
      push_cast at within ⊢
      linarith

/-! ## One decision -/

section Decide

variable (strategy : HedgeDeltaStrategy) (pending : PendingEntry ℚ) (call : HedgeDeltaCall)

/-- What one call can do. -/
theorem decide_branches :
    (hedgeDelta pending ≤ quantityDust ∧
        decidePendingEntryHedgeDeltaPreSubmit strategy pending call =
          (pending, { kind := .keepPending
                      reason := "no_missing_hedge_quantity"
                      evidence := baseEvidence pending call 0 .nothing })) ∨
      (quantityDust < hedgeDelta pending ∧ pending.terminalOrCanceling = false ∧
        decidePendingEntryHedgeDeltaPreSubmit strategy pending call =
          bufferSmallFill strategy pending call) ∨
      (quantityDust < hedgeDelta pending ∧
        decidePendingEntryHedgeDeltaPreSubmit strategy pending call =
          accumulateMinNotional strategy pending call) ∨
      (quantityDust < hedgeDelta pending ∧
        decidePendingEntryHedgeDeltaPreSubmit strategy pending call =
          submitOrBuffer strategy pending call) := by
  rw [decidePendingEntryHedgeDeltaPreSubmit]
  split_ifs with nothing below short
  · exact Or.inl ⟨nothing, rfl⟩
  · exact Or.inr (Or.inl ⟨not_le.mp nothing, below.2.2, rfl⟩)
  · exact Or.inr (Or.inr (Or.inl ⟨not_le.mp nothing, rfl⟩))
  · exact Or.inr (Or.inr (Or.inr ⟨not_le.mp nothing, rfl⟩))

theorem decision_releasable :
    (decidePendingEntryHedgeDeltaPreSubmit strategy pending call).2.releasableQuantity =
      releasableDelta pending call := by
  obtain ⟨nothing, branch⟩ | ⟨_, _, branch⟩ | ⟨_, branch⟩ | ⟨_, branch⟩ :=
    decide_branches strategy pending call
  · rw [branch, releasableDelta, releasableHedgeQuantity]
    have zero : finitePositive (hedgeDelta pending) ≤ quantityDust := by
      rw [finitePositive_of_le nothing]
      exact PendingEntry.dust_pos.le
    exact (if_pos zero).symm
  · rw [branch]
    rfl
  · rw [branch, accumulateMinNotional]
    dsimp only
    split_ifs <;> rfl
  · rw [branch, submitOrBuffer]
    dsimp only
    split_ifs <;> rfl

/-- A decision touches the attempt counter and the time of the next look, nothing else. -/
theorem decide_frame :
    ∃ phaseState nextProgressPollMs,
      (decidePendingEntryHedgeDeltaPreSubmit strategy pending call).1 =
        { pending with phaseState := phaseState, nextProgressPollMs := nextProgressPollMs } := by
  obtain ⟨_, branch⟩ | ⟨_, _, branch⟩ | ⟨_, branch⟩ | ⟨_, branch⟩ :=
    decide_branches strategy pending call
  · exact ⟨pending.phaseState, pending.nextProgressPollMs, by rw [branch]⟩
  · exact ⟨pending.phaseState, _, by rw [branch]; rfl⟩
  · rw [branch, accumulateMinNotional]
    dsimp only
    split_ifs
    all_goals exact ⟨_, _, rfl⟩
  · rw [branch, submitOrBuffer]
    dsimp only
    split_ifs
    · exact ⟨pending.phaseState, _, rfl⟩
    all_goals exact ⟨pending.phaseState, pending.nextProgressPollMs, rfl⟩

theorem missing_kept :
    (decidePendingEntryHedgeDeltaPreSubmit strategy pending call).1.missingHedgeQuantity =
      pending.missingHedgeQuantity := by
  obtain ⟨phaseState, nextProgressPollMs, kept⟩ := decide_frame strategy pending call
  rw [kept]
  rfl

theorem slices_kept :
    (decidePendingEntryHedgeDeltaPreSubmit strategy pending call).1.makerRemainderSlices =
      pending.makerRemainderSlices := by
  obtain ⟨phaseState, nextProgressPollMs, kept⟩ := decide_frame strategy pending call
  rw [kept]

theorem accumulate_kind :
    (accumulateMinNotional strategy pending call).2.kind = .waitMinNotionalAccumulation ∨
      (accumulateMinNotional strategy pending call).2.kind = .abortAndFlatten := by
  rw [accumulateMinNotional]
  dsimp only
  split_ifs
  all_goals simp

/-- A small fill is kept back while it is young, and otherwise the order is sent. -/
theorem submit_kind :
    ((submitOrBuffer strategy pending call).2.kind = .waitPassiveSmallFillBuffer ∧
        pending.terminalOrCanceling = false ∧
        bufferedElapsedMs pending call < bufferWaitMs strategy) ∨
      (submitOrBuffer strategy pending call).2.kind = .submitHedge := by
  rw [submitOrBuffer]
  dsimp only
  split_ifs with young
  · rw [Bool.and_eq_true, decide_eq_true_eq, canBufferSmallFill] at young
    simp only [Bool.and_eq_true, Bool.not_eq_true'] at young
    exact Or.inl ⟨rfl, young.1.1.2, young.2⟩
  all_goals exact Or.inr rfl

theorem missing_answered (missing : quantityDust < pending.missingHedgeQuantity) :
    (decidePendingEntryHedgeDeltaPreSubmit strategy pending call).2.kind ≠ .keepPending := by
  have large : quantityDust < hedgeDelta pending := by
    rw [hedgeDelta, finitePositive_of_lt missing]
    exact missing
  obtain ⟨nothing, _⟩ | ⟨_, _, branch⟩ | ⟨_, branch⟩ | ⟨_, branch⟩ :=
    decide_branches strategy pending call
  · exact absurd nothing (not_le.mpr large)
  · rw [branch, bufferSmallFill]
    simp
  · rw [branch]
    obtain kind | kind := accumulate_kind strategy pending call <;> simp [kind]
  · rw [branch]
    obtain ⟨kind, _⟩ | kind := submit_kind strategy pending call <;> simp [kind]

/-! ### The age of a fill -/

theorem foldl_min_le (times : List Int) :
    ∀ start : Int, times.foldl min start ≤ start ∧
      ∀ time ∈ times, times.foldl min start ≤ time := by
  induction times with
  | nil => exact fun start => ⟨le_refl start, by simp⟩
  | cons first rest rest_ih =>
    intro start
    obtain ⟨below, members⟩ := rest_ih (min start first)
    refine ⟨below.trans (min_le_left _ _), ?_⟩
    intro time isMember
    obtain rfl | inRest := List.mem_cons.mp isMember
    · exact below.trans (min_le_right _ _)
    · exact members time inRest

theorem oldest_le {pending : PendingEntry ℚ} {time : Int}
    (recorded : time ∈ pending.unmatchedFillTimes) (nowMs : Int) :
    pending.oldestUnmatchedMakerFillAtMs nowMs ≤ time := by
  rw [PendingEntry.oldestUnmatchedMakerFillAtMs]
  cases times : pending.unmatchedFillTimes with
  | nil =>
    rw [times] at recorded
    exact absurd recorded List.not_mem_nil
  | cons first rest =>
    rw [times] at recorded
    obtain rfl | inRest := List.mem_cons.mp recorded
    · exact (foldl_min_le rest time).1
    · exact (foldl_min_le rest first).2 time inRest

/-- A fill that is old enough ends the small-fill buffer. -/
theorem old_fill_released {slice : PendingEntryRemainderSlice ℚ} {fillAtMs : Int}
    (held : slice ∈ pending.makerRemainderSlices) (unmatched : quantityDust < slice.quantity)
    (recorded : slice.fillAtMs = some fillAtMs) (positive : 0 < fillAtMs)
    (old : fillAtMs + bufferWaitMs strategy ≤ call.nowMs) :
    (decidePendingEntryHedgeDeltaPreSubmit strategy pending call).2.kind ≠
      .waitPassiveSmallFillBuffer := by
  have listed : fillAtMs ∈ pending.unmatchedFillTimes :=
    List.mem_filterMap.mpr ⟨slice, List.mem_filter.mpr ⟨held, by simpa using unmatched⟩, by
      rw [recorded]
      simp [Option.filter, positive]⟩
  have oldest : pending.oldestUnmatchedMakerFillAtMs call.nowMs ≤ fillAtMs := oldest_le listed _
  have elapsed : bufferWaitMs strategy ≤ bufferedElapsedMs pending call := by
    rw [bufferedElapsedMs]
    omega
  obtain ⟨_, branch⟩ | ⟨_, _, branch⟩ | ⟨_, branch⟩ | ⟨_, branch⟩ :=
    decide_branches strategy pending call
  · rw [branch]
    simp
  · rw [branch, bufferSmallFill]
    simp
  · rw [branch]
    obtain kind | kind := accumulate_kind strategy pending call <;> simp [kind]
  · rw [branch]
    obtain ⟨_, _, young⟩ | kind := submit_kind strategy pending call
    · exact absurd young (not_lt.mpr elapsed)
    · simp [kind]

/-! ### The attempt counter -/

/-- How often an order below the venue's minimum was counted. -/
def PendingEntry.smallFillAttempts (pending : PendingEntry ℚ) : Int :=
  (pending.phaseState.map PendingEntryPassivePhaseState.smallFillMinNotionalAttempts).getD 0

theorem ensured_attempts (nowMs : Int) :
    (ensurePendingEntryPhaseState pending nowMs).smallFillMinNotionalAttempts =
      pending.smallFillAttempts := by
  rw [ensurePendingEntryPhaseState, PendingEntry.smallFillAttempts]
  cases pending.phaseState <;> rfl

/-- The counted wait leaves the counter below the bound. -/
theorem accumulate_counts (terminal : pending.terminalOrCanceling = true) :
    (accumulateMinNotional strategy pending call).1.smallFillAttempts =
        pending.smallFillAttempts + 1 ∧
      ((accumulateMinNotional strategy pending call).2.kind = .waitMinNotionalAccumulation →
        pending.smallFillAttempts + 1 < max 0 strategy.makerMinNotionalAccumulationAttempts) := by
  have configured : strategyInt strategy.makerMinNotionalAccumulationAttempts 0 =
      strategy.makerMinNotionalAccumulationAttempts := by
    rw [strategyInt]
    split_ifs with zero
    · exact zero.symm
    · rfl
  rw [accumulateMinNotional]
  simp only [terminal, Bool.or_true, Bool.true_or, if_true, ensured_attempts, configured]
  split_ifs with again
  · rw [Bool.and_eq_true, decide_eq_true_eq] at again
    exact ⟨rfl, fun _ => again.2⟩
  · exact ⟨rfl, fun waits => absurd waits (by decide)⟩

theorem attempts_grow :
    pending.smallFillAttempts ≤
      (decidePendingEntryHedgeDeltaPreSubmit strategy pending call).1.smallFillAttempts := by
  obtain ⟨_, branch⟩ | ⟨_, _, branch⟩ | ⟨_, branch⟩ | ⟨_, branch⟩ :=
    decide_branches strategy pending call
  · rw [branch]
  · rw [branch]
    exact le_refl _
  · have before := ensured_attempts pending call.nowMs
    rw [branch, accumulateMinNotional]
    dsimp only
    split_ifs with counted
    all_goals
      simp only [PendingEntry.smallFillAttempts, Option.map_some, Option.getD_some] at before ⊢
      omega
  · rw [branch, submitOrBuffer]
    dsimp only
    split_ifs
    all_goals exact le_refl _

/-- With the maker order over, a decision settles, has nothing to hedge or counts an attempt. -/
theorem terminal_decision (terminal : pending.terminalOrCanceling = true) :
    (decidePendingEntryHedgeDeltaPreSubmit strategy pending call).2.kind.settles = true ∨
      (decidePendingEntryHedgeDeltaPreSubmit strategy pending call).2.kind = .keepPending ∨
      ((decidePendingEntryHedgeDeltaPreSubmit strategy pending call).1.smallFillAttempts =
          pending.smallFillAttempts + 1 ∧
        pending.smallFillAttempts + 1 <
          max 0 strategy.makerMinNotionalAccumulationAttempts) := by
  obtain ⟨_, branch⟩ | ⟨_, working, _⟩ | ⟨_, branch⟩ | ⟨_, branch⟩ :=
    decide_branches strategy pending call
  · rw [branch]
    exact Or.inr (Or.inl rfl)
  · rw [working] at terminal
    exact absurd terminal (by decide)
  · obtain ⟨counts, waits⟩ := accumulate_counts strategy pending call terminal
    rw [branch]
    obtain kind | kind := accumulate_kind strategy pending call
    · exact Or.inr (Or.inr ⟨counts, waits kind⟩)
    · exact Or.inl (by rw [kind]; rfl)
  · rw [branch]
    obtain ⟨_, working, _⟩ | kind := submit_kind strategy pending call
    · rw [working] at terminal
      exact absurd terminal (by decide)
    · exact Or.inl (by rw [kind]; rfl)

end Decide

/-! ## Sequences of decisions -/

/-- One look at the entry: the maker order as it stands then, and the call. -/
structure HedgeDeltaStep where
  passiveOrder : Option (PendingPassiveOrder ℚ) := none
  call : HedgeDeltaCall

/-- The entry with the maker order as it stands now. -/
def HedgeDeltaStep.found (step : HedgeDeltaStep) (pending : PendingEntry ℚ) : PendingEntry ℚ :=
  { pending with passiveOrder := step.passiveOrder }

/-- A call that was made: the entry it found and its decision. -/
structure HedgeDeltaTurn where
  found : PendingEntry ℚ
  call : HedgeDeltaCall
  decision : PendingEntryHedgeDeltaDecision

/-- Calls one after the other, without a fill on either leg in between. -/
def hedgeDeltaTurns (strategy : HedgeDeltaStrategy) :
    PendingEntry ℚ → List HedgeDeltaStep → List HedgeDeltaTurn
  | _, [] => []
  | pending, step :: rest =>
    let answer := decidePendingEntryHedgeDeltaPreSubmit strategy (step.found pending) step.call
    ⟨step.found pending, step.call, answer.2⟩ :: hedgeDeltaTurns strategy answer.1 rest

/-- The waits before the hedge is sent or given up. -/
def waitsBeforeSettling (turns : List HedgeDeltaTurn) : ℕ :=
  (turns.takeWhile (fun turn => !turn.decision.kind.settles)).countP
    (fun turn => turn.decision.kind.isWait)

/-- The attempts that are left. -/
def remainingAttempts (strategy : HedgeDeltaStrategy) (pending : PendingEntry ℚ) : Int :=
  max 0 (max 0 strategy.makerMinNotionalAccumulationAttempts - 1 - pending.smallFillAttempts)

section Turns

variable (strategy : HedgeDeltaStrategy)

theorem turns_length (steps : List HedgeDeltaStep) :
    ∀ pending, (hedgeDeltaTurns strategy pending steps).length = steps.length := by
  induction steps with
  | nil => exact fun pending => rfl
  | cons step rest rest_ih => exact fun pending => congrArg (· + 1) (rest_ih _)

/-- The decision of a turn, and what is missing and the slices of the entry that it finds. -/
theorem turn_found (steps : List HedgeDeltaStep) :
    ∀ (pending : PendingEntry ℚ), ∀ turn ∈ hedgeDeltaTurns strategy pending steps,
      turn.decision = (decidePendingEntryHedgeDeltaPreSubmit strategy turn.found turn.call).2 ∧
        turn.found.missingHedgeQuantity = pending.missingHedgeQuantity ∧
        turn.found.makerRemainderSlices = pending.makerRemainderSlices := by
  induction steps with
  | nil => exact fun pending turn isTurn => absurd isTurn List.not_mem_nil
  | cons step rest rest_ih =>
    intro pending turn isTurn
    rw [hedgeDeltaTurns] at isTurn
    obtain rfl | inRest := List.mem_cons.mp isTurn
    · exact ⟨rfl, rfl, rfl⟩
    · obtain ⟨decision, missing, slices⟩ := rest_ih _ turn inRest
      refine ⟨decision, missing.trans ?_, slices.trans ?_⟩
      · rw [missing_kept]
        rfl
      · rw [slices_kept]
        rfl

/-- The later turns are the turns of the entry as it is then. -/
theorem turns_suffix (steps : List HedgeDeltaStep) :
    ∀ (pending : PendingEntry ℚ) (later : List HedgeDeltaTurn),
      later <:+ hedgeDeltaTurns strategy pending steps →
        ∃ reached laterSteps, later = hedgeDeltaTurns strategy reached laterSteps ∧
          reached.missingHedgeQuantity = pending.missingHedgeQuantity ∧
          pending.smallFillAttempts ≤ reached.smallFillAttempts := by
  induction steps with
  | nil =>
    intro pending later isSuffix
    exact ⟨pending, [], List.suffix_nil.mp isSuffix, rfl, le_refl _⟩
  | cons step rest rest_ih =>
    intro pending later isSuffix
    obtain whole | inRest := List.suffix_cons_iff.mp isSuffix
    · exact ⟨pending, step :: rest, whole, rfl, le_refl _⟩
    · obtain ⟨reached, laterSteps, same, missing, attempts⟩ := rest_ih _ later inRest
      refine ⟨reached, laterSteps, same, missing.trans ?_, le_trans ?_ attempts⟩
      · rw [missing_kept]
        rfl
      · exact attempts_grow strategy (step.found pending) step.call

/-- Each wait takes one of the remaining attempts. -/
theorem waits_bounded (steps : List HedgeDeltaStep) :
    ∀ pending : PendingEntry ℚ,
      (∀ turn ∈ hedgeDeltaTurns strategy pending steps, turn.found.terminalOrCanceling = true) →
        waitsBeforeSettling (hedgeDeltaTurns strategy pending steps) ≤
          remainingAttempts strategy pending := by
  induction steps with
  | nil => exact fun pending _ => le_max_left 0 _
  | cons step rest rest_ih =>
    intro pending terminal
    rw [hedgeDeltaTurns, List.forall_mem_cons] at terminal
    obtain ⟨first, others⟩ := terminal
    have counter : (step.found pending).smallFillAttempts = pending.smallFillAttempts := rfl
    have later := rest_ih
      (decidePendingEntryHedgeDeltaPreSubmit strategy (step.found pending) step.call).1 others
    have nonnegative : 0 ≤ remainingAttempts strategy pending := le_max_left 0 _
    rw [remainingAttempts] at later nonnegative ⊢
    rw [hedgeDeltaTurns, waitsBeforeSettling]
    rw [waitsBeforeSettling] at later
    obtain settled | kept | ⟨counted, below⟩ :=
      terminal_decision strategy (step.found pending) step.call first
    · rw [List.takeWhile_cons_of_neg (by simp [settled])]
      exact nonnegative
    · have grows := attempts_grow strategy (step.found pending) step.call
      rw [List.takeWhile_cons_of_pos (by simp [kept, HedgeDeltaKind.settles]),
        List.countP_cons_of_neg (by simp [kept, HedgeDeltaKind.isWait])]
      omega
    · cases settles : (decidePendingEntryHedgeDeltaPreSubmit strategy
          (step.found pending) step.call).2.kind.settles with
      | true =>
        rw [List.takeWhile_cons_of_neg (by simp [settles])]
        exact nonnegative
      | false =>
        rw [List.takeWhile_cons_of_pos (by simp [settles]), List.countP_cons]
        push_cast
        split_ifs <;> omega

/-- More calls than remaining attempts settle what is missing. -/
theorem settles_eventually (steps : List HedgeDeltaStep) :
    ∀ pending : PendingEntry ℚ,
      (∀ turn ∈ hedgeDeltaTurns strategy pending steps, turn.found.terminalOrCanceling = true) →
        quantityDust < pending.missingHedgeQuantity →
        remainingAttempts strategy pending < steps.length →
          ∃ turn ∈ hedgeDeltaTurns strategy pending steps,
            turn.decision.kind.settles = true := by
  induction steps with
  | nil => exact fun pending _ _ few => absurd few (not_lt.mpr (le_max_left 0 _))
  | cons step rest rest_ih =>
    intro pending terminal missing few
    rw [hedgeDeltaTurns, List.forall_mem_cons] at terminal
    obtain ⟨first, others⟩ := terminal
    have counter : (step.found pending).smallFillAttempts = pending.smallFillAttempts := rfl
    obtain settled | kept | ⟨counted, below⟩ :=
      terminal_decision strategy (step.found pending) step.call first
    · exact ⟨_, List.mem_cons_self, settled⟩
    · exact absurd kept (missing_answered strategy (step.found pending) step.call missing)
    · have stillMissing : quantityDust <
          (decidePendingEntryHedgeDeltaPreSubmit strategy (step.found pending)
            step.call).1.missingHedgeQuantity := by
        rw [missing_kept]
        exact missing
      have fewer : remainingAttempts strategy
          (decidePendingEntryHedgeDeltaPreSubmit strategy (step.found pending) step.call).1 <
            rest.length := by
        rw [List.length_cons, Nat.cast_add_one, remainingAttempts] at few
        rw [remainingAttempts]
        omega
      obtain ⟨turn, isTurn, settles⟩ := rest_ih _ others stillMissing fewer
      exact ⟨turn, List.mem_cons_of_mem _ isTurn, settles⟩

/-- Whole chunks are released, a fill that is old enough is not kept back, something missing is
always answered, and with the maker order over the waits take the remaining attempts and end. -/
theorem small_fills_released (pending : PendingEntry ℚ) (steps : List HedgeDeltaStep) :
    (∀ turn ∈ hedgeDeltaTurns strategy pending steps,
      turn.decision.releasableQuantity ≤ pending.missingHedgeQuantity ∧
        (quantityDust < turn.call.hedgeabilityPlan.minHedgeableChunk →
          ∃ chunks : ℕ,
            turn.decision.releasableQuantity =
              chunks * turn.call.hedgeabilityPlan.minHedgeableChunk ∧
            pending.missingHedgeQuantity - turn.decision.releasableQuantity <
              turn.call.hedgeabilityPlan.minHedgeableChunk) ∧
        (∀ slice ∈ pending.makerRemainderSlices, quantityDust < slice.quantity →
          ∀ fillAtMs, slice.fillAtMs = some fillAtMs → 0 < fillAtMs →
            fillAtMs + max 1 strategy.passiveSmallFillBufferMaxWaitMs ≤ turn.call.nowMs →
              turn.decision.kind ≠ .waitPassiveSmallFillBuffer) ∧
        (quantityDust < pending.missingHedgeQuantity → turn.decision.kind ≠ .keepPending)) ∧
      ∀ later, later <:+ hedgeDeltaTurns strategy pending steps →
        (∀ turn ∈ later, turn.found.terminalOrCanceling = true) →
          waitsBeforeSettling later ≤ remainingAttempts strategy pending ∧
            (0 ≤ pending.smallFillAttempts →
              waitsBeforeSettling later ≤
                max strategy.makerMinNotionalAccumulationAttempts 1) ∧
            (quantityDust < pending.missingHedgeQuantity →
              remainingAttempts strategy pending < later.length →
                ∃ turn ∈ later, turn.decision.kind.settles = true) := by
  constructor
  · intro turn isTurn
    obtain ⟨decision, missing, slices⟩ := turn_found strategy steps pending turn isTurn
    have nonnegative : 0 ≤ turn.found.missingHedgeQuantity := missing_nonneg turn.found
    have released := decision_releasable strategy turn.found turn.call
    have wait : bufferWaitMs strategy = max 1 strategy.passiveSmallFillBufferMaxWaitMs := by
      rw [bufferWaitMs, strategyInt]
      split_ifs with zero
      · rw [zero]
        rfl
      · rfl
    have capped : finitePositive (finitePositive turn.found.missingHedgeQuantity) =
        finitePositive turn.found.missingHedgeQuantity := by
      obtain small | large := le_or_gt turn.found.missingHedgeQuantity quantityDust
      · rw [finitePositive_of_le small, finitePositive_of_le PendingEntry.dust_pos.le]
      · rw [finitePositive_of_lt large, finitePositive_of_lt large]
    rw [decision, released, releasableDelta, hedgeDelta, ← missing, ← slices]
    refine ⟨releasable_le nonnegative _, releasable_chunks nonnegative, ?_,
      missing_answered strategy turn.found turn.call⟩
    intro slice held unmatched fillAtMs recorded positive old
    rw [← wait] at old
    exact old_fill_released strategy turn.found turn.call held unmatched recorded positive old
  · intro later isSuffix terminal
    obtain ⟨reached, laterSteps, rfl, missing, attempts⟩ :=
      turns_suffix strategy steps pending later isSuffix
    have bounded := waits_bounded strategy laterSteps reached terminal
    have remaining : remainingAttempts strategy reached ≤ remainingAttempts strategy pending := by
      rw [remainingAttempts, remainingAttempts]
      omega
    refine ⟨bounded.trans remaining, ?_, ?_⟩
    · intro counted
      rw [remainingAttempts] at remaining bounded
      rw [remainingAttempts] at remaining
      omega
    · intro something few
      rw [← missing] at something
      rw [turns_length] at few
      exact settles_eventually strategy laterSteps reached terminal something (by omega)

end Turns

/-! ### Chunks of dust, fills without an age, counters below zero -/

/-- A tenth filled for less than the buffered notional. -/
def smallFill (fillAtMs : Option Int) : PendingEntry ℚ :=
  { PendingEntry.unfilledEntry with
    makerLegFilled := 1 / 10
    makerRemainderSlices := [⟨1 / 10, 10, fillAtMs⟩] }

def smallFillCall (chunk : ℚ) (nowMs : Int) : HedgeDeltaCall where
  hedgeabilityPlan := { minHedgeableChunk := chunk }
  nowMs := nowMs

/-- The maker order is canceled while the counter stands at minus two. -/
def belowMinimumSteps : List HedgeDeltaStep :=
  List.replicate 5
    { passiveOrder := some { targetQuantity := 10, fillCheckpointQuantity := 0
                             fillCheckpointNotionalQuote := 0, cancelRequestedAtMs := 1 }
      call := { smallFillCall 0 100 with minNotionalViolation := some .other } }

theorem small_fill_exceptions :
    (∀ chunks : ℕ,
      (decidePendingEntryHedgeDeltaPreSubmit {} (smallFill none)
        (smallFillCall (3 / 10 ^ 10) 100)).2.releasableQuantity ≠ chunks * (3 / 10 ^ 10)) ∧
      (decidePendingEntryHedgeDeltaPreSubmit { passiveSmallFillBufferMaxWaitMs := 0 }
        (smallFill (some 100)) (smallFillCall 0 100)).2.kind = .waitPassiveSmallFillBuffer ∧
      (decidePendingEntryHedgeDeltaPreSubmit {} (smallFill none)
        (smallFillCall 0 1000000000)).2.kind = .waitPassiveSmallFillBuffer ∧
      (let entry := { smallFill (some 100) with
         phaseState := some { smallFillMinNotionalAttempts := -2 } }
       (∀ turn ∈ hedgeDeltaTurns {} entry belowMinimumSteps,
          turn.found.terminalOrCanceling = true) ∧
         waitsBeforeSettling (hedgeDeltaTurns {} entry belowMinimumSteps) = 4) := by
  refine ⟨?_, by decide +kernel, by decide +kernel, by decide +kernel, by decide +kernel⟩
  intro chunks whole
  have tenth : (decidePendingEntryHedgeDeltaPreSubmit {} (smallFill none)
      (smallFillCall (3 / 10 ^ 10) 100)).2.releasableQuantity = 1 / 10 := by decide +kernel
  rw [tenth] at whole
  have thirds : (10 : ℚ) ^ 9 = chunks * 3 := by linarith
  have integral : 10 ^ 9 = chunks * 3 := by exact_mod_cast thirds
  omega

end LightFee.Engine
