import LightFee.Engine.PassiveClose
import Mathlib.Algebra.Order.BigOperators.Group.List
import Mathlib.Tactic.Linarith
import Mathlib.Tactic.Ring

/-!
# Billing the chunks of a passive close

A finalised close bills the executions that its legs show, and a synthesised leg for what
the counter of a side has beyond them. The legs are those of all chunks and the counter is
that of the last one. What an earlier chunk filled without a leg is billed only when the
last counter happens to cover it.
-/

namespace LightFee.Engine

open LightFee.Venues

/-! ## Counters and legs -/

namespace PendingPassiveClose

/-- What the active chunk filled on a side. -/
def filledOn (pending : PendingPassiveClose) (side : ActiveMakerLeg) : ℚ :=
  (pending.fillOn side).quantity.toRat

/-- What the persisted legs of a side show as filled. -/
def recordedOn (pending : PendingPassiveClose) (side : ActiveMakerLeg) : ℚ :=
  (((pending.legsOn side).filterMap PersistedCloseExecutionLeg.fill).map
    (fun fill => fill.quantity.toRat)).sum

/-- Every quantity is a rational, and no counter is below zero. -/
structure Counts (pending : PendingPassiveClose) : Prop where
  counters : ∀ side, ∃ quantity : ℚ, 0 ≤ quantity ∧
    (pending.fillOn side).quantity = .finite quantity
  legs : ∀ side, ∀ leg ∈ pending.legsOn side, ∀ fill ∈ leg.fill, fill.quantity.isFinite = true

/-- Work on a chunk leaves the chunks of the close and its position alone. -/
structure Works (before after : PendingPassiveClose) : Prop where
  positionId : after.positionId = before.positionId
  chunkQuantities : after.chunkQuantities = before.chunkQuantities
  activeChunkIndex : after.activeChunkIndex = before.activeChunkIndex
  held : after.positionSnapshot.isSome = before.positionSnapshot.isSome

end PendingPassiveClose

/-- A persisted leg without evidence hides its fee and nothing else. -/
theorem closedQuantity_executedLegs {legs : List PersistedCloseExecutionLeg}
    (exact : ∀ leg ∈ legs, ∀ fill ∈ leg.fill, fill.quantity.isFinite = true) :
    closedQuantity (executedLegs legs) =
      .finite ((legs.filterMap PersistedCloseExecutionLeg.fill).map
        (fun fill => fill.quantity.toRat)).sum := by
  have shown : (executedLegs legs).map (fun leg => leg.fill.quantity) =
      (legs.filterMap PersistedCloseExecutionLeg.fill).map (fun fill => fill.quantity) := by
    induction legs with
    | nil => rfl
    | cons leg rest hyp =>
      have tail := hyp (fun other member => exact other (List.mem_cons_of_mem _ member))
      rw [executedLegs] at tail ⊢
      cases filled : leg.fill with
      | none => simpa [persistedLegFill, filled] using tail
      | some fill =>
        by_cases evidence : leg.feeEvidenceComplete = some false
        · simpa [persistedLegFill, filled, evidence] using tail
        · simpa [persistedLegFill, filled, evidence] using tail
  rw [closedQuantity, shown]
  apply ExactFloat.sum_map_finite
  intro fill member
  obtain ⟨leg, among, filled⟩ := List.mem_filterMap.mp member
  exact ExactFloat.finite_toRat (exact leg among fill filled)

theorem closedQuantity_append (first second : List CloseExecutionLeg) {left right : ℚ}
    (firstClosed : closedQuantity first = .finite left)
    (secondClosed : ∀ leg ∈ second, leg.fill.quantity.isFinite = true)
    (total : (second.map (fun leg => leg.fill.quantity.toRat)).sum = right) :
    closedQuantity (first ++ second) = .finite (left + right) := by
  rw [closedQuantity, ExactFloat.sum] at firstClosed
  rw [closedQuantity, ExactFloat.sum, List.map_append, List.foldl_append, firstClosed]
  have exact : second.map (fun leg => leg.fill.quantity) =
      (second.map (fun leg => leg.fill.quantity.toRat)).map ExactFloat.finite := by
    rw [List.map_map]
    exact List.map_congr_left (fun leg member => ExactFloat.finite_toRat (secondClosed leg member))
  rw [exact, ExactFloat.foldl_add_finite, total]

namespace PendingPassiveClose

variable {pending : PendingPassiveClose} (counts : pending.Counts)

include counts

theorem Counts.bumpChunk : pending.bumpChunk.Counts := ⟨counts.counters, counts.legs⟩

theorem Counts.filled (side : ActiveMakerLeg) :
    (pending.fillOn side).quantity = .finite (pending.filledOn side) := by
  obtain ⟨quantity, -, counter⟩ := counts.counters side
  rw [filledOn, counter, ExactFloat.toRat_finite]

theorem Counts.filled_nonneg (side : ActiveMakerLeg) : 0 ≤ pending.filledOn side := by
  obtain ⟨quantity, nonneg, counter⟩ := counts.counters side
  rw [filledOn, counter, ExactFloat.toRat_finite]
  exact nonneg

/-- What is billed on a side: the legs, or the counter when it shows more than they do. -/
theorem Counts.closedQuantity (position : OpenPosition) (side : ActiveMakerLeg) :
    Engine.closedQuantity (pending.closedLegs position side) =
      .finite (if pending.recordedOn side + 1 / 10 ^ 9 < pending.filledOn side then
        pending.filledOn side else pending.recordedOn side) := by
  have recorded : Engine.closedQuantity (executedLegs (pending.legsOn side)) =
      .finite (pending.recordedOn side) := closedQuantity_executedLegs (counts.legs side)
  have gap : ((pending.fillOn side).quantity.sub
      (Engine.closedQuantity (executedLegs (pending.legsOn side)))).max (.finite 0) =
        .finite (max (pending.filledOn side - pending.recordedOn side) 0) := by
    rw [counts.filled side, recorded, ExactFloat.sub_finite, ExactFloat.max_finite]
  simp only [closedLegs, synthesizedLegs, gap, progressTolerance, ExactFloat.le_finite]
  by_cases ahead : pending.recordedOn side + 1 / 10 ^ 9 < pending.filledOn side
  · have positive : max (pending.filledOn side - pending.recordedOn side) 0 =
        pending.filledOn side - pending.recordedOn side := max_eq_left (by linarith)
    rw [if_pos ahead, positive, if_neg (by simpa using by linarith),
      closedQuantity_append _ _ recorded (by simp [ExactFloat.isFinite]) rfl]
    simp
  · have small : max (pending.filledOn side - pending.recordedOn side) 0 ≤ 1 / 10 ^ 9 :=
      max_le (by linarith) (by norm_num)
    rw [if_neg ahead, if_pos (decide_eq_true small), List.append_nil, recorded]

end PendingPassiveClose

/-! ## What a finalised close reports -/

def closedQuantityKey : ActiveMakerLeg → String
  | .long => "long_closed_qty"
  | .short => "short_closed_qty"

def PayloadValue.number? : PayloadValue → Option ExactFloat
  | .number value => some value
  | _ => none

/-- The quantity that the latest resolution in the journal closes a side with. -/
def CloseState.resolvedOn (state : CloseState) (side : ActiveMakerLeg) : Option ExactFloat :=
  ((state.journal.reverse.find? (fun record =>
    decide (record.kind = "exit.passive_close_resolved"))).bind (fun record =>
      record.get? (closedQuantityKey side))).bind PayloadValue.number?

theorem CloseState.resolvedOn_append_other (state : CloseState) {kind : String}
    (payload : List (String × PayloadValue)) (side : ActiveMakerLeg)
    (other : kind ≠ "exit.passive_close_resolved") :
    (state.append kind payload).resolvedOn side = state.resolvedOn side := by
  simp [CloseState.resolvedOn, CloseState.append, other]

theorem CloseState.resolvedOn_append_resolved (state : CloseState)
    (payload : List (String × PayloadValue)) (side : ActiveMakerLeg) :
    (state.append "exit.passive_close_resolved" payload).resolvedOn side =
      (OrderedDict.lookupEntries (closedQuantityKey side) payload).bind PayloadValue.number? := by
  simp [CloseState.resolvedOn, CloseState.append, CloseRecord.get?]

theorem CloseState.resolvedOn_announcePassiveClosed (state : CloseState)
    (pending : PendingPassiveClose) (written : OpenPosition)
    (residual : Option ResidualExposureTask) (collected : CollectedClose) (nowMs : Int)
    (evidenceGaps : List String) (side : ActiveMakerLeg) :
    (state.announcePassiveClosed pending written residual collected nowMs evidenceGaps).resolvedOn
      side = state.resolvedOn side := by
  unfold CloseState.announcePassiveClosed
  extract_lets fullyClosed final payload
  split
  · exact CloseState.resolvedOn_append_other _ _ _ (by decide)
  · split
    · exact CloseState.resolvedOn_append_other _ _ _ (by decide)
    · rfl

/-- A finalised close of a known position reports what its legs closed. -/
theorem finalizePassiveClose_resolvedOn [TextCase] (state : CloseState)
    {pending : PendingPassiveClose} {position : OpenPosition} (nowMs : Int)
    (held : pending.positionSnapshot = some position) (side : ActiveMakerLeg) :
    (finalizePassiveClose state pending nowMs).state.resolvedOn side =
      some (closedQuantity (pending.closedLegs position side)) := by
  simp only [finalizePassiveClose, held, CloseState.resolvedOn_announcePassiveClosed,
    CloseState.resolvedOn_append_resolved]
  cases side <;> rfl

/-! ## Totals -/

/-- What the chunks of a run filled on a side. -/
def filledTotal (moments : List PendingPassiveClose) (side : ActiveMakerLeg) : ℚ :=
  (moments.map (fun pending => pending.filledOn side)).sum

/-- The bill of a side covers its chunks: the legs show them all, or they show less than the
last counter and nothing was filled before it. -/
def CoversChunks (moments : List PendingPassiveClose) (last : PendingPassiveClose)
    (side : ActiveMakerLeg) : Prop :=
  filledTotal moments side - last.recordedOn side ≤ moments.length * (1 / 10 ^ 9) ∨
    (last.recordedOn side + 1 / 10 ^ 9 < last.filledOn side ∧
      filledTotal moments side - last.filledOn side ≤ moments.length * (1 / 10 ^ 9))

theorem filled_le_total {earlier : List PendingPassiveClose} {last : PendingPassiveClose}
    (counts : ∀ pending ∈ earlier ++ [last], pending.Counts) (side : ActiveMakerLeg) :
    last.filledOn side ≤ filledTotal (earlier ++ [last]) side := by
  have before : 0 ≤ filledTotal earlier side := by
    apply List.sum_nonneg
    intro quantity member
    obtain ⟨pending, among, rfl⟩ := List.mem_map.mp member
    exact (counts pending (List.mem_append_left _ among)).filled_nonneg side
  have total : filledTotal (earlier ++ [last]) side =
      filledTotal earlier side + last.filledOn side := by simp [filledTotal]
  linarith

/-- What is billed on a side lies within the tolerance exactly when it covers the chunks. -/
theorem billed_within_iff {moments : List PendingPassiveClose} {last : PendingPassiveClose}
    {side : ActiveMakerLeg} (recorded : last.recordedOn side ≤ filledTotal moments side)
    (filled : last.filledOn side ≤ filledTotal moments side) :
    |(if last.recordedOn side + 1 / 10 ^ 9 < last.filledOn side then last.filledOn side
        else last.recordedOn side) - filledTotal moments side| ≤ moments.length * (1 / 10 ^ 9) ↔
      CoversChunks moments last side := by
  rw [CoversChunks]
  by_cases ahead : last.recordedOn side + 1 / 10 ^ 9 < last.filledOn side
  · rw [if_pos ahead, abs_sub_comm, abs_of_nonneg (by linarith)]
    constructor
    · intro within
      exact .inr ⟨ahead, within⟩
    · rintro (within | ⟨-, within⟩)
      · linarith
      · exact within
  · rw [if_neg ahead, abs_sub_comm, abs_of_nonneg (by linarith)]
    constructor
    · exact .inl
    · rintro (within | ⟨behind, -⟩)
      · exact within
      · exact absurd behind ahead

/-! ## Advances -/

section Runs

variable [TextCase]

/-- A close that advances from chunk to chunk, and what finalising it leaves. Each element
is the pending close at the moment of an advance; other work goes on in between. -/
inductive AdvanceRun : List PendingPassiveClose → PassiveFinal → Prop where
  | finalised (state : CloseState) (pending : PendingPassiveClose) (nowMs : Int)
      (final : PassiveFinal) (advance : (advanceChunk state pending nowMs).final = some final) :
      AdvanceRun [pending] final
  | goesOn (state : CloseState) (pending later : PendingPassiveClose) (nowMs : Int)
      (rest : List PendingPassiveClose) (final : PassiveFinal)
      (advanced : (advanceChunk state pending nowMs).advanced = true)
      (stays : (advanceChunk state pending nowMs).final = none)
      (worked : (advanceChunk state pending nowMs).pending.Works later)
      (run : AdvanceRun (later :: rest) final) : AdvanceRun (pending :: later :: rest) final

/-- Only a close behind its last chunk is finalised, as it is at the advance. -/
theorem advanceChunk_final {state : CloseState} {pending : PendingPassiveClose} {nowMs : Int}
    {final : PassiveFinal} (advance : (advanceChunk state pending nowMs).final = some final) :
    final = finalizePassiveClose (state.putPassiveClose pending.bumpChunk) pending.bumpChunk
      nowMs := by
  unfold advanceChunk at advance
  extract_lets chunkQuantity kept payload bumped finished next at advance
  split_ifs at advance
  exact (Option.some.inj advance).symm

/-- A filled and hedged last chunk ends the close. -/
theorem advanceChunk_finishes (state : CloseState) {pending : PendingPassiveClose} (nowMs : Int)
    (filled : pending.currentChunkQuantity.le
      (pending.makerFill.quantity.add progressTolerance) = true)
    (hedged : pending.makerFill.quantity.le
      (pending.hedgeFill.quantity.add progressTolerance) = true)
    (last : pending.bumpChunk.completed = true) :
    (advanceChunk state pending nowMs).final = some (finalizePassiveClose
      (state.putPassiveClose pending.bumpChunk) pending.bumpChunk nowMs) := by
  simp [advanceChunk, filled, hedged, last]

/-- Behind a filled and hedged chunk of a known position comes the next one. -/
theorem advanceChunk_goesOn (state : CloseState) {pending : PendingPassiveClose} (nowMs : Int)
    (filled : pending.currentChunkQuantity.le
      (pending.makerFill.quantity.add progressTolerance) = true)
    (hedged : pending.makerFill.quantity.le
      (pending.hedgeFill.quantity.add progressTolerance) = true)
    (more : pending.bumpChunk.completed = false)
    (held : pending.positionSnapshot.isSome = true) :
    (advanceChunk state pending nowMs).advanced = true ∧
      (advanceChunk state pending nowMs).final = none ∧
      (advanceChunk state pending nowMs).pending = nextChunk pending.bumpChunk nowMs := by
  have known : pending.bumpChunk.positionSnapshot ≠ none := Option.isSome_iff_ne_none.mp held
  simp [advanceChunk, filled, hedged, more, known]

/-- A run finalises the close as its last advance finds it. -/
theorem AdvanceRun.finalised_last {earlier : List PendingPassiveClose}
    {last : PendingPassiveClose} {final : PassiveFinal}
    (run : AdvanceRun (earlier ++ [last]) final) :
    ∃ (state : CloseState) (nowMs : Int),
      final = finalizePassiveClose state last.bumpChunk nowMs := by
  generalize moments : earlier ++ [last] = pendings at run
  induction run generalizing earlier with
  | finalised state pending nowMs final advance =>
    obtain ⟨rfl, rfl⟩ : earlier = [] ∧ last = pending := by
      cases earlier with
      | nil => simpa using moments
      | cons head tail => simp at moments
    exact ⟨_, nowMs, advanceChunk_final advance⟩
  | goesOn state pending later nowMs rest final advanced stays worked run hyp =>
    cases earlier with
    | nil => simp at moments
    | cons head tail =>
      rw [List.cons_append] at moments
      injection moments with _ remaining
      exact hyp remaining

/-- Each side is closed with what the chunks filled there, up to the tolerance of each. -/
def BillsEveryChunk (moments : List PendingPassiveClose) (final : PassiveFinal) : Prop :=
  ∀ side, ∃ closed : ℚ, final.state.resolvedOn side = some (.finite closed) ∧
    |closed - filledTotal moments side| ≤ moments.length * (1 / 10 ^ 9)

/-- A finalised close bills every chunk exactly when its bill covers the chunks on both
sides. -/
theorem finalised_bills_chunks_iff {earlier : List PendingPassiveClose}
    {last : PendingPassiveClose} {final : PassiveFinal}
    (run : AdvanceRun (earlier ++ [last]) final)
    (counts : ∀ pending ∈ earlier ++ [last], pending.Counts)
    (held : last.positionSnapshot.isSome = true)
    (carried : ∀ side, last.recordedOn side ≤ filledTotal (earlier ++ [last]) side) :
    BillsEveryChunk (earlier ++ [last]) final ↔
      ∀ side, CoversChunks (earlier ++ [last]) last side := by
  obtain ⟨state, nowMs, rfl⟩ := run.finalised_last
  obtain ⟨position, known⟩ := Option.isSome_iff_exists.mp held
  have lastCounts : last.Counts := counts last (by simp)
  have billed (side : ActiveMakerLeg) :
      (finalizePassiveClose state last.bumpChunk nowMs).state.resolvedOn side = some (.finite (if last.recordedOn side + 1 / 10 ^ 9 < last.filledOn side then
          last.filledOn side else last.recordedOn side)) :=
    (finalizePassiveClose_resolvedOn state nowMs known side).trans
      (congrArg some (lastCounts.bumpChunk.closedQuantity position side))
  have covers (side : ActiveMakerLeg) := billed_within_iff (carried side)
    (filled_le_total counts side)
  constructor
  · intro bills side
    obtain ⟨closed, reported, within⟩ := bills side
    rw [billed side] at reported
    obtain rfl := ExactFloat.finite.inj (Option.some.inj reported)
    exact (covers side).mp within
  · intro covered side
    exact ⟨_, billed side, (covers side).mpr (covered side)⟩

end Runs

section Example

local instance chunkCase : TextCase := .ascii

/-- Two units on each leg. -/
def chunkedPosition : OpenPosition :=
  { positionId := "p1", symbol := "BTCUSDT", longVenue := .binance, shortVenue := .okx
    longQuantity := .finite 2, shortQuantity := .finite 2, matchedQuantity := .finite 2
    longEntryPrice := .finite 10, shortEntryPrice := .finite 10, openedAtMs := 0 }

/-- A close of two chunks of a unit, with the maker on the long leg. -/
def chunkedClose : PendingPassiveClose :=
  { positionId := "p1", reason := "exit", positionSnapshot := some chunkedPosition
    targetQuantity := .finite 2, chunkQuantities := [.finite 1, .finite 1] }

/-- A report of a maker order that fills at one price. -/
def makerReport (orderId : String) (cumulativeQuantity : ℚ) (lastFillTimeMs : Int) :
    MakerProgress :=
  { venue := .binance, symbol := "BTCUSDT", side := .sell, orderId := orderId
    clientOrderId := orderId, cumulativeQuantity := .finite cumulativeQuantity
    averagePrice := .finite 10, lastFillTimeMs := lastFillTimeMs }

/-- The chunk is hedged by a unit that is recorded on the short leg. -/
def hedgedBy (pending : PendingPassiveClose) (orderId : String) : PendingPassiveClose :=
  { pending with
    hedgeFill := { quantity := .finite 1, averagePrice := .finite 10, orderId := orderId }
    shortLegs := recordCloseExecutionLeg pending.shortLegs
      { venue := .okx, symbol := "BTCUSDT", side := .buy, quantity := .finite 1
        price := .finite 10, orderId := orderId } orderId 1 }

/-- The maker fills the first chunk in two halves. When both come at the same time, the
second one is taken for the first and gets no leg. -/
def firstChunkFilled (secondFillMs : Int) : PendingPassiveClose :=
  hedgedBy (applyMakerProgress (applyMakerProgress chunkedClose (makerReport "m1" (1 / 2) 5) 6)
    (makerReport "m1" 1 secondFillMs) 7) "h1"

/-- The second chunk is filled in one piece. -/
def secondChunkFilled (secondFillMs : Int) : PendingPassiveClose :=
  hedgedBy (applyMakerProgress
    (nextChunk (firstChunkFilled secondFillMs).bumpChunk 8)
    (makerReport "m2" 1 9) 10) "h2"

def chunkedState : CloseState :=
  { runtime := { engine :=
      { openPositions := OrderedDict.empty.insert "p1" chunkedPosition
        pendingPassiveCloses := OrderedDict.empty.insert "p1" chunkedClose } } }

def chunkedFinal (secondFillMs : Int) : PassiveFinal :=
  finalizePassiveClose (chunkedState.putPassiveClose (secondChunkFilled secondFillMs).bumpChunk)
    (secondChunkFilled secondFillMs).bumpChunk 11

/-- Halves at one time, or at two times, fill both chunks. -/
theorem halves_count {secondFillMs : Int} (times : secondFillMs = 5 ∨ secondFillMs = 6) :
    ∀ pending ∈ [firstChunkFilled secondFillMs] ++ [secondChunkFilled secondFillMs],
      pending.Counts := by
  have legs {pending : PendingPassiveClose}
      (counters : ∀ side, (pending.fillOn side).quantity = .finite 1)
      (long : ∀ leg ∈ pending.longLegs, ∀ fill ∈ leg.fill, fill.quantity.isFinite = true)
      (short : ∀ leg ∈ pending.shortLegs, ∀ fill ∈ leg.fill, fill.quantity.isFinite = true) :
      pending.Counts :=
    ⟨fun side => ⟨1, by norm_num, counters side⟩, fun side => by
      cases side
      · exact long
      · exact short⟩
  intro pending member
  rcases times with rfl | rfl
  all_goals
    rcases List.mem_cons.mp member with rfl | member
    · exact legs (fun side => by cases side <;> decide +kernel) (by decide +kernel)
        (by decide +kernel)
    · obtain rfl := List.mem_singleton.mp member
      exact legs (fun side => by cases side <;> decide +kernel) (by decide +kernel)
        (by decide +kernel)

theorem halves_run {secondFillMs : Int} (times : secondFillMs = 5 ∨ secondFillMs = 6) :
    AdvanceRun ([firstChunkFilled secondFillMs] ++ [secondChunkFilled secondFillMs])
      (chunkedFinal secondFillMs) := by
  have ended : (advanceChunk chunkedState (secondChunkFilled secondFillMs) 11).final =
      some (chunkedFinal secondFillMs) := by
    apply advanceChunk_finishes
    all_goals rcases times with rfl | rfl <;> decide +kernel
  obtain ⟨advanced, stays, next⟩ :
      (advanceChunk chunkedState (firstChunkFilled secondFillMs) 8).advanced = true ∧
        (advanceChunk chunkedState (firstChunkFilled secondFillMs) 8).final = none ∧
        (advanceChunk chunkedState (firstChunkFilled secondFillMs) 8).pending =
          nextChunk (firstChunkFilled secondFillMs).bumpChunk 8 := by
    apply advanceChunk_goesOn
    all_goals rcases times with rfl | rfl <;> decide +kernel
  apply AdvanceRun.goesOn chunkedState _ _ 8 [] _ advanced stays
  · rw [next]
    rcases times with rfl | rfl
    all_goals exact ⟨by decide +kernel, by decide +kernel, by decide +kernel, by decide +kernel⟩
  · exact .finalised chunkedState _ 11 _ ended

/-- Halves at two times all have their leg. -/
theorem finalised_bills_chunks_halves :
    BillsEveryChunk ([firstChunkFilled 6] ++ [secondChunkFilled 6]) (chunkedFinal 6) := by
  apply (finalised_bills_chunks_iff (halves_run (.inr rfl)) (halves_count (.inr rfl))
    (by decide +kernel) ?_).mpr
  · intro side
    cases side <;> exact .inl (by decide +kernel)
  · intro side
    cases side <;> decide +kernel

/-- Halves at one time leave half a unit of the first chunk without a leg. The counter of the
second chunk does not show it, and three halves are billed for two units. -/
theorem equal_halves_unbilled :
    AdvanceRun ([firstChunkFilled 5] ++ [secondChunkFilled 5]) (chunkedFinal 5) ∧
      (∀ pending ∈ [firstChunkFilled 5] ++ [secondChunkFilled 5], pending.Counts) ∧
      (∀ side, (secondChunkFilled 5).recordedOn side ≤
        filledTotal ([firstChunkFilled 5] ++ [secondChunkFilled 5]) side) ∧
      ¬ BillsEveryChunk ([firstChunkFilled 5] ++ [secondChunkFilled 5]) (chunkedFinal 5) := by
  refine ⟨halves_run (.inl rfl), halves_count (.inl rfl), ?_, ?_⟩
  · intro side
    cases side <;> decide +kernel
  · intro bills
    obtain ⟨closed, reported, within⟩ := bills .long
    obtain ⟨position, held⟩ := Option.isSome_iff_exists.mp
      (show (secondChunkFilled 5).bumpChunk.positionSnapshot.isSome = true by decide +kernel)
    have counts : (secondChunkFilled 5).Counts :=
      halves_count (.inl rfl) (secondChunkFilled 5) (by simp)
    rw [chunkedFinal, finalizePassiveClose_resolvedOn _ 11 held .long,
      counts.bumpChunk.closedQuantity position .long] at reported
    obtain rfl := ExactFloat.finite.inj (Option.some.inj reported)
    exact absurd within (by decide +kernel)

end Example

end LightFee.Engine
