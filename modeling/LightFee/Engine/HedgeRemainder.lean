import LightFee.Engine.PendingEntry
import Mathlib.Algebra.Order.BigOperators.Group.List
import Mathlib.Algebra.Order.Group.MinMax
import Mathlib.Tactic.Linarith
import Mathlib.Data.List.Induction
import Mathlib.Tactic.NormNum
import Mathlib.Tactic.Ring

/-!
# The missing hedge over a run

The slices carry what the counters say is unhedged, up to the dust that one step
may lose: a maker report pushes what it adds to the counter, and a hedge report
consumes what it adds, from the front and never below zero. The two part for good
only when a maker report comes while the hedge is ahead of the maker: the slices
hold the whole new fill, of which the counters know a part to be hedged already.
-/

namespace LightFee.Engine

/-- A report or a repost of a pending entry. -/
inductive PendingEntryEvent where
  | passive (progress : PassiveOrderProgress)
  | accepted (cycle : PassiveCycle)
  | hedge (report : HedgeProgress)

namespace PendingEntry

def step (pending : PendingEntry ℚ) : PendingEntryEvent → PendingEntry ℚ
  | .passive progress => (applyPendingEntryPassiveProgress pending (some progress)).1
  | .accepted cycle => notePendingEntryPassiveCycleAccepted pending cycle
  | .hedge report => (applyPendingEntryHedgeProgress pending report).1

def run (pending : PendingEntry ℚ) (events : List PendingEntryEvent) : PendingEntry ℚ :=
  events.foldl step pending

theorem run_snoc (pending : PendingEntry ℚ) (events : List PendingEntryEvent)
    (event : PendingEntryEvent) :
    pending.run (events ++ [event]) = (pending.run events).step event := by
  simp [run]

/-- Quantity of the slices. -/
def remainder (slices : List (PendingEntryRemainderSlice ℚ)) : ℚ :=
  (slices.map PendingEntryRemainderSlice.quantity).sum

/-- What the counters leave to hedge while the maker stays within the target. -/
def unhedged (pending : PendingEntry ℚ) : ℚ :=
  max 0 (min pending.makerLegFilled pending.targetQuantity - pending.hedgeLegFilled)

/-- The maker quantity a report brings the entry to. -/
def reportedQuantity (pending : PendingEntry ℚ) (progress : PassiveOrderProgress) : Option ℚ :=
  pending.passiveOrder.map (fun order => order.updatedQuantity progress.cumulativeQuantity)

/-- The report raises the maker fill while the hedge is ahead of the maker. -/
def LateMaker (pending : PendingEntry ℚ) (progress : PassiveOrderProgress) : Prop :=
  pending.makerLegFilled + quantityDust < pending.hedgeLegFilled ∧
    ∃ quantity ∈ pending.reportedQuantity progress,
      pending.makerLegFilled + quantityDust < quantity

/-! ## Slices -/

/-- No slice is dust. -/
def Clean (slices : List (PendingEntryRemainderSlice ℚ)) : Prop :=
  ∀ slice ∈ slices, quantityDust < slice.quantity

theorem dust_pos : 0 < quantityDust := by norm_num [quantityDust]

theorem remainder_cons (slice : PendingEntryRemainderSlice ℚ)
    (rest : List (PendingEntryRemainderSlice ℚ)) :
    remainder (slice :: rest) = slice.quantity + remainder rest := by
  simp [remainder]

theorem Clean.remainder_nonneg {slices : List (PendingEntryRemainderSlice ℚ)}
    (clean : Clean slices) : 0 ≤ remainder slices := by
  apply List.sum_nonneg
  intro quantity listed
  rcases List.mem_map.mp listed with ⟨slice, here, rfl⟩
  exact (dust_pos.trans (clean slice here)).le

theorem Clean.tail {slice : PendingEntryRemainderSlice ℚ}
    {rest : List (PendingEntryRemainderSlice ℚ)} (clean : Clean (slice :: rest)) : Clean rest :=
  fun other here => clean other (List.mem_cons_of_mem slice here)

theorem consume_settled {remaining : ℚ} (settled : remaining ≤ quantityDust)
    (slices : List (PendingEntryRemainderSlice ℚ)) :
    consumeSlices remaining slices = (slices, 0) := by
  cases slices with
  | nil => rfl
  | cons slice rest => rw [consumeSlices, if_pos settled]

/-- What is left of the front slice, and the rest of the consumption. -/
theorem consume_cons {remaining : ℚ} (unsettled : quantityDust < remaining)
    {slice : PendingEntryRemainderSlice ℚ} {rest : List (PendingEntryRemainderSlice ℚ)}
    (whole : quantityDust < slice.quantity) :
    let left := takeFromSlice slice slice.quantity (min remaining slice.quantity)
    let others := (consumeSlices (remaining - min remaining slice.quantity) rest).1
    (consumeSlices remaining (slice :: rest)).1 =
      if left.quantity ≤ quantityDust then others else left :: others := by
  have available : max 0 slice.quantity = slice.quantity :=
    max_eq_right (dust_pos.trans whole).le
  rw [consumeSlices, if_neg (not_le.mpr unsettled)]
  simp only [available, if_neg (not_le.mpr whole)]

theorem consume_clean (slices : List (PendingEntryRemainderSlice ℚ)) (remaining : ℚ)
    (clean : Clean slices) : Clean (consumeSlices remaining slices).1 := by
  induction slices generalizing remaining with
  | nil => exact clean
  | cons slice rest ih =>
      by_cases settled : remaining ≤ quantityDust
      · rw [consume_settled settled]
        exact clean
      · have others := ih (remaining - min remaining slice.quantity) clean.tail
        rw [consume_cons (not_le.mp settled) (clean slice List.mem_cons_self)]
        split_ifs with dust
        · exact others
        · intro other here
          rcases List.mem_cons.mp here with first | later
          · rw [first]
            exact not_le.mp dust
          · exact others other later

/-- The consumption takes the quantity from the remainder, up to dust. -/
theorem consume_remainder (slices : List (PendingEntryRemainderSlice ℚ)) (remaining : ℚ)
    (clean : Clean slices) (nonnegative : 0 ≤ remaining) :
    |remainder (consumeSlices remaining slices).1 - max 0 (remainder slices - remaining)| ≤
      quantityDust := by
  induction slices generalizing remaining with
  | nil =>
      have nothing : max 0 (0 - remaining) = 0 := max_eq_left (by linarith)
      have empty : remainder [] = 0 := rfl
      rw [consumeSlices, empty, nothing, sub_zero, abs_zero]
      exact dust_pos.le
  | cons slice rest ih =>
      have whole := clean slice List.mem_cons_self
      have restNonnegative := clean.tail.remainder_nonneg
      by_cases settled : remaining ≤ quantityDust
      · rw [consume_settled settled, abs_le]
        have remainderNonnegative := clean.remainder_nonneg
        constructor
        · linarith [max_le remainderNonnegative (by linarith :
            remainder (slice :: rest) - remaining ≤ remainder (slice :: rest)), dust_pos]
        · linarith [le_max_right 0 (remainder (slice :: rest) - remaining)]
      · rw [consume_cons (not_le.mp settled) whole, remainder_cons]
        rcases le_total slice.quantity remaining with emptied | kept
        · have later := ih (remaining - slice.quantity) clean.tail (by linarith)
          rw [min_eq_right emptied, if_pos (by simpa [takeFromSlice] using dust_pos.le)]
          have same : slice.quantity + remainder rest - remaining =
              remainder rest - (remaining - slice.quantity) := by ring
          rw [same]
          exact later
        · rw [min_eq_left kept, sub_self, consume_settled dust_pos.le]
          have positive : 0 ≤ slice.quantity + remainder rest - remaining := by linarith
          have quantity : (takeFromSlice slice slice.quantity remaining).quantity =
              slice.quantity - remaining := max_eq_right (by linarith)
          rw [max_eq_right positive, quantity]
          split_ifs with dust
          · rw [abs_le]
            constructor <;> linarith [dust_pos]
          · have exact : slice.quantity - remaining + remainder rest -
                (slice.quantity + remainder rest - remaining) = 0 := by ring
            rw [remainder_cons, quantity, exact, abs_zero]
            exact dust_pos.le

/-! ## One step -/

theorem push_slice (pending : PendingEntry ℚ) (averagePrice : Option ℚ) (fillAtMs : Option Int)
    {quantity : ℚ} (whole : quantityDust < quantity) :
    ∃ slice : PendingEntryRemainderSlice ℚ, slice.quantity = quantity ∧
      pending.pushMakerRemainderSlice quantity averagePrice fillAtMs =
        { pending with makerRemainderSlices := pending.makerRemainderSlices ++ [slice] } := by
  have positive : max 0 quantity = quantity := max_eq_right (dust_pos.trans whole).le
  simp only [pushMakerRemainderSlice, positive, if_neg (not_le.mpr whole)]
  exact ⟨_, rfl, rfl⟩

/-- A raise pushes exactly what it adds. -/
theorem raise_pushes (pending : PendingEntry ℚ) (progress : PassiveOrderProgress) {quantity : ℚ}
    (raised : pending.makerLegFilled + quantityDust < quantity) :
    let after := pending.raiseMakerFill quantity progress
    after.makerLegFilled = quantity ∧ after.hedgeLegFilled = pending.hedgeLegFilled ∧
      after.targetQuantity = pending.targetQuantity ∧
      ∃ slice : PendingEntryRemainderSlice ℚ,
        slice.quantity = quantity - pending.makerLegFilled ∧
        after.makerRemainderSlices = pending.makerRemainderSlices ++ [slice] := by
  have whole : quantityDust < quantity - pending.makerLegFilled := by linarith
  unfold raiseMakerFill
  dsimp only
  rcases push_slice _ _ _ whole with ⟨slice, size, pushed⟩
  rw [pushed]
  exact ⟨rfl, rfl, rfl, slice, size, rfl⟩

/-- A maker report leaves the quantities alone, or raises the maker's and pushes
the difference. -/
theorem passive_cases (pending : PendingEntry ℚ) (progress : PassiveOrderProgress) :
    let after := pending.step (.passive progress)
    after.hedgeLegFilled = pending.hedgeLegFilled ∧
      after.targetQuantity = pending.targetQuantity ∧
      ((after.makerLegFilled = pending.makerLegFilled ∧
          after.makerRemainderSlices = pending.makerRemainderSlices) ∨
        ∃ quantity ∈ pending.reportedQuantity progress,
          pending.makerLegFilled + quantityDust < quantity ∧ after.makerLegFilled = quantity ∧
          ∃ slice : PendingEntryRemainderSlice ℚ,
            slice.quantity = quantity - pending.makerLegFilled ∧
            after.makerRemainderSlices = pending.makerRemainderSlices ++ [slice]) := by
  simp only [step, applyPendingEntryPassiveProgress, reportedQuantity]
  cases pending.passiveOrder with
  | none => exact ⟨rfl, rfl, Or.inl ⟨rfl, rfl⟩⟩
  | some order =>
      dsimp only [Option.map_some]
      split_ifs with raised
      · rcases raise_pushes { pending with passiveOrder := some _ } progress raised with
          ⟨maker, hedge, target, pushed⟩
        exact ⟨hedge, target, Or.inr ⟨_, rfl, raised, maker, pushed⟩⟩
      · exact ⟨rfl, rfl, Or.inl ⟨rfl, rfl⟩⟩

/-- The distance of two clamped differences. -/
theorem clamp_near (left right : ℚ) : |max 0 left - max 0 right| ≤ |left - right| := by
  rw [max_comm 0 left, max_comm 0 right]
  exact abs_max_sub_max_le_abs left right 0

/-- Slices close to the counters stay close when both sides lose a quantity. -/
theorem consumed_close {held missing taken error : ℚ} (positive : 0 ≤ taken)
    (close : |held - max 0 (missing + taken)| ≤ error) :
    |max 0 (held - taken) - max 0 missing| ≤ error := by
  have clamped : max 0 missing = max 0 (max 0 (missing + taken) - taken) := by
    rcases le_total 0 (missing + taken) with some | none
    · rw [max_eq_right some, add_sub_cancel_right]
    · rw [max_eq_left none, max_eq_left (by linarith), max_eq_left (by linarith)]
  calc |max 0 (held - taken) - max 0 missing|
      = |max 0 (held - taken) - max 0 (max 0 (missing + taken) - taken)| := by rw [← clamped]
    _ ≤ |held - taken - (max 0 (missing + taken) - taken)| := clamp_near _ _
    _ = |held - max 0 (missing + taken)| := by ring_nf
    _ ≤ error := close

/-- The FIFO consumption of a counted hedge keeps the slices close to the counters. -/
theorem fifo_close {pending : PendingEntry ℚ} {taken error : ℚ} (positive : 0 ≤ taken)
    (clean : Clean pending.makerRemainderSlices)
    (within : pending.makerLegFilled ≤ pending.targetQuantity)
    (close : |remainder pending.makerRemainderSlices -
      max 0 (pending.makerLegFilled - pending.hedgeLegFilled + taken)| ≤ error) :
    let after := (pending.consumeHedgeQuantityFifo taken).1
    Clean after.makerRemainderSlices ∧
      |remainder after.makerRemainderSlices -
        max 0 (pending.makerLegFilled - pending.hedgeLegFilled)| ≤ error + quantityDust := by
  have legacy : pending.legacyMissingHedgeQuantity =
      max 0 (pending.makerLegFilled - pending.hedgeLegFilled) := by
    rw [legacyMissingHedgeQuantity, min_eq_left within]
  generalize missing : pending.makerLegFilled - pending.hedgeLegFilled = quantity at close legacy ⊢
  unfold consumeHedgeQuantityFifo
  rw [max_eq_right positive]
  by_cases settled : taken ≤ quantityDust
  · dsimp only
    rw [if_pos settled]
    refine ⟨clean, ?_⟩
    have moved := clamp_near (quantity + taken) quantity
    rw [add_sub_cancel_left, abs_of_nonneg positive] at moved
    have steps := abs_sub_le (remainder pending.makerRemainderSlices)
      (max 0 (quantity + taken)) (max 0 quantity)
    linarith
  · dsimp only
    rw [if_neg settled]
    by_cases restored : pending.makerRemainderSlices.isEmpty = true ∧
        quantityDust < pending.legacyMissingHedgeQuantity
    · rw [if_pos restored]
      have empty : pending.makerRemainderSlices = [] := List.isEmpty_iff.mp restored.1
      have owed : quantityDust < quantity := by
        have owed := restored.2
        rw [legacy] at owed
        exact (lt_max_iff.mp owed).resolve_left (not_lt.mpr dust_pos.le)
      have nonnegative : 0 ≤ quantity := dust_pos.le.trans owed.le
      rw [max_eq_right nonnegative] at legacy
      rcases push_slice pending (some pending.fallbackMakerPrice) none owed with
        ⟨slice, size, pushed⟩
      rw [legacy, pushed, empty, List.nil_append]
      have cleanSlice : Clean [slice] := by
        intro other here
        rw [List.mem_singleton.mp here, size]
        exact owed
      have whole : remainder [slice] = quantity := by
        rw [remainder_cons, size]
        exact add_zero quantity
      refine ⟨consume_clean _ _ cleanSlice, ?_⟩
      have consumed := consume_remainder [slice] taken cleanSlice positive
      rw [whole] at consumed
      -- What was missing before the hedge was counted bounds the error so far.
      rw [empty] at close
      have before : quantity + taken ≤ error := by
        have missing := (abs_le.mp close).1
        rw [max_eq_right (by linarith)] at missing
        change -error ≤ 0 - (quantity + taken) at missing
        linarith
      have kept : |max 0 (quantity - taken) - max 0 quantity| ≤ error := by
        have moved := clamp_near (quantity - taken) quantity
        have lost : |quantity - taken - quantity| = taken := by
          rw [sub_sub_cancel_left, abs_neg, abs_of_nonneg positive]
        linarith
      have steps := abs_sub_le (remainder (consumeSlices taken [slice]).1)
        (max 0 (quantity - taken)) (max 0 quantity)
      dsimp only
      linarith
    · rw [if_neg restored]
      refine ⟨consume_clean _ _ clean, ?_⟩
      have consumed := consume_remainder pending.makerRemainderSlices taken clean positive
      have kept := consumed_close positive close
      have steps := abs_sub_le (remainder (consumeSlices taken pending.makerRemainderSlices).1)
        (max 0 (remainder pending.makerRemainderSlices - taken)) (max 0 quantity)
      dsimp only
      linarith

/-- The consumption touches nothing but the slices. -/
theorem fifo_frame (pending : PendingEntry ℚ) (taken : ℚ) :
    let after := (pending.consumeHedgeQuantityFifo taken).1
    after.makerLegFilled = pending.makerLegFilled ∧
      after.targetQuantity = pending.targetQuantity ∧
      after.hedgeLegFilled = pending.hedgeLegFilled := by
  unfold consumeHedgeQuantityFifo pushMakerRemainderSlice
  dsimp only
  split_ifs <;> exact ⟨rfl, rfl, rfl⟩

/-- A hedge report leaves the hedge alone, or counts a positive difference and
consumes it. -/
theorem hedge_cases (pending : PendingEntry ℚ) (report : HedgeProgress) :
    let after := pending.step (.hedge report)
    after.makerLegFilled = pending.makerLegFilled ∧
      after.targetQuantity = pending.targetQuantity ∧
      ((after.hedgeLegFilled = pending.hedgeLegFilled ∧
          after.makerRemainderSlices = pending.makerRemainderSlices) ∨
        ∃ taken, 0 ≤ taken ∧ after.hedgeLegFilled = pending.hedgeLegFilled + taken ∧
          after.makerRemainderSlices =
            ({ pending with hedgeLegFilled := pending.hedgeLegFilled + taken
              }.consumeHedgeQuantityFifo taken).1.makerRemainderSlices) := by
  have ahead : 0 ≤ max report.newTotalQuantity pending.hedgeLegFilled - pending.hedgeLegFilled :=
    sub_nonneg.mpr (le_max_right _ _)
  by_cases counted : 1 / 10 ^ 12 <
      max (max report.newTotalQuantity pending.hedgeLegFilled - pending.hedgeLegFilled) 0
  · simp only [step, applyPendingEntryHedgeProgress, if_pos counted]
    rw [max_eq_left ahead]
    generalize total : max report.newTotalQuantity pending.hedgeLegFilled = quantity at ahead ⊢
    rcases fifo_frame { pending with hedgeLegFilled := quantity }
      (quantity - pending.hedgeLegFilled) with ⟨maker, target, hedge⟩
    refine ⟨maker, target, Or.inr ⟨quantity - pending.hedgeLegFilled, ahead, ?_, ?_⟩⟩
    · rw [hedge, add_sub_cancel]
    · rw [add_sub_cancel]
  · simp only [step, applyPendingEntryHedgeProgress, if_neg counted]
    exact ⟨trivial, trivial, Or.inl ⟨trivial, trivial⟩⟩

/-! ## A run -/

/-- The slices and the counters of an entry agree up to the dust of some steps. -/
structure Tracks (steps : Nat) (pending : PendingEntry ℚ) : Prop where
  clean : Clean pending.makerRemainderSlices
  close : |remainder pending.makerRemainderSlices -
    max 0 (pending.makerLegFilled - pending.hedgeLegFilled)| ≤ steps * quantityDust

theorem step_tracks {pending : PendingEntry ℚ} {steps : Nat} {event : PendingEntryEvent}
    (tracks : Tracks steps pending) (within : pending.makerLegFilled ≤ pending.targetQuantity)
    (timely : ∀ progress, event = .passive progress → ¬ pending.LateMaker progress) :
    Tracks (steps + 1) (pending.step event) := by
  have wider : (steps : ℚ) * quantityDust ≤ (steps + 1 : Nat) * quantityDust := by
    push_cast
    linarith [dust_pos]
  cases event with
  | accepted cycle => exact ⟨tracks.clean, tracks.close.trans wider⟩
  | passive progress =>
      rcases passive_cases pending progress with
        ⟨hedge, -, ⟨maker, same⟩ | ⟨quantity, reported, raised, maker, slice, size, pushed⟩⟩
      · constructor
        · rw [same]
          exact tracks.clean
        · rw [same, maker, hedge]
          exact tracks.close.trans wider
      · -- The hedge is ahead of the maker by dust at most.
        have ahead : pending.hedgeLegFilled ≤ pending.makerLegFilled + quantityDust := by
          apply not_lt.mp
          intro late
          exact timely progress rfl ⟨late, quantity, reported, raised⟩
        have whole : quantityDust < slice.quantity := by linarith
        have sum : remainder (pending.makerRemainderSlices ++ [slice]) =
            remainder pending.makerRemainderSlices + slice.quantity := by simp [remainder]
        constructor
        · rw [pushed]
          intro other here
          rcases List.mem_append.mp here with old | new
          · exact tracks.clean other old
          · rw [List.mem_singleton.mp new]
            exact whole
        · rw [pushed, maker, hedge, sum, size, max_eq_right (by linarith)]
          have exact : remainder pending.makerRemainderSlices + (quantity - pending.makerLegFilled) -
              (quantity - pending.hedgeLegFilled) = remainder pending.makerRemainderSlices -
                (pending.makerLegFilled - pending.hedgeLegFilled) := by ring
          have clamped : |max 0 (pending.makerLegFilled - pending.hedgeLegFilled) -
              (pending.makerLegFilled - pending.hedgeLegFilled)| ≤ quantityDust := by
            rw [abs_le]
            constructor
            · linarith [le_max_right 0 (pending.makerLegFilled - pending.hedgeLegFilled), dust_pos]
            · have small : max 0 (pending.makerLegFilled - pending.hedgeLegFilled) ≤
                  pending.makerLegFilled - pending.hedgeLegFilled + quantityDust :=
                max_le (by linarith) (by linarith [dust_pos])
              linarith
          have total := abs_sub_le (remainder pending.makerRemainderSlices)
            (max 0 (pending.makerLegFilled - pending.hedgeLegFilled))
            (pending.makerLegFilled - pending.hedgeLegFilled)
          have close := tracks.close
          rw [exact]
          push_cast
          linarith
  | hedge report =>
      rcases hedge_cases pending report with
        ⟨maker, target, ⟨hedge, same⟩ | ⟨taken, positive, hedge, consumed⟩⟩
      · constructor
        · rw [same]
          exact tracks.clean
        · rw [same, maker, hedge]
          exact tracks.close.trans wider
      · have close := tracks.close
        rw [← sub_add_cancel (pending.makerLegFilled - pending.hedgeLegFilled) taken, sub_sub] at close
        let added := { pending with hedgeLegFilled := pending.hedgeLegFilled + taken }
        have cleanRows : Clean added.makerRemainderSlices := tracks.clean
        obtain ⟨cleanAfter, closeAfter⟩ := fifo_close positive cleanRows within close
        constructor
        · rw [consumed]
          exact cleanAfter
        · rw [consumed, maker, hedge]
          push_cast
          linarith

/-- The slices of a timely run track its counters. -/
theorem run_tracks {pending : PendingEntry ℚ} (unfilled : pending.makerLegFilled = 0)
    (unhedged : pending.hedgeLegFilled = 0) (fresh : pending.makerRemainderSlices = [])
    (events : List PendingEntryEvent)
    (within : ∀ before after, events = before ++ after →
      (pending.run before).makerLegFilled ≤ (pending.run before).targetQuantity)
    (timely : ∀ before progress after, events = before ++ .passive progress :: after →
      ¬ (pending.run before).LateMaker progress) :
    Tracks events.length (pending.run events) := by
  induction events using List.reverseRecOn with
  | nil =>
      constructor
      · intro slice here
        rw [run, List.foldl_nil, fresh] at here
        cases here
      · simp [run, remainder, fresh, unfilled, unhedged]
  | append_singleton before event ih =>
      have tracks := ih
        (by
          intro early late split
          exact within early (late ++ [event]) (by rw [split, List.append_assoc]))
        (by
          intro early progress late split
          exact timely early progress (late ++ [event]) (by rw [split]; simp))
      rw [run_snoc, List.length_append]
      apply step_tracks tracks (within before [event] rfl)
      intro progress same
      exact timely before progress [] (by rw [same])

/-- Entries whose slices track the counters ask for what the counters leave. -/
theorem Tracks.missing {steps : Nat} {pending : PendingEntry ℚ} (tracks : Tracks steps pending)
    (within : pending.makerLegFilled ≤ pending.targetQuantity) :
    |pending.missingHedgeQuantity - pending.unhedged| ≤ steps * quantityDust := by
  have whole : (pending.makerRemainderSlices.map (fun slice => max 0 slice.quantity)).sum =
      remainder pending.makerRemainderSlices := by
    unfold remainder
    congr 1
    apply List.map_congr_left
    intro slice here
    exact max_eq_right (dust_pos.trans (tracks.clean slice here)).le
  have owed : pending.unhedged = max 0 (pending.makerLegFilled - pending.hedgeLegFilled) := by
    rw [unhedged, min_eq_left within]
  rw [missingHedgeQuantity, unmatchedMakerQuantity, whole]
  split_ifs with some
  · rw [owed]
    exact tracks.close
  · have legacy : pending.legacyMissingHedgeQuantity = pending.unhedged := rfl
    rw [legacy, sub_self, abs_zero]
    exact mul_nonneg (Nat.cast_nonneg steps) dust_pos.le

/-- From an unfilled entry, in a run whose maker stays within the target and
reports no raise while the hedge is ahead, the missing hedge after each step is
what the counters leave, up to the dust of the steps taken. -/
theorem missing_hedge_tracks (pending : PendingEntry ℚ) (unfilled : pending.makerLegFilled = 0)
    (unhedged : pending.hedgeLegFilled = 0) (fresh : pending.makerRemainderSlices = [])
    (events : List PendingEntryEvent)
    (within : ∀ before after, events = before ++ after →
      (pending.run before).makerLegFilled ≤ (pending.run before).targetQuantity)
    (timely : ∀ before progress after, events = before ++ .passive progress :: after →
      ¬ (pending.run before).LateMaker progress)
    (before after : List PendingEntryEvent) (split : events = before ++ after) :
    |(pending.run before).missingHedgeQuantity -
      max 0 (min (pending.run before).makerLegFilled (pending.run before).targetQuantity -
        (pending.run before).hedgeLegFilled)| ≤ before.length * (1 / 10 ^ 9) := by
  have tracks : Tracks before.length (pending.run before) := by
    apply run_tracks unfilled unhedged fresh
    · intro early late here
      exact within early (late ++ after) (by rw [split, here, List.append_assoc])
    · intro early progress late here
      exact timely early progress (late ++ after) (by rw [split, here]; simp)
  exact tracks.missing (within before after split)

/-- An entry for ten units without any fill. -/
def unfilledEntry : PendingEntry ℚ where
  pendingId := "entry-1"
  symbol := "BTCUSDT"
  longVenue := .okx
  shortVenue := .bybit
  targetQuantity := 10
  longSide := .buy
  shortSide := .sell
  createdAtMs := 1
  makerLegFilled := 0
  hedgeLegFilled := 0
  makerPrice := 100
  makerFillPrice := 0
  hedgeFillPrice := 0

/-- An order for the whole entry, and a report of four units. -/
def acceptedAndFilled : List PendingEntryEvent :=
  [.accepted { targetQuantity := 10 }, .passive { cumulativeQuantity := 4, averagePrice := 100 }]

theorem missing_hedge_tracks_filled :
    (unfilledEntry.run acceptedAndFilled).missingHedgeQuantity = 4 ∧
      |(unfilledEntry.run acceptedAndFilled).missingHedgeQuantity -
        max 0 (min (unfilledEntry.run acceptedAndFilled).makerLegFilled
          (unfilledEntry.run acceptedAndFilled).targetQuantity -
          (unfilledEntry.run acceptedAndFilled).hedgeLegFilled)| ≤
        (acceptedAndFilled.length : ℚ) * (1 / 10 ^ 9) := by
  refine ⟨by decide +kernel, ?_⟩
  apply missing_hedge_tracks unfilledEntry rfl rfl rfl acceptedAndFilled _ _ acceptedAndFilled []
  · rfl
  · intro before after split
    rcases before with _ | ⟨first, _ | ⟨second, rest⟩⟩
    · decide +kernel
    · obtain ⟨rfl, -⟩ := List.cons.inj split
      decide +kernel
    · simp only [acceptedAndFilled, List.cons_append, List.cons.injEq] at split
      rcases split with ⟨rfl, rfl, split⟩
      rcases List.append_eq_nil_iff.mp split.symm with ⟨rfl, -⟩
      decide +kernel
  · intro before progress after split late
    rcases before with _ | ⟨first, rest⟩
    · cases split
    · obtain ⟨rfl, split⟩ := List.cons.inj split
      have alone : rest = [] := by
        cases rest with
        | nil => rfl
        | cons second rest => cases rest <;> cases split
      subst alone
      have ahead := late.1
      revert ahead
      decide +kernel

/-- A hedge that reports before the maker is asked for again. -/
theorem late_maker_hedged_twice :
    let events := [PendingEntryEvent.accepted { targetQuantity := 10 },
      .hedge { newTotalQuantity := 4 }, .passive { cumulativeQuantity := 4, averagePrice := 100 }]
    let after := unfilledEntry.run events
    (∀ taken ≤ events.length,
      (unfilledEntry.run (events.take taken)).makerLegFilled ≤
        (unfilledEntry.run (events.take taken)).targetQuantity) ∧
      after.missingHedgeQuantity = 4 ∧
      max 0 (min after.makerLegFilled after.targetQuantity - after.hedgeLegFilled) = 0 := by
  decide +kernel

end PendingEntry

end LightFee.Engine
