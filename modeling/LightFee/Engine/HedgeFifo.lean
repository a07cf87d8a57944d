import LightFee.Engine.HedgeRemainder
import Mathlib.Tactic.FieldSimp

/-!
# The hedge consumes the slices in their order

A consumption takes slices from the front: some whole, at most one in part, and none behind
that one. Slices and leftovers of dust are dropped. Nothing else is gained or lost, and the slice
taken in part keeps its average price. An entry without slices first gets back one slice with
what its counters leave to hedge.
-/

namespace LightFee.Engine

def PendingEntryRemainderSlice.averagePrice (slice : PendingEntryRemainderSlice ℚ) : ℚ :=
  if 0 < slice.quantity then slice.notionalQuote / slice.quantity else 0

namespace PendingEntry

/-- What a part taken from a slice leaves of it, unless that is dust. -/
def leftOver (part : PendingEntryRemainderSlice ℚ × ℚ) : Option (PendingEntryRemainderSlice ℚ) :=
  if part.1.quantity - part.2 ≤ quantityDust then none
  else some (takeFromSlice part.1 part.1.quantity part.2)

/-- The slices that are consumed whole hold more than dust. -/
def wholeQuantity (slices : List (PendingEntryRemainderSlice ℚ)) : ℚ :=
  remainder (slices.filter (fun slice => quantityDust < slice.quantity))

/-- How a consumption divides the slices: those gone from the front, the one taken in part with
the quantity taken, and the rest. -/
structure FifoConsumption (before after : List (PendingEntryRemainderSlice ℚ)) (consumed : ℚ) where
  front : List (PendingEntryRemainderSlice ℚ)
  parted : Option (PendingEntryRemainderSlice ℚ × ℚ)
  rest : List (PendingEntryRemainderSlice ℚ)
  before_eq : before = front ++ ((parted.map Prod.fst).toList ++ rest)
  after_eq : after = (parted.bind leftOver).toList ++ rest
  taken : ∀ part ∈ parted, 0 < part.2 ∧ part.2 < part.1.quantity
  consumed_eq : consumed = wholeQuantity front + (parted.map Prod.snd).getD 0

/-- The quantities that a consumption drops as dust, one for a slice at most. -/
def FifoConsumption.dropped {before after : List (PendingEntryRemainderSlice ℚ)} {consumed : ℚ}
    (consumption : FifoConsumption before after consumed) : List ℚ :=
  (consumption.front.filter (fun slice => slice.quantity ≤ quantityDust)).map
      PendingEntryRemainderSlice.quantity ++
    ((consumption.parted.map (fun part => part.1.quantity - part.2)).filter
      (· ≤ quantityDust)).toList

/-! ## What a division says -/

theorem whole_cons_dust {slice : PendingEntryRemainderSlice ℚ}
    (dust : slice.quantity ≤ quantityDust) (rest : List (PendingEntryRemainderSlice ℚ)) :
    wholeQuantity (slice :: rest) = 0 + wholeQuantity rest := by
  rw [wholeQuantity, List.filter_cons_of_neg (by simpa using dust), zero_add]
  rfl

theorem whole_cons_large {slice : PendingEntryRemainderSlice ℚ}
    (large : quantityDust < slice.quantity) (rest : List (PendingEntryRemainderSlice ℚ)) :
    wholeQuantity (slice :: rest) = slice.quantity + wholeQuantity rest := by
  rw [wholeQuantity, List.filter_cons_of_pos (by simpa using large), remainder_cons]
  rfl

theorem remainder_append (first second : List (PendingEntryRemainderSlice ℚ)) :
    remainder (first ++ second) = remainder first + remainder second := by
  rw [remainder, List.map_append, List.sum_append]
  rfl

/-- Slices are whole or dust. -/
theorem remainder_whole_dust (slices : List (PendingEntryRemainderSlice ℚ)) :
    remainder slices = wholeQuantity slices +
      ((slices.filter (fun slice => slice.quantity ≤ quantityDust)).map
        PendingEntryRemainderSlice.quantity).sum := by
  induction slices with
  | nil => exact (add_zero 0).symm
  | cons slice rest ih =>
    rw [remainder_cons, ih]
    rcases le_or_gt slice.quantity quantityDust with dust | large
    · rw [whole_cons_dust dust, List.filter_cons_of_pos (by simpa using dust), List.map_cons,
        List.sum_cons, zero_add, add_left_comm]
    · rw [whole_cons_large large, List.filter_cons_of_neg (by simpa using large), add_assoc]

/-- The slice taken in part loses the quantity taken and keeps its average price. -/
theorem leftOver_keeps {part : PendingEntryRemainderSlice ℚ × ℚ}
    (taken : 0 < part.2 ∧ part.2 < part.1.quantity) (notional : 0 ≤ part.1.notionalQuote) :
    ∀ left ∈ leftOver part, left.quantity = part.1.quantity - part.2 ∧
      left.averagePrice = part.1.averagePrice ∧ left.fillAtMs = part.1.fillAtMs := by
  intro left member
  have available : 0 < part.1.quantity := taken.1.trans taken.2
  have positive : 0 < part.1.quantity - part.2 := sub_pos.mpr taken.2
  rw [leftOver] at member
  split_ifs at member with dust
  · cases member
  · obtain rfl := Option.mem_some.mp member
    have quantity : max 0 (part.1.quantity - part.2) = part.1.quantity - part.2 :=
      max_eq_right positive.le
    have share : part.1.notionalQuote - part.1.notionalQuote * (part.2 / part.1.quantity) =
        part.1.notionalQuote / part.1.quantity * (part.1.quantity - part.2) := by
      field_simp
    have kept : 0 ≤ part.1.notionalQuote / part.1.quantity * (part.1.quantity - part.2) :=
      mul_nonneg (div_nonneg notional available.le) positive.le
    refine ⟨quantity, ?_, rfl⟩
    simp only [PendingEntryRemainderSlice.averagePrice, takeFromSlice, quantity, share,
      max_eq_right kept, if_pos positive, if_pos available]
    exact mul_div_cancel_right₀ _ positive.ne'

namespace FifoConsumption

variable {before after : List (PendingEntryRemainderSlice ℚ)} {consumed : ℚ}

/-- The quantity before is what was consumed, what is left and what was dropped. -/
theorem conserved (consumption : FifoConsumption before after consumed) :
    remainder before = consumed + remainder after + consumption.dropped.sum := by
  obtain ⟨front, parted, rest, rfl, rfl, taken, rfl⟩ := consumption
  simp only [dropped]
  rw [remainder_append, remainder_append, remainder_append, remainder_whole_dust front,
    List.sum_append]
  cases parted with
  | none =>
    simp only [Option.map_none, Option.toList_none, Option.bind_none, Option.getD_none,
      Option.filter_none, List.sum_nil, remainder, List.map_nil]
    ring
  | some part =>
    have inside := taken part rfl
    have positive : 0 ≤ part.1.quantity - part.2 := (sub_pos.mpr inside.2).le
    simp only [Option.map_some, Option.toList_some, Option.bind_some, Option.getD_some,
      Option.filter_some, leftOver, decide_eq_true_eq]
    split_ifs with dust
    · simp only [Option.toList_some, Option.toList_none, remainder, List.map_cons, List.map_nil,
        List.sum_cons, List.sum_nil]
      ring
    · simp only [Option.toList_some, Option.toList_none, remainder, List.map_cons, List.map_nil,
        List.sum_cons, List.sum_nil, takeFromSlice, max_eq_right positive]
      ring

/-- Each quantity dropped is dust. -/
theorem dropped_dust (consumption : FifoConsumption before after consumed)
    (positive : ∀ slice ∈ before, 0 < slice.quantity) :
    ∀ quantity ∈ consumption.dropped, 0 < quantity ∧ quantity ≤ quantityDust := by
  intro quantity member
  rcases List.mem_append.mp member with gone | left
  · obtain ⟨slice, listed, rfl⟩ := List.mem_map.mp gone
    obtain ⟨here, dust⟩ := List.mem_filter.mp listed
    refine ⟨positive slice ?_, of_decide_eq_true dust⟩
    rw [consumption.before_eq]
    exact List.mem_append_left _ here
  · obtain ⟨parted, dust⟩ := Option.mem_filter_iff.mp (Option.mem_toList.mp left)
    obtain ⟨part, here, rfl⟩ := Option.mem_map.mp parted
    exact ⟨sub_pos.mpr (consumption.taken part here).2, of_decide_eq_true dust⟩

/-- Each quantity dropped comes from a slice of its own. -/
theorem dropped_length (consumption : FifoConsumption before after consumed) :
    consumption.dropped.length ≤ before.length := by
  obtain ⟨front, parted, rest, rfl, rfl, taken, rfl⟩ := consumption
  simp only [dropped, List.length_append, List.length_map]
  have gone := List.length_filter_le (fun slice => decide (slice.quantity ≤ quantityDust)) front
  have left : ((parted.map (fun part => part.1.quantity - part.2)).filter
      (· ≤ quantityDust)).toList.length ≤ (parted.map Prod.fst).toList.length := by
    cases parted with
    | none => exact le_refl 0
    | some part =>
      rw [Option.map_some, Option.filter_some]
      split_ifs
      · exact le_refl 1
      · exact Nat.zero_le 1
  omega

/-! ## Building a division -/

/-- Nothing is taken. -/
def untouched (slices : List (PendingEntryRemainderSlice ℚ)) : FifoConsumption slices slices 0 where
  front := []
  parted := none
  rest := slices
  before_eq := rfl
  after_eq := rfl
  taken := by
    intro part member
    cases member
  consumed_eq := (add_zero 0).symm

/-- A slice goes before the others, and counts as much as is taken of it. -/
def behind {slice : PendingEntryRemainderSlice ℚ} {taken : ℚ}
    (consumption : FifoConsumption before after consumed)
    (counted : wholeQuantity (slice :: consumption.front) =
      taken + wholeQuantity consumption.front) :
    FifoConsumption (slice :: before) after (taken + consumed) where
  front := slice :: consumption.front
  parted := consumption.parted
  rest := consumption.rest
  before_eq := congrArg (slice :: ·) consumption.before_eq
  after_eq := consumption.after_eq
  taken := consumption.taken
  consumed_eq := by
    rw [counted, add_assoc]
    exact congrArg (taken + ·) consumption.consumed_eq

/-- A part of the first slice is taken, and nothing else. -/
def part {slice : PendingEntryRemainderSlice ℚ} {take : ℚ} (positive : 0 < take)
    (less : take < slice.quantity) (rest : List (PendingEntryRemainderSlice ℚ)) :
    FifoConsumption (slice :: rest) ((leftOver (slice, take)).toList ++ rest) take where
  front := []
  parted := some (slice, take)
  rest := rest
  before_eq := rfl
  after_eq := rfl
  taken := by
    intro part member
    obtain rfl := Option.mem_some.mp member
    exact ⟨positive, less⟩
  consumed_eq := (zero_add take).symm

end FifoConsumption

/-! ## The loop -/

section

variable {remaining : ℚ} {slice : PendingEntryRemainderSlice ℚ}
  {rest : List (PendingEntryRemainderSlice ℚ)}

theorem consume_dust (unsettled : quantityDust < remaining)
    (dust : slice.quantity ≤ quantityDust) :
    consumeSlices remaining (slice :: rest) = consumeSlices remaining rest := by
  have available : max 0 slice.quantity ≤ quantityDust := max_le dust_pos.le dust
  rw [consumeSlices, if_neg (not_le.mpr unsettled)]
  exact if_pos available

/-- The first slice holds more than dust, so the loop takes from it. -/
theorem consume_large (unsettled : quantityDust < remaining)
    (large : quantityDust < slice.quantity) :
    consumeSlices remaining (slice :: rest) =
      let take := min remaining slice.quantity
      let later := consumeSlices (remaining - take) rest
      ((leftOver (slice, take)).toList ++ later.1, take + later.2) := by
  have available : max 0 slice.quantity = slice.quantity := max_eq_right (dust_pos.trans large).le
  have left : max 0 (slice.quantity - min remaining slice.quantity) =
      slice.quantity - min remaining slice.quantity :=
    max_eq_right (sub_nonneg.mpr (min_le_right _ _))
  rw [consumeSlices, if_neg (not_le.mpr unsettled)]
  simp only [available, if_neg (not_le.mpr large), takeFromSlice, left, leftOver]
  split_ifs <;> rfl

theorem consume_whole (unsettled : quantityDust < remaining)
    (large : quantityDust < slice.quantity) (enough : slice.quantity ≤ remaining) :
    consumeSlices remaining (slice :: rest) =
      ((consumeSlices (remaining - slice.quantity) rest).1,
        slice.quantity + (consumeSlices (remaining - slice.quantity) rest).2) := by
  have nothing : leftOver (slice, slice.quantity) = none :=
    if_pos ((sub_self slice.quantity).trans_le dust_pos.le)
  rw [consume_large unsettled large, min_eq_right enough]
  dsimp only
  rw [nothing]
  rfl

theorem consume_part (unsettled : quantityDust < remaining) (less : remaining < slice.quantity) :
    consumeSlices remaining (slice :: rest) =
      ((leftOver (slice, remaining)).toList ++ rest, remaining) := by
  rw [consume_large unsettled (unsettled.trans less), min_eq_left less.le]
  dsimp only
  rw [sub_self, consume_settled dust_pos.le, add_zero]

end

/-- The loop divides the slices, takes at most the hedge's quantity, and ends short of it only by
dust or with no slice left. -/
theorem consume_fifo (slices : List (PendingEntryRemainderSlice ℚ)) (remaining : ℚ)
    (nonnegative : 0 ≤ remaining) :
    Nonempty (FifoConsumption slices (consumeSlices remaining slices).1
        (consumeSlices remaining slices).2) ∧
      (consumeSlices remaining slices).2 ≤ remaining ∧
      (remaining - (consumeSlices remaining slices).2 ≤ quantityDust ∨
        (consumeSlices remaining slices).1 = []) := by
  induction slices generalizing remaining with
  | nil => exact ⟨⟨.untouched []⟩, nonnegative, Or.inr rfl⟩
  | cons slice rest ih =>
    rcases le_or_gt remaining quantityDust with settled | unsettled
    · rw [consume_settled settled]
      exact ⟨⟨.untouched _⟩, nonnegative, Or.inl (by rw [sub_zero]; exact settled)⟩
    rcases le_or_gt slice.quantity quantityDust with dust | large
    · obtain ⟨⟨later⟩, bound, ended⟩ := ih remaining nonnegative
      rw [consume_dust unsettled dust]
      have counted := later.behind (whole_cons_dust dust _)
      rw [zero_add] at counted
      exact ⟨⟨counted⟩, bound, ended⟩
    rcases le_or_gt slice.quantity remaining with enough | less
    · obtain ⟨⟨later⟩, bound, ended⟩ :=
        ih (remaining - slice.quantity) (sub_nonneg.mpr enough)
      rw [consume_whole unsettled large enough]
      refine ⟨⟨later.behind (whole_cons_large large _)⟩, by linarith, ended.imp_left fun close => ?_⟩
      rw [sub_add_eq_sub_sub]
      exact close
    · rw [consume_part unsettled less]
      exact ⟨⟨.part (dust_pos.trans unsettled) less rest⟩, le_refl _,
        Or.inl (by rw [sub_self]; exact dust_pos.le)⟩

/-! ## The consumption of an entry -/

/-- The slices that the consumption starts from: an entry without slices gets back what its
counters leave to hedge, when a hedge of more than dust asks for it. -/
def slicesToConsume (pending : PendingEntry ℚ) (hedgeQuantity : ℚ) :
    List (PendingEntryRemainderSlice ℚ) :=
  if quantityDust < hedgeQuantity ∧ pending.makerRemainderSlices = [] ∧
      quantityDust < pending.legacyMissingHedgeQuantity then
    [{ quantity := pending.legacyMissingHedgeQuantity
       notionalQuote := max 0 pending.fallbackMakerPrice * pending.legacyMissingHedgeQuantity }]
  else pending.makerRemainderSlices

/-- The restored slice is priced like a maker fill whose report names no price. -/
theorem restored_slices (pending : PendingEntry ℚ)
    (missing : quantityDust < pending.legacyMissingHedgeQuantity) :
    (pending.pushMakerRemainderSlice pending.legacyMissingHedgeQuantity
      (some pending.fallbackMakerPrice) none).makerRemainderSlices =
        pending.makerRemainderSlices ++
          [{ quantity := pending.legacyMissingHedgeQuantity
             notionalQuote :=
               max 0 pending.fallbackMakerPrice * pending.legacyMissingHedgeQuantity }] := by
  have positive : max 0 pending.legacyMissingHedgeQuantity = pending.legacyMissingHedgeQuantity :=
    max_eq_right (dust_pos.trans missing).le
  unfold pushMakerRemainderSlice
  simp only [positive, if_neg (not_le.mpr missing), ite_self]
  rfl

/-- The consumption is the loop on the slices it starts from. -/
theorem consumption_eq (pending : PendingEntry ℚ) {hedgeQuantity : ℚ}
    (nonnegative : 0 ≤ hedgeQuantity) :
    ((pending.consumeHedgeQuantityFifo hedgeQuantity).1.makerRemainderSlices,
        (pending.consumeHedgeQuantityFifo hedgeQuantity).2) =
      consumeSlices hedgeQuantity (pending.slicesToConsume hedgeQuantity) := by
  unfold consumeHedgeQuantityFifo slicesToConsume
  rw [max_eq_right nonnegative]
  dsimp only
  by_cases settled : hedgeQuantity ≤ quantityDust
  · rw [if_pos settled, if_neg fun restored => absurd restored.1 (not_lt.mpr settled),
      consume_settled settled]
  · rw [if_neg settled]
    by_cases restored : pending.makerRemainderSlices = [] ∧
        quantityDust < pending.legacyMissingHedgeQuantity
    · rw [if_pos ⟨List.isEmpty_iff.mpr restored.1, restored.2⟩, if_pos ⟨not_le.mp settled, restored⟩,
        restored_slices pending restored.2, restored.1]
      rfl
    · rw [if_neg fun empty => restored ⟨List.isEmpty_iff.mp empty.1, empty.2⟩,
        if_neg fun all => restored all.2]

/-- The slices that the consumption starts from are positive where the entry's own are. -/
theorem slices_to_consume_positive (pending : PendingEntry ℚ) (hedgeQuantity : ℚ)
    (positive : ∀ slice ∈ pending.makerRemainderSlices,
      0 < slice.quantity ∧ 0 ≤ slice.notionalQuote) :
    ∀ slice ∈ pending.slicesToConsume hedgeQuantity,
      0 < slice.quantity ∧ 0 ≤ slice.notionalQuote := by
  unfold slicesToConsume
  split_ifs with restored
  · intro slice member
    obtain rfl := List.mem_singleton.mp member
    have missing := dust_pos.trans restored.2.2
    exact ⟨missing, mul_nonneg (le_max_left 0 _) missing.le⟩
  · exact positive

/-- A hedge consumes the slices in their order and in exact amounts: it takes no more than its
quantity, the slices before are what was taken, what is left and dust, of at most one dust a
slice, and it falls short of a quantity that the slices hold only by dust. The slices before are
the entry's own, or the one restored from its counters. -/
theorem consumption_exact (pending : PendingEntry ℚ) (hedgeQuantity : ℚ)
    (positive : ∀ slice ∈ pending.makerRemainderSlices,
      0 < slice.quantity ∧ 0 ≤ slice.notionalQuote)
    (nonnegative : 0 ≤ hedgeQuantity) :
    let before := pending.slicesToConsume hedgeQuantity
    let after := (pending.consumeHedgeQuantityFifo hedgeQuantity).1.makerRemainderSlices
    let consumed := (pending.consumeHedgeQuantityFifo hedgeQuantity).2
    (pending.makerRemainderSlices ≠ [] → before = pending.makerRemainderSlices) ∧
      consumed ≤ hedgeQuantity ∧
      ∃ consumption : FifoConsumption before after consumed,
        (∀ part ∈ consumption.parted, ∀ left ∈ leftOver part,
          left.quantity = part.1.quantity - part.2 ∧
            left.averagePrice = part.1.averagePrice ∧ left.fillAtMs = part.1.fillAtMs) ∧
        remainder before = consumed + remainder after + consumption.dropped.sum ∧
        (consumption.dropped.length ≤ before.length ∧
          ∀ quantity ∈ consumption.dropped, 0 < quantity ∧ quantity ≤ quantityDust) ∧
        (hedgeQuantity ≤ remainder before →
          hedgeQuantity - consumed ≤ quantityDust + consumption.dropped.sum) := by
  intro before after consumed
  have slices := slices_to_consume_positive pending hedgeQuantity positive
  have loop := consumption_eq pending nonnegative
  have same : (consumeSlices hedgeQuantity before).1 = after := (congrArg Prod.fst loop).symm
  have amount : (consumeSlices hedgeQuantity before).2 = consumed := (congrArg Prod.snd loop).symm
  obtain ⟨⟨consumption⟩, bound, ended⟩ := consume_fifo before hedgeQuantity nonnegative
  rw [same, amount] at ended
  rw [amount] at bound
  revert consumption
  rw [same, amount]
  intro consumption
  have conserved := consumption.conserved
  have dust := consumption.dropped_dust fun slice member => (slices slice member).1
  have dropped : 0 ≤ consumption.dropped.sum := List.sum_nonneg fun quantity member =>
    (dust quantity member).1.le
  refine ⟨fun own => if_neg fun restored => own restored.2.1, bound, consumption, ?_, conserved,
    ⟨consumption.dropped_length, dust⟩, fun held => ?_⟩
  · intro part member
    have listed : part.1 ∈ before := by
      rw [consumption.before_eq, Option.mem_def.mp member]
      exact List.mem_append_right _ List.mem_cons_self
    exact leftOver_keeps (consumption.taken part member) (slices part.1 listed).2
  · rcases ended with close | empty
    · linarith
    · have nothing : remainder after = 0 := by
        rw [empty]
        rfl
      linarith [dust_pos]

/-- Two slices, of two units at 100 and of three at 110. -/
def twoSlices : PendingEntry ℚ :=
  { unfilledEntry with makerRemainderSlices := [⟨2, 200, none⟩, ⟨3, 330, none⟩] }

theorem consumption_exact_two_slices :
    (twoSlices.consumeHedgeQuantityFifo 4).2 ≤ 4 ∧
      ∃ consumption : FifoConsumption (twoSlices.slicesToConsume 4)
          (twoSlices.consumeHedgeQuantityFifo 4).1.makerRemainderSlices
          (twoSlices.consumeHedgeQuantityFifo 4).2,
        4 - (twoSlices.consumeHedgeQuantityFifo 4).2 ≤
          quantityDust + consumption.dropped.sum := by
  have slices : ∀ slice ∈ twoSlices.makerRemainderSlices,
      0 < slice.quantity ∧ 0 ≤ slice.notionalQuote := by
    intro slice member
    rcases List.mem_cons.mp member with rfl | later
    · exact ⟨by decide +kernel, by decide +kernel⟩
    · obtain rfl := List.mem_singleton.mp later
      exact ⟨by decide +kernel, by decide +kernel⟩
  obtain ⟨-, bound, consumption, -, -, -, reached⟩ :=
    consumption_exact twoSlices 4 slices (by decide +kernel)
  exact ⟨bound, consumption, reached (by decide +kernel)⟩

/-- An entry without slices whose counters leave one unit to hedge consumes that unit, so the
slices before do not account for it. -/
theorem restored_unit_unaccounted :
    ¬ ∀ (pending : PendingEntry ℚ) (hedgeQuantity : ℚ),
      (∀ slice ∈ pending.makerRemainderSlices, 0 < slice.quantity ∧ 0 ≤ slice.notionalQuote) →
      0 ≤ hedgeQuantity →
      ∃ dust, 0 ≤ dust ∧ remainder pending.makerRemainderSlices =
        (pending.consumeHedgeQuantityFifo hedgeQuantity).2 +
          remainder (pending.consumeHedgeQuantityFifo hedgeQuantity).1.makerRemainderSlices +
          dust := by
  intro accounted
  obtain ⟨dust, nonnegative, total⟩ := accounted { unfilledEntry with makerLegFilled := 1 } 1
    (fun slice member => absurd member List.not_mem_nil) (by decide +kernel)
  have consumed : (({ unfilledEntry with makerLegFilled := 1 } :
      PendingEntry ℚ).consumeHedgeQuantityFifo 1).2 = 1 := by decide +kernel
  have left : remainder (({ unfilledEntry with makerLegFilled := 1 } :
      PendingEntry ℚ).consumeHedgeQuantityFifo 1).1.makerRemainderSlices = 0 := by decide +kernel
  have before : remainder ({ unfilledEntry with makerLegFilled := 1 } :
      PendingEntry ℚ).makerRemainderSlices = 0 := by decide +kernel
  rw [consumed, left, before] at total
  linarith

end PendingEntry

end LightFee.Engine
