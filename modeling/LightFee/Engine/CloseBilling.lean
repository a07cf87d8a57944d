import Mathlib.Tactic.Linarith
import Mathlib.Tactic.Ring
import LightFee.Engine.CloseWriteback

/-!
# What the closes of a position bill

The legs of a close are billed by its own call, but the funding and the entry fees of a
position are amounts of the position: each call reads all of them. A position that is
closed in several calls is compared with one whose same legs are closed in one.
-/

namespace LightFee.Engine

/-! ## The bills of a journal -/

/-- The net amount of a terminal close. -/
def CloseRecord.billedNet (record : CloseRecord) : Option ExactFloat :=
  if record.kind = "exit.closed" then
    match record.get? "net_quote" with
    | some (.number value) => some value
    | _ => none
  else none

def CloseState.billedNets (state : CloseState) : List ExactFloat :=
  state.journal.filterMap CloseRecord.billedNet

namespace CloseState

theorem billedNets_append_other (state : CloseState) {kind : String}
    (payload : List (String × PayloadValue)) (other : kind ≠ "exit.closed") :
    (state.append kind payload).billedNets = state.billedNets := by
  rw [billedNets, append_journal, List.filterMap_append, List.filterMap_cons,
    CloseRecord.billedNet, if_neg other, List.filterMap_nil, List.append_nil, billedNets]

theorem billedNets_recordResidual [TextCase] (state : CloseState) (position : OpenPosition)
    (collected : CollectedClose) (call : CloseCall) :
    (state.recordResidual position collected call).billedNets = state.billedNets := by
  rw [recordResidual]
  split
  · rfl
  · exact billedNets_append_other state _ (by decide)

theorem billedNets_putPosition (state : CloseState) (position : OpenPosition) :
    (state.putPosition position).billedNets = state.billedNets := by
  rw [putPosition]
  split_ifs <;> rfl

theorem billedNets_registerUncertain (state : CloseState) (position : OpenPosition)
    (collected : CollectedClose) (call : CloseCall) :
    (state.registerUncertain position collected call).billedNets = state.billedNets := by
  rw [registerUncertain]
  split_ifs
  · exact billedNets_append_other _ _ (by decide)
  · rfl

theorem billedNets_announcePartial (state : CloseState) (written : OpenPosition)
    (collected : CollectedClose) (call : CloseCall) (gaps : List String) :
    (state.announcePartial written collected call gaps).billedNets = state.billedNets := by
  rw [announcePartial]
  split_ifs
  · exact billedNets_append_other _ _ (by decide)
  · rfl

theorem billedNets_retire (state : CloseState) (written : OpenPosition) :
    (state.retire written).billedNets = state.billedNets := by
  rw [retire]
  split_ifs
  · rfl
  · exact billedNets_append_other _ _ (by decide)
  · rfl

/-- The write-back bills nothing. -/
theorem billedNets_writeback (state : CloseState) (position : OpenPosition)
    (close : CloseExecution) (collected : CollectedClose) (call : CloseCall)
    (gaps : List String) :
    (writebackToState state position close collected call gaps).billedNets = state.billedNets := by
  rw [writebackToState, billedNets_retire, billedNets_announcePartial,
    billedNets_registerUncertain, billedNets_putPosition]

/-- A filled close without evidence gaps is billed. -/
theorem billedNets_announceClosed (state : CloseState) (position : OpenPosition)
    (close : CloseExecution) (collected : CollectedClose) (call : CloseCall)
    (filled : fillDust.lt (closedQuantity collected.longLegs) = true) :
    (state.announceClosed position close collected call []).billedNets =
      state.billedNets ++ [(buildExitPnlAttribution position close).netQuote] := by
  rw [announceClosed, filled, Bool.true_or, List.isEmpty_nil, Bool.true_and, if_pos rfl,
    billedNets, append_journal, List.filterMap_append]
  rfl

end CloseState

/-! ## Amounts of the position -/

/-- The fields of a position that a bill reads. -/
structure SameTerms (left right : OpenPosition) : Prop where
  longEntryPrice : left.longEntryPrice = right.longEntryPrice
  shortEntryPrice : left.shortEntryPrice = right.shortEntryPrice
  capturedFunding : left.capturedFundingQuote = right.capturedFundingQuote
  secondStageFunding : left.secondStageFundingQuote = right.secondStageFundingQuote
  longEntryFee : left.longEntryFeeQuote = right.longEntryFeeQuote
  shortEntryFee : left.shortEntryFeeQuote = right.shortEntryFeeQuote
  entryFeeEvidence : left.entryFeeEvidenceComplete = right.entryFeeEvidenceComplete

theorem SameTerms.trans {first second third : OpenPosition} (left : SameTerms first second)
    (right : SameTerms second third) : SameTerms first third where
  longEntryPrice := left.longEntryPrice.trans right.longEntryPrice
  shortEntryPrice := left.shortEntryPrice.trans right.shortEntryPrice
  capturedFunding := left.capturedFunding.trans right.capturedFunding
  secondStageFunding := left.secondStageFunding.trans right.secondStageFunding
  longEntryFee := left.longEntryFee.trans right.longEntryFee
  shortEntryFee := left.shortEntryFee.trans right.shortEntryFee
  entryFeeEvidence := left.entryFeeEvidence.trans right.entryFeeEvidence

theorem attributeResult_terms (position : OpenPosition) (close : CloseExecution)
    (reason : String) : SameTerms position (attributeResult position close reason) := by
  rw [attributeResult]
  split_ifs <;> exact ⟨rfl, rfl, rfl, rfl, rfl, rfl, rfl⟩

theorem SameTerms.stamped (position : OpenPosition) (nowMs : Int) :
    SameTerms position { position with lastRiskActionAtMs := nowMs } :=
  ⟨rfl, rfl, rfl, rfl, rfl, rfl, rfl⟩

/-- A close leaves the terms alone. -/
theorem writtenPosition_terms (position : OpenPosition) (close : CloseExecution)
    (collected : CollectedClose) (call : CloseCall) (gaps : List String) :
    SameTerms position (writtenPosition position close collected call gaps) := by
  have reduced : SameTerms position (reduceQuantities position
      (closedQuantity collected.longLegs) (closedQuantity collected.shortLegs)) :=
    ⟨rfl, rfl, rfl, rfl, rfl, rfl, rfl⟩
  have attributed := reduced.trans (attributeResult_terms _ close call.reason)
  rw [writtenPosition]
  split_ifs
  · exact attributed.trans (SameTerms.stamped _ _)
  · exact attributed
  · exact reduced.trans (SameTerms.stamped _ _)
  · exact reduced

/-- A close without evidence gaps adds its net amount. -/
theorem writtenPosition_net (position : OpenPosition) (close : CloseExecution)
    (collected : CollectedClose) (call : CloseCall) :
    (writtenPosition position close collected call []).currentNetQuote =
      position.currentNetQuote.add close.netQuote := by
  have attributed (reduced : OpenPosition) :
      (attributeResult reduced close call.reason).currentNetQuote =
        reduced.currentNetQuote.add close.netQuote := by
    rw [attributeResult]
  rw [writtenPosition, List.isEmpty_nil, if_pos rfl]
  split_ifs
  · exact attributed _
  · exact attributed _

theorem evidenceGaps_terms {left right : OpenPosition} (same : SameTerms left right)
    (collected : CollectedClose) : collected.evidenceGaps left = collected.evidenceGaps right := by
  rw [CollectedClose.evidenceGaps, CollectedClose.evidenceGaps, closeAccountingEvidenceGaps,
    closeAccountingEvidenceGaps, same.longEntryPrice, same.shortEntryPrice, same.entryFeeEvidence]

/-! ## Legs -/

/-- The numbers of a fill are rationals; a missing fee counts as none. -/
def CloseExecutionLeg.Exact (leg : CloseExecutionLeg) : Prop :=
  leg.fill.price.isFinite = true ∧ leg.fill.quantity.isFinite = true ∧
    (leg.fill.feeQuote.getD (.finite 0)).isFinite = true

def closedTotal (legs : List CloseExecutionLeg) : ℚ :=
  (legs.map (fun leg => leg.fill.quantity.toRat)).sum

def feesTotal (legs : List CloseExecutionLeg) : ℚ :=
  (legs.map (fun leg => (leg.fill.feeQuote.getD (.finite 0)).toRat)).sum

/-- What the legs gain at a gain for each closing price. -/
def gainTotal (gain : ℚ → ℚ) (legs : List CloseExecutionLeg) : ℚ :=
  (legs.map (fun leg => gain leg.fill.price.toRat * leg.fill.quantity.toRat)).sum

section Legs

variable {legs : List CloseExecutionLeg} (exactLegs : ∀ leg ∈ legs, leg.Exact)

include exactLegs

theorem closedQuantity_exact : closedQuantity legs = .finite (closedTotal legs) :=
  ExactFloat.sum_map_finite (fun leg member => ExactFloat.finite_toRat (exactLegs leg member).2.1)

theorem exitFee_exact : exitFee legs = .finite (feesTotal legs) :=
  ExactFloat.sum_map_finite (fun leg member => ExactFloat.finite_toRat (exactLegs leg member).2.2)

theorem longPricePnl_exact {position : OpenPosition} {entryPrice : ℚ}
    (entered : position.longEntryPrice = .finite entryPrice) :
    longPricePnl position legs = .finite (gainTotal (fun price => price - entryPrice) legs) := by
  apply ExactFloat.sum_map_finite
  intro leg member
  obtain ⟨price, quantity, -⟩ := exactLegs leg member
  rw [entered, ExactFloat.finite_toRat price, ExactFloat.finite_toRat quantity,
    ExactFloat.sub_finite, ExactFloat.mul_finite]
  rfl

theorem shortPricePnl_exact {position : OpenPosition} {entryPrice : ℚ}
    (entered : position.shortEntryPrice = .finite entryPrice) :
    shortPricePnl position legs = .finite (gainTotal (fun price => entryPrice - price) legs) := by
  apply ExactFloat.sum_map_finite
  intro leg member
  obtain ⟨price, quantity, -⟩ := exactLegs leg member
  rw [entered, ExactFloat.finite_toRat price, ExactFloat.finite_toRat quantity,
    ExactFloat.sub_finite, ExactFloat.mul_finite]
  rfl

end Legs

/-! ## Complete closes -/

/-- The amounts that the bills of a position read, as rationals. -/
structure BillTerms where
  longEntry : ℚ
  shortEntry : ℚ
  capturedFunding : ℚ
  secondStageFunding : ℚ
  longEntryFee : ℚ
  shortEntryFee : ℚ

def BillTerms.funding (terms : BillTerms) : ℚ := terms.capturedFunding + terms.secondStageFunding

def BillTerms.entryFee (terms : BillTerms) : ℚ := terms.longEntryFee + terms.shortEntryFee

/-- Price profit of the legs of a close minus their fees. -/
def BillTerms.earned (terms : BillTerms) (collected : CollectedClose) : ℚ :=
  gainTotal (fun price => price - terms.longEntry) collected.longLegs +
      gainTotal (fun price => terms.shortEntry - price) collected.shortLegs -
    (feesTotal collected.longLegs + feesTotal collected.shortLegs)

structure OpenPosition.Owes (position : OpenPosition) (terms : BillTerms) : Prop where
  longEntry : position.longEntryPrice = .finite terms.longEntry
  shortEntry : position.shortEntryPrice = .finite terms.shortEntry
  capturedFunding : position.capturedFundingQuote = .finite terms.capturedFunding
  secondStageFunding : position.secondStageFundingQuote = .finite terms.secondStageFunding
  longEntryFee : position.longEntryFeeQuote = .finite terms.longEntryFee
  shortEntryFee : position.shortEntryFeeQuote = .finite terms.shortEntryFee

theorem OpenPosition.Owes.transfer {left right : OpenPosition} {terms : BillTerms}
    (owes : left.Owes terms) (same : SameTerms left right) : right.Owes terms where
  longEntry := same.longEntryPrice.symm.trans owes.longEntry
  shortEntry := same.shortEntryPrice.symm.trans owes.shortEntry
  capturedFunding := same.capturedFunding.symm.trans owes.capturedFunding
  secondStageFunding := same.secondStageFunding.symm.trans owes.secondStageFunding
  longEntryFee := same.longEntryFee.symm.trans owes.longEntryFee
  shortEntryFee := same.shortEntryFee.symm.trans owes.shortEntryFee

/-- Both legs are filled, with all the evidence that a bill needs. -/
structure CompleteClose (position : OpenPosition) (collected : CollectedClose) : Prop where
  longExact : ∀ leg ∈ collected.longLegs, leg.Exact
  shortExact : ∀ leg ∈ collected.shortLegs, leg.Exact
  longFilled : fillDust.lt (closedQuantity collected.longLegs) = true
  shortFilled : fillDust.lt (closedQuantity collected.shortLegs) = true
  evidence : collected.evidenceGaps position = []

theorem settle_evidenceGaps (collected : CollectedClose) (position : OpenPosition) :
    collected.settle.evidenceGaps position = collected.evidenceGaps position := by
  have unresolved : collected.settle.unresolvedSubmissionLegs =
      collected.unresolvedSubmissionLegs := by
    simp [CollectedClose.unresolvedSubmissionLegs, CollectedClose.settle]
  rw [CollectedClose.evidenceGaps, unresolved]
  rfl

namespace CompleteClose

variable {position : OpenPosition} {collected : CollectedClose}

theorem transfer {other : OpenPosition} (complete : CompleteClose position collected)
    (same : SameTerms position other) : CompleteClose other collected :=
  { complete with evidence := (evidenceGaps_terms same collected).symm.trans complete.evidence }

variable (complete : CompleteClose position collected)

include complete

theorem not_isEmpty : collected.settle.isEmpty = false := by
  have filled := complete.longFilled
  rw [Bool.eq_false_iff]
  intro nothing
  simp only [CollectedClose.isEmpty, Bool.and_eq_true, List.isEmpty_iff] at nothing
  have longLegs : collected.longLegs = [] := nothing.1.2
  rw [longLegs] at filled
  exact absurd filled (by decide +kernel)

variable {terms : BillTerms} (owes : position.Owes terms)

include owes

/-- The net amount of a close counts all funding of the position. -/
theorem execution_net (reason : String) : (collected.settle.execution position reason).netQuote =
    .finite (terms.earned collected + terms.funding) := by
  have net : (collected.settle.execution position reason).netQuote =
      ((((longPricePnl position collected.longLegs).add
        (shortPricePnl position collected.shortLegs)).add position.capturedFundingQuote).add
          position.secondStageFundingQuote).sub
        ((exitFee collected.longLegs).add (exitFee collected.shortLegs)) := rfl
  rw [net, longPricePnl_exact complete.longExact owes.longEntry,
    shortPricePnl_exact complete.shortExact owes.shortEntry, exitFee_exact complete.longExact,
    exitFee_exact complete.shortExact, owes.capturedFunding, owes.secondStageFunding]
  simp only [ExactFloat.add_finite, ExactFloat.sub_finite, BillTerms.earned, BillTerms.funding]
  congr 1
  ring

/-- The bill counts all funding and all entry fees. -/
theorem attribution_net (reason : String) :
    (buildExitPnlAttribution position (collected.settle.execution position reason)).netQuote =
      .finite (terms.earned collected + terms.funding - terms.entryFee) := by
  have net : (buildExitPnlAttribution position
      (collected.settle.execution position reason)).netQuote =
      ((((longPricePnl position collected.longLegs).add
        (shortPricePnl position collected.shortLegs)).add (position.capturedFundingQuote.add
          position.secondStageFundingQuote)).sub (position.longEntryFeeQuote.add
            position.shortEntryFeeQuote)).sub
        ((exitFee collected.longLegs).add (exitFee collected.shortLegs)) := rfl
  rw [net, longPricePnl_exact complete.longExact owes.longEntry,
    shortPricePnl_exact complete.shortExact owes.shortEntry, exitFee_exact complete.longExact,
    exitFee_exact complete.shortExact, owes.capturedFunding, owes.secondStageFunding,
    owes.longEntryFee, owes.shortEntryFee]
  simp only [ExactFloat.add_finite, ExactFloat.sub_finite, BillTerms.earned, BillTerms.funding,
    BillTerms.entryFee]
  congr 1
  ring

/-- What a complete close writes and bills. -/
theorem finishClose_complete [TextCase] (state : CloseState) (call : CloseCall) :
    SameTerms position (finishClose state position collected call).2.2 ∧
      (finishClose state position collected call).2.2.currentNetQuote =
        position.currentNetQuote.add (.finite (terms.earned collected + terms.funding)) ∧
      (finishClose state position collected call).2.1.billedNets =
        state.billedNets ++ [.finite (terms.earned collected + terms.funding - terms.entryFee)] := by
  have evidence : collected.settle.evidenceGaps position = [] :=
    (settle_evidenceGaps collected position).trans complete.evidence
  have filled : fillDust.lt (closedQuantity collected.settle.longLegs) = true :=
    complete.longFilled
  rw [finishClose, if_neg (by rw [complete.not_isEmpty]; decide), evidence]
  refine ⟨writtenPosition_terms .., ?_, ?_⟩
  · rw [writtenPosition_net, complete.execution_net owes]
  · apply (CloseState.billedNets_announceClosed _ position _ collected.settle call filled).trans
    rw [CloseState.billedNets_writeback, CloseState.billedNets_recordResidual,
      CloseState.registerGaps, List.isEmpty_nil, if_pos rfl, complete.attribution_net owes]

end CompleteClose

/-! ## Closes together -/

/-- The legs of two closes in one. -/
def CollectedClose.append (first second : CollectedClose) : CollectedClose where
  shortLegs := first.shortLegs ++ second.shortLegs
  longLegs := first.longLegs ++ second.longLegs
  chunkShortCids := first.chunkShortCids ++ second.chunkShortCids
  chunkLongCids := first.chunkLongCids ++ second.chunkLongCids
  chunkShortOrderIds := first.chunkShortOrderIds ++ second.chunkShortOrderIds
  chunkLongOrderIds := first.chunkLongOrderIds ++ second.chunkLongOrderIds
  anyShortUncertain := first.anyShortUncertain || second.anyShortUncertain
  anyLongUncertain := first.anyLongUncertain || second.anyLongUncertain
  unresolvedShortClientOrderIds :=
    first.unresolvedShortClientOrderIds ++ second.unresolvedShortClientOrderIds
  unresolvedLongClientOrderIds :=
    first.unresolvedLongClientOrderIds ++ second.unresolvedLongClientOrderIds
  unresolvedShortSubmissionIdentities :=
    first.unresolvedShortSubmissionIdentities ++ second.unresolvedShortSubmissionIdentities
  unresolvedLongSubmissionIdentities :=
    first.unresolvedLongSubmissionIdentities ++ second.unresolvedLongSubmissionIdentities

/-- The legs of all closes in one. -/
def joinCloses (closes : List CollectedClose) : CollectedClose :=
  closes.foldr CollectedClose.append {}

theorem append_nothing (collected : CollectedClose) : collected.append {} = collected := by
  simp [CollectedClose.append]

theorem earned_append (terms : BillTerms) (first second : CollectedClose) :
    terms.earned (first.append second) = terms.earned first + terms.earned second := by
  simp only [BillTerms.earned, CollectedClose.append, gainTotal, feesTotal, List.map_append,
    List.sum_append]
  ring

theorem earned_join (terms : BillTerms) (closes : List CollectedClose) :
    terms.earned (joinCloses closes) = (closes.map terms.earned).sum := by
  induction closes with
  | nil => simp [joinCloses, BillTerms.earned, gainTotal, feesTotal]
  | cons close rest ih =>
    rw [joinCloses, List.foldr_cons, ← joinCloses, earned_append, ih, List.map_cons, List.sum_cons]

theorem legEvidenceGaps_append (label : String) (first second : List CloseExecutionLeg) :
    legEvidenceGaps label (first ++ second) = [] ↔
      legEvidenceGaps label first = [] ∧ legEvidenceGaps label second = [] := by
  simp only [legEvidenceGaps, List.map_append, List.filter_append, List.all_append,
    Bool.and_eq_true, List.append_eq_nil_iff, ite_eq_left_iff, List.cons_ne_nil, imp_false,
    not_not]
  tauto

theorem unresolved_append (first second : CollectedClose) :
    (first.append second).unresolvedSubmissionLegs = [] ↔
      first.unresolvedSubmissionLegs = [] ∧ second.unresolvedSubmissionLegs = [] := by
  simp only [unresolved_nil_iff, CollectedClose.append, Bool.or_eq_false_iff,
    List.append_eq_nil_iff]
  tauto

theorem CompleteClose.append {position : OpenPosition} {first second : CollectedClose}
    (left : CompleteClose position first) (right : CompleteClose position second) :
    CompleteClose position (first.append second) := by
  have exactLong : ∀ leg ∈ (first.append second).longLegs, leg.Exact := by
    intro leg member
    exact (List.mem_append.mp member).elim (left.longExact leg) (right.longExact leg)
  have exactShort : ∀ leg ∈ (first.append second).shortLegs, leg.Exact := by
    intro leg member
    exact (List.mem_append.mp member).elim (left.shortExact leg) (right.shortExact leg)
  have filled {legs others : List CloseExecutionLeg} (legsExact : ∀ leg ∈ legs, leg.Exact)
      (othersExact : ∀ leg ∈ others, leg.Exact) (bothExact : ∀ leg ∈ legs ++ others, leg.Exact)
      (legsFilled : fillDust.lt (closedQuantity legs) = true)
      (othersFilled : fillDust.lt (closedQuantity others) = true) :
      fillDust.lt (closedQuantity (legs ++ others)) = true := by
    rw [closedQuantity_exact legsExact, fillDust, ExactFloat.lt_finite,
      decide_eq_true_iff] at legsFilled
    rw [closedQuantity_exact othersExact, fillDust, ExactFloat.lt_finite,
      decide_eq_true_iff] at othersFilled
    rw [closedQuantity_exact bothExact, fillDust, ExactFloat.lt_finite, decide_eq_true_iff,
      closedTotal, List.map_append, List.sum_append, ← closedTotal, ← closedTotal]
    have dust : (0 : ℚ) < 1 / 10 ^ 12 := by norm_num
    linarith
  have leftEvidence := (evidenceGaps_nil_iff first position).mp left.evidence
  have rightEvidence := (evidenceGaps_nil_iff second position).mp right.evidence
  refine ⟨exactLong, exactShort, ?_, ?_, ?_⟩
  · exact filled left.longExact right.longExact exactLong left.longFilled right.longFilled
  · exact filled left.shortExact right.shortExact exactShort left.shortFilled right.shortFilled
  · obtain ⟨leftResolved, longPrice, shortPrice, fees, leftLong, leftShort⟩ := leftEvidence
    obtain ⟨rightResolved, -, -, -, rightLong, rightShort⟩ := rightEvidence
    exact (evidenceGaps_nil_iff _ position).mpr
      ⟨(unresolved_append first second).mpr ⟨leftResolved, rightResolved⟩, longPrice, shortPrice,
        fees, (legEvidenceGaps_append _ _ _).mpr ⟨leftLong, rightLong⟩,
        (legEvidenceGaps_append _ _ _).mpr ⟨leftShort, rightShort⟩⟩

/-- Complete closes in one are a complete close. -/
theorem completeClose_join {position : OpenPosition} {closes : List CollectedClose}
    (complete : ∀ close ∈ closes, CompleteClose position close) (some : closes ≠ []) :
    CompleteClose position (joinCloses closes) := by
  induction closes with
  | nil => exact absurd rfl some
  | cons close rest ih =>
    have first := complete close List.mem_cons_self
    rw [joinCloses, List.foldr_cons, ← joinCloses]
    by_cases alone : rest = []
    · rw [alone, joinCloses, List.foldr_nil, append_nothing]
      exact first
    · exact first.append (ih (fun other member => complete other (List.mem_cons_of_mem _ member))
        alone)

/-! ## Closing in turn -/

theorem sum_map_add_const (parts : List (CollectedClose × CloseCall))
    (term : CollectedClose × CloseCall → ℚ) (constant : ℚ) :
    (parts.map (fun part => term part + constant)).sum =
      (parts.map term).sum + parts.length * constant := by
  induction parts with
  | nil => simp
  | cons part rest ih =>
    rw [List.map_cons, List.sum_cons, ih, List.map_cons, List.sum_cons, List.length_cons]
    push_cast
    ring

theorem sum_finite_append (values : List ℚ) :
    ExactFloat.sum ([] ++ values.map ExactFloat.finite) = .finite values.sum := by
  rw [List.nil_append, ExactFloat.sum_finite]

section InTurn

variable [TextCase]

/-- Calls on one position, each with what its own submissions collected. -/
def closeInTurn (state : CloseState) (position : OpenPosition) :
    List (CollectedClose × CloseCall) → CloseState × OpenPosition
  | [] => (state, position)
  | (collected, call) :: rest =>
    let after := finishClose state position collected call
    closeInTurn after.2.1 after.2.2 rest

/-- Every call adds the funding again, and bills it with the entry fees again. -/
theorem closeInTurn_complete {position : OpenPosition} {terms : BillTerms}
    {parts : List (CollectedClose × CloseCall)} (state : CloseState) (netQuote : ℚ)
    (owes : position.Owes terms) (net : position.currentNetQuote = .finite netQuote)
    (complete : ∀ part ∈ parts, CompleteClose position part.1) :
    (closeInTurn state position parts).2.currentNetQuote =
        .finite (netQuote + (parts.map (fun part => terms.earned part.1 + terms.funding)).sum) ∧
      (closeInTurn state position parts).1.billedNets = state.billedNets ++
        (parts.map (fun part => terms.earned part.1 + terms.funding - terms.entryFee)).map
          ExactFloat.finite := by
  induction parts generalizing state position netQuote with
  | nil => simp [closeInTurn, net]
  | cons part rest ih =>
    obtain ⟨collected, call⟩ := part
    obtain ⟨same, written, billed⟩ :=
      (complete _ List.mem_cons_self).finishClose_complete owes state call
    rw [net, ExactFloat.add_finite] at written
    obtain ⟨restNet, restBilled⟩ := ih (finishClose state position collected call).2.1 _
      (owes.transfer same) written
      (fun other member => (complete other (List.mem_cons_of_mem _ member)).transfer same)
    rw [closeInTurn, restNet, restBilled, billed]
    constructor
    · rw [List.map_cons, List.sum_cons, add_assoc]
    · rw [List.map_cons, List.map_cons, List.append_assoc, List.singleton_append]

/-- The totals of a close in turn are the ones of the same legs closed in one call. -/
structure BillsOnce (runtime : RuntimeState) (position : OpenPosition)
    (parts : List (CollectedClose × CloseCall)) (call : CloseCall) : Prop where
  quote : (closeInTurn (.start runtime) position parts).2.currentNetQuote.sub
      position.currentNetQuote =
    (finishClose (.start runtime) position (joinCloses (parts.map Prod.fst))
      call).2.2.currentNetQuote.sub position.currentNetQuote
  events : ExactFloat.sum (closeInTurn (.start runtime) position parts).1.billedNets =
    ExactFloat.sum (finishClose (.start runtime) position (joinCloses (parts.map Prod.fst))
      call).2.1.billedNets

/-- Closing in turn adds and bills the amounts of the position once for each call. So
the totals agree exactly for a single call, or where there are no such amounts. -/
theorem bills_once_iff (runtime : RuntimeState) (position : OpenPosition) (terms : BillTerms)
    (parts : List (CollectedClose × CloseCall)) (call : CloseCall)
    (owes : position.Owes terms) (net : position.currentNetQuote.isFinite = true)
    (complete : ∀ part ∈ parts, CompleteClose position part.1) :
    BillsOnce runtime position parts call ↔
      parts.length ≤ 1 ∨ terms.funding = 0 ∧ terms.entryFee = 0 := by
  obtain ⟨netQuote, net⟩ := ExactFloat.finite_of_isFinite net
  obtain ⟨partsNet, partsBilled⟩ :=
    closeInTurn_complete (.start runtime) netQuote owes net complete
  by_cases nothing : parts = []
  · subst nothing
    simp only [List.length_nil, Nat.zero_le, true_or, iff_true]
    exact ⟨rfl, rfl⟩
  have joined : CompleteClose position (joinCloses (parts.map Prod.fst)) := by
    apply completeClose_join
    · intro close member
      obtain ⟨part, listed, rfl⟩ := List.mem_map.mp member
      exact complete part listed
    · exact fun empty => nothing (List.map_eq_nil_iff.mp empty)
  obtain ⟨-, singleNet, singleBilled⟩ :=
    joined.finishClose_complete owes (CloseState.start runtime) call
  have earned : terms.earned (joinCloses (parts.map Prod.fst)) =
      (parts.map (fun part => terms.earned part.1)).sum := by
    rw [earned_join, List.map_map]
    rfl
  have quotes : (closeInTurn (.start runtime) position parts).2.currentNetQuote.sub
        position.currentNetQuote =
      (finishClose (.start runtime) position (joinCloses (parts.map Prod.fst))
        call).2.2.currentNetQuote.sub position.currentNetQuote ↔
      ((parts.length : ℚ) - 1) * terms.funding = 0 := by
    rw [partsNet, singleNet, net, earned, ExactFloat.add_finite, ExactFloat.sub_finite,
      ExactFloat.sub_finite, ExactFloat.finite.injEq, sum_map_add_const]
    constructor <;> intro same <;> linarith
  have bills : ExactFloat.sum (closeInTurn (.start runtime) position parts).1.billedNets =
      ExactFloat.sum (finishClose (.start runtime) position (joinCloses (parts.map Prod.fst))
        call).2.1.billedNets ↔
      ((parts.length : ℚ) - 1) * (terms.funding - terms.entryFee) = 0 := by
    have partsSum := sum_finite_append
      (parts.map (fun part => terms.earned part.1 + terms.funding - terms.entryFee))
    have singleSum := sum_finite_append
      [terms.earned (joinCloses (parts.map Prod.fst)) + terms.funding - terms.entryFee]
    have constant : (fun part : CollectedClose × CloseCall =>
        terms.earned part.1 + terms.funding - terms.entryFee) =
        fun part => terms.earned part.1 + (terms.funding - terms.entryFee) := by
      funext part
      ring
    rw [partsBilled, singleBilled]
    refine (Eq.congr partsSum singleSum).trans ?_
    rw [ExactFloat.finite.injEq, constant, sum_map_add_const, List.sum_singleton, earned]
    constructor <;> intro same <;> linarith
  constructor
  · rintro ⟨quote, events⟩
    have fundingTimes := quotes.mp quote
    have feesTimes := bills.mp events
    by_cases single : parts.length ≤ 1
    · exact .inl single
    · have several : (parts.length : ℚ) - 1 ≠ 0 := by
        have more : (1 : ℚ) < parts.length := by exact_mod_cast not_le.mp single
        linarith
      have funding := (mul_eq_zero.mp fundingTimes).resolve_left several
      have fees := (mul_eq_zero.mp feesTimes).resolve_left several
      exact .inr ⟨funding, by linarith⟩
  · rintro (single | ⟨funding, fees⟩)
    · have one : (parts.length : ℚ) - 1 = 0 := by
        have length := List.length_pos_iff.mpr nothing
        have exactly : parts.length = 1 := by omega
        rw [exactly]
        norm_num
      exact ⟨quotes.mpr (by rw [one, zero_mul]), bills.mpr (by rw [one, zero_mul])⟩
    · exact ⟨quotes.mpr (by rw [funding, mul_zero]),
        bills.mpr (by rw [funding, fees, sub_zero, mul_zero])⟩

end InTurn

section Example

local instance billingCase : TextCase := .ascii

/-- Two units on each leg that have earned one unit of funding. -/
def fundedPosition : OpenPosition :=
  { positionId := "p1", symbol := "BTCUSDT", longVenue := .binance, shortVenue := .okx
    longQuantity := .finite 2, shortQuantity := .finite 2, matchedQuantity := .finite 2
    longEntryPrice := .finite 10, shortEntryPrice := .finite 10, openedAtMs := 0
    entryFeeEvidenceComplete := true, capturedFundingQuote := .finite 1 }

/-- Both legs are closed by a unit at the entry price. -/
def unitClose : CollectedClose × CloseCall :=
  ({ longLegs := [{ fill := { venue := .binance, symbol := "BTCUSDT", side := .sell
                              quantity := .finite 1, price := .finite 10, orderId := "1"
                              feeQuote := some (.finite 0) } }]
     shortLegs := [{ fill := { venue := .okx, symbol := "BTCUSDT", side := .buy
                               quantity := .finite 1, price := .finite 10, orderId := "2"
                               feeQuote := some (.finite 0) } }] },
    { reason := "exit", nowMs := 1 })

/-- The same position without funding. -/
def unfundedPosition : OpenPosition := { fundedPosition with capturedFundingQuote := .finite 0 }

def stateOf (position : OpenPosition) : RuntimeState :=
  { engine := { openPositions := OrderedDict.empty.insert "p1" position } }

theorem unitClose_complete : CompleteClose fundedPosition unitClose.1 where
  longExact := by
    intro leg member
    obtain rfl := List.mem_singleton.mp member
    exact ⟨rfl, rfl, rfl⟩
  shortExact := by
    intro leg member
    obtain rfl := List.mem_singleton.mp member
    exact ⟨rfl, rfl, rfl⟩
  longFilled := by decide +kernel
  shortFilled := by decide +kernel
  evidence := by decide +kernel

/-- One close of a funded position, and two closes of an unfunded one. -/
theorem bills_once_single :
    BillsOnce (stateOf fundedPosition) fundedPosition [unitClose] unitClose.2 ∧
      BillsOnce (stateOf unfundedPosition) unfundedPosition [unitClose, unitClose] unitClose.2 := by
  constructor
  · apply (bills_once_iff _ fundedPosition ⟨10, 10, 1, 0, 0, 0⟩ [unitClose] unitClose.2
      ⟨rfl, rfl, rfl, rfl, rfl, rfl⟩ rfl ?_).mpr
    · exact .inl (by decide)
    · intro part member
      obtain rfl := List.mem_singleton.mp member
      exact unitClose_complete
  · apply (bills_once_iff _ unfundedPosition ⟨10, 10, 0, 0, 0, 0⟩ [unitClose, unitClose]
      unitClose.2 ⟨rfl, rfl, rfl, rfl, rfl, rfl⟩ rfl ?_).mpr
    · exact .inr ⟨by decide +kernel, by decide +kernel⟩
    · intro part member
      obtain rfl : part = unitClose := by simpa using member
      exact { unitClose_complete with evidence := by decide +kernel }

/-- Two closes of a unit each count the funding twice. -/
theorem two_closes_bill_twice :
    ¬ BillsOnce (stateOf fundedPosition) fundedPosition [unitClose, unitClose] unitClose.2 := by
  intro once
  exact absurd once.quote (by decide +kernel)

end Example

end LightFee.Engine
