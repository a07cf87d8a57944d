import LightFee.Engine.ChunkBilling
import LightFee.Engine.CloseWriteback

/-!
# Passive and aggressive closes of the same fills

Both ends of a close bill the same fills, reduce the position and look for exposure that is
left on one leg. The aggressive one splits the position as it was, the passive one splits
the position that it has reduced already, where the matched quantity counts twice.
-/

namespace LightFee.Engine

open LightFee.Venues DynValue

/-! ## The same fills -/

/-- A fill as a persisted leg shows it: a fee without evidence is hidden. -/
def OrderFill.shown (fill : OrderFill) : OrderFill :=
  if feeEvidenceComplete fill.feeQuote then fill else { fill with feeQuote := none }

/-- The numbers of a fill are rationals and its quantity is not below zero. -/
structure OrderFill.Rational (fill : OrderFill) : Prop where
  quantity : ∃ quantity : ℚ, 0 ≤ quantity ∧ fill.quantity = .finite quantity
  price : fill.price.isFinite = true
  fee : ∀ fee ∈ fill.feeQuote, fee.isFinite = true

def fillsTotal (fills : List OrderFill) : ℚ := (fills.map (fun fill => fill.quantity.toRat)).sum

/-- A leg says whether its fill shows the fee. -/
def PersistedCloseExecutionLeg.Flagged (leg : PersistedCloseExecutionLeg) : Prop :=
  ∀ fill ∈ leg.fill, leg.feeEvidenceComplete = some (Engine.feeEvidenceComplete fill.feeQuote)

/-- The legs of a side carry the fills, with the evidence that was seen for their fees, and
the counter of the side shows no more than they do. -/
structure PendingPassiveClose.Keeps (pending : PendingPassiveClose) (side : ActiveMakerLeg)
    (fills : List OrderFill) : Prop where
  kept : (pending.legsOn side).filterMap PersistedCloseExecutionLeg.fill = fills
  flagged : ∀ leg ∈ pending.legsOn side, leg.Flagged
  counter : ∃ counted : ℚ, (pending.fillOn side).quantity = .finite counted ∧
    counted ≤ fillsTotal fills + 1 / 10 ^ 9

/-- All submissions of an aggressive close are answered, by these fills. -/
structure CollectedClose.Returns (collected : CollectedClose)
    (longFills shortFills : List OrderFill) : Prop where
  long : collected.longLegs.map CloseExecutionLeg.fill = longFills
  short : collected.shortLegs.map CloseExecutionLeg.fill = shortFills
  longCertain : collected.anyLongUncertain = false
  shortCertain : collected.anyShortUncertain = false
  longKnown : collected.unresolvedLongSubmissionIdentities = []
  shortKnown : collected.unresolvedShortSubmissionIdentities = []

@[simp] theorem OrderFill.shown_quantity (fill : OrderFill) :
    fill.shown.quantity = fill.quantity := by
  rw [OrderFill.shown]
  split_ifs <;> rfl

@[simp] theorem OrderFill.shown_price (fill : OrderFill) : fill.shown.price = fill.price := by
  rw [OrderFill.shown]
  split_ifs <;> rfl

/-- Hiding a fee without evidence leaves it without evidence. -/
@[simp] theorem OrderFill.shown_evidence (fill : OrderFill) :
    hasFeeEvidence fill.shown.feeQuote = hasFeeEvidence fill.feeQuote := by
  rw [OrderFill.shown]
  split_ifs with evidence
  · rfl
  · rw [feeEvidenceComplete, Bool.not_eq_true] at evidence
    rw [evidence]
    rfl

/-- A passive close shows the fills that its legs carry. -/
theorem executedLegs_fills {legs : List PersistedCloseExecutionLeg}
    (flagged : ∀ leg ∈ legs, leg.Flagged) :
    (executedLegs legs).map CloseExecutionLeg.fill =
      (legs.filterMap PersistedCloseExecutionLeg.fill).map OrderFill.shown := by
  induction legs with
  | nil => rfl
  | cons leg rest hyp =>
    have tail := hyp (fun other member => flagged other (List.mem_cons_of_mem _ member))
    rw [executedLegs] at tail ⊢
    cases filled : leg.fill with
    | none => simpa [persistedLegFill, filled] using tail
    | some fill =>
      have flag := flagged leg List.mem_cons_self fill filled
      cases evidence : feeEvidenceComplete fill.feeQuote with
      | true => simpa [persistedLegFill, filled, flag, evidence, OrderFill.shown] using tail
      | false => simpa [persistedLegFill, filled, flag, evidence, OrderFill.shown] using tail

/-! ## What the legs tell -/

section Legs

variable {left right : List CloseExecutionLeg} {fills : List OrderFill}
  (hidden : left.map CloseExecutionLeg.fill = fills.map OrderFill.shown)
  (raw : right.map CloseExecutionLeg.fill = fills)

include hidden raw

/-- A sum that reads neither fee is the same. -/
theorem sum_shown (term : OrderFill → ExactFloat) (blind : ∀ fill, term fill.shown = term fill) :
    ExactFloat.sum (left.map (fun leg => term leg.fill)) =
      ExactFloat.sum (right.map (fun leg => term leg.fill)) := by
  have leftTerms : left.map (fun leg => term leg.fill) =
      (left.map CloseExecutionLeg.fill).map term := by rw [List.map_map]; rfl
  have rightTerms : right.map (fun leg => term leg.fill) =
      (right.map CloseExecutionLeg.fill).map term := by rw [List.map_map]; rfl
  rw [leftTerms, rightTerms, hidden, raw, List.map_map]
  congr 1
  exact List.map_congr_left (fun fill _ => blind fill)

theorem closedQuantity_shown : closedQuantity left = closedQuantity right :=
  sum_shown hidden raw (fun fill => fill.quantity) (fun fill => fill.shown_quantity)

theorem longPricePnl_shown (position : OpenPosition) :
    longPricePnl position left = longPricePnl position right :=
  sum_shown hidden raw (fun fill => (fill.price.sub position.longEntryPrice).mul fill.quantity)
    (fun fill => by rw [fill.shown_price, fill.shown_quantity])

theorem shortPricePnl_shown (position : OpenPosition) :
    shortPricePnl position left = shortPricePnl position right :=
  sum_shown hidden raw (fun fill =>
    (position.shortEntryPrice.sub fill.price).mul fill.quantity)
    (fun fill => by rw [fill.shown_price, fill.shown_quantity])

theorem legEvidenceGaps_shown (label : String) :
    legEvidenceGaps label left = legEvidenceGaps label right := by
  rw [legEvidenceGaps, legEvidenceGaps, hidden, raw]
  simp only [List.filter_map, List.all_map, Function.comp_def, OrderFill.shown_quantity,
    OrderFill.shown_price, OrderFill.shown_evidence]

end Legs

/-! ## What the ends of a close leave -/

namespace CloseState

/-- A reconciliation was registered. -/
def registers (state : CloseState) : Bool :=
  state.journal.any (fun record =>
    decide (record.kind = "exit.pending_close_reconciliation_registered"))

abbrev storedRepairs (state : CloseState) : List DynValue :=
  state.runtime.engine.pendingResidualRepairs

theorem registers_append (state : CloseState) (kind : String)
    (payload : List (String × PayloadValue)) :
    (state.append kind payload).registers =
      (state.registers || decide (kind = "exit.pending_close_reconciliation_registered")) := by
  simp [registers, append]

theorem registers_append_other (state : CloseState) {kind : String}
    (payload : List (String × PayloadValue))
    (other : kind ≠ "exit.pending_close_reconciliation_registered") :
    (state.append kind payload).registers = state.registers := by
  rw [registers_append, decide_eq_false other, Bool.or_false]

@[simp] theorem registers_enqueue (state : CloseState) (item : DynValue) :
    (state.enqueueReconciliation item).registers = state.registers := by
  rw [registers, enqueueReconciliation, registers]

theorem registers_register (state : CloseState) (position : OpenPosition)
    (collected : CollectedClose) (call : CloseCall) (source : String) (gaps : List String) :
    (registerCloseAccountingReconciliation state position collected call source gaps).registers =
      true := by
  rw [registerCloseAccountingReconciliation, registers_enqueue, registers_append,
    decide_eq_true rfl, Bool.or_true]

@[simp] theorem storedRepairs_enqueue (state : CloseState) (item : DynValue) :
    (state.enqueueReconciliation item).storedRepairs = state.storedRepairs := by
  rw [enqueueReconciliation]

@[simp] theorem storedRepairs_register (state : CloseState) (position : OpenPosition)
    (collected : CollectedClose) (call : CloseCall) (source : String) (gaps : List String) :
    (registerCloseAccountingReconciliation state position collected call source
      gaps).storedRepairs = state.storedRepairs := by
  rw [registerCloseAccountingReconciliation, storedRepairs_enqueue]
  rfl

@[simp] theorem registers_putPosition (state : CloseState) (position : OpenPosition) :
    (state.putPosition position).registers = state.registers := by
  rw [putPosition]
  split_ifs <;> rfl

@[simp] theorem storedRepairs_putPosition (state : CloseState) (position : OpenPosition) :
    (state.putPosition position).storedRepairs = state.storedRepairs := by
  rw [putPosition]
  split_ifs <;> rfl

/-! ### The passive end -/

@[simp] theorem registerPassiveGaps_positions (state : CloseState) (position : OpenPosition)
    (collected : CollectedClose) (reason : String) (nowMs : Int) (gaps : List String) :
    (state.registerPassiveGaps position collected reason nowMs gaps).positions =
      state.positions := by
  rw [registerPassiveGaps]
  split_ifs
  · rfl
  · rw [register_positions]

@[simp] theorem registerPassiveGaps_newRepairs (state : CloseState) (position : OpenPosition)
    (collected : CollectedClose) (reason : String) (nowMs : Int) (gaps : List String) :
    (state.registerPassiveGaps position collected reason nowMs gaps).newRepairs =
      state.newRepairs := by
  rw [registerPassiveGaps]
  split_ifs
  · rfl
  · rw [register_newRepairs]

@[simp] theorem registerPassiveGaps_storedRepairs (state : CloseState) (position : OpenPosition)
    (collected : CollectedClose) (reason : String) (nowMs : Int) (gaps : List String) :
    (state.registerPassiveGaps position collected reason nowMs gaps).storedRepairs =
      state.storedRepairs := by
  rw [registerPassiveGaps]
  split_ifs
  · rfl
  · rw [storedRepairs_register]

theorem registerPassiveGaps_registers (state : CloseState) (position : OpenPosition)
    (collected : CollectedClose) (reason : String) (nowMs : Int) (gaps : List String) :
    (state.registerPassiveGaps position collected reason nowMs gaps).registers =
      (state.registers || !gaps.isEmpty) := by
  rw [registerPassiveGaps]
  split_ifs with complete
  · rw [complete, Bool.not_true, Bool.or_false]
  · rw [Bool.not_eq_true] at complete
    rw [registers_register, complete, Bool.not_false, Bool.or_true]

/-- The repair comes behind the ones that are there. -/
theorem appendResidual_newRepairs (state : CloseState) (positionId : String)
    (residual : Option ResidualExposureTask) :
    (state.appendResidual positionId residual).newRepairs =
      state.newRepairs ++ residual.toList := by
  cases residual with
  | none => exact (List.append_nil _).symm
  | some task => rfl

@[simp] theorem appendResidual_runtime (state : CloseState) (positionId : String)
    (residual : Option ResidualExposureTask) :
    (state.appendResidual positionId residual).runtime = state.runtime := by
  cases residual <;> rfl

@[simp] theorem appendResidual_registers (state : CloseState) (positionId : String)
    (residual : Option ResidualExposureTask) :
    (state.appendResidual positionId residual).registers = state.registers := by
  cases residual with
  | none => rfl
  | some task => exact registers_append_other _ _ (by decide)

theorem removePassive_positions (state : CloseState) (positionId : String)
    (written : OpenPosition) :
    (state.removePassive positionId written).positions =
      if written.matchedQuantity.lt fillDust then state.positions.erase positionId
      else state.positions := by
  rw [removePassive]
  split_ifs <;> rfl

theorem removePassive_rest (state : CloseState) (positionId : String) (written : OpenPosition) :
    (state.removePassive positionId written).newRepairs = state.newRepairs ∧
      (state.removePassive positionId written).storedRepairs = state.storedRepairs ∧
      (state.removePassive positionId written).registers = state.registers := by
  rw [removePassive]
  split_ifs <;> exact ⟨rfl, rfl, rfl⟩

theorem announcePassiveClosed_rest (state : CloseState) (pending : PendingPassiveClose)
    (written : OpenPosition) (residual : Option ResidualExposureTask) (collected : CollectedClose)
    (nowMs : Int) (gaps : List String) :
    (state.announcePassiveClosed pending written residual collected nowMs gaps).runtime =
        state.runtime ∧
      (state.announcePassiveClosed pending written residual collected nowMs gaps).newRepairs =
        state.newRepairs ∧
      (state.announcePassiveClosed pending written residual collected nowMs gaps).registers =
        state.registers := by
  rw [announcePassiveClosed]
  split_ifs
  · exact ⟨rfl, rfl, registers_append_other _ _ (by decide)⟩
  · exact ⟨rfl, rfl, registers_append_other _ _ (by decide)⟩
  · exact ⟨rfl, rfl, rfl⟩

end CloseState

section Passive

variable [TextCase] (state : CloseState) {pending : PendingPassiveClose} {position : OpenPosition}
  (nowMs : Int) (held : pending.positionSnapshot = some position)

include held

/-- The position that a passive close wrote is removed or stays. -/
theorem finalizePassiveClose_find (sameId : pending.positionId = position.positionId)
    (known : state.positions.contains position.positionId = true) :
    (finalizePassiveClose state pending nowMs).state.positions.find? position.positionId =
      if (passiveWritten position (pending.collected position)
          pending.reason).matchedQuantity.lt fillDust then none
      else some (passiveWritten position (pending.collected position) pending.reason) := by
  have id : (passiveWritten position (pending.collected position) pending.reason).positionId =
      position.positionId := by
    rw [passiveWritten]
    split_ifs <;> rfl
  have put (registered : CloseState) (same : registered.positions = state.positions) :
      (registered.putPosition (passiveWritten position (pending.collected position)
        pending.reason)).positions = state.positions.insert position.positionId
          (passiveWritten position (pending.collected position) pending.reason) := by
    rw [CloseState.putPosition_held _ _ (by rw [same, id]; exact known), same, id]
  simp only [finalizePassiveClose, held, CloseState.positions,
    (CloseState.announcePassiveClosed_rest ..).1, CloseState.append_runtime]
  rw [← CloseState.positions, CloseState.removePassive_positions, CloseState.positions,
    CloseState.appendResidual_runtime, ← CloseState.positions,
    put _ (CloseState.registerPassiveGaps_positions ..), sameId]
  split_ifs with gone
  · rw [OrderedDict.find_erase, if_pos rfl]
  · rw [OrderedDict.find_insert, if_pos rfl]

/-- The passive split reads the position that is written already. -/
theorem finalizePassiveClose_rest :
    let collected := pending.collected position
    let written := passiveWritten position collected pending.reason
    (finalizePassiveClose state pending nowMs).position = some written ∧
      (finalizePassiveClose state pending nowMs).state.newRepairs =
        state.newRepairs ++ (splitCloseFillResidual written (closedQuantity collected.longLegs)
          (closedQuantity collected.shortLegs) nowMs (nowMs + 30000)).toList ∧
      (finalizePassiveClose state pending nowMs).state.storedRepairs = state.storedRepairs ∧
      (finalizePassiveClose state pending nowMs).state.registers =
        (state.registers || !(closeAccountingEvidenceGaps position collected.longLegs
          collected.shortLegs []).isEmpty) := by
  intro collected written
  simp only [finalizePassiveClose, held]
  refine ⟨rfl, ?_, ?_, ?_⟩
  · rw [(CloseState.announcePassiveClosed_rest ..).2.1, CloseState.append_newRepairs,
      (CloseState.removePassive_rest ..).1, CloseState.appendResidual_newRepairs,
      CloseState.putPosition_newRepairs, CloseState.registerPassiveGaps_newRepairs]
  · rw [CloseState.storedRepairs, (CloseState.announcePassiveClosed_rest ..).1,
      CloseState.append_runtime, ← CloseState.storedRepairs,
      (CloseState.removePassive_rest ..).2.1, CloseState.storedRepairs,
      CloseState.appendResidual_runtime, ← CloseState.storedRepairs,
      CloseState.storedRepairs_putPosition, CloseState.registerPassiveGaps_storedRepairs]
  · rw [(CloseState.announcePassiveClosed_rest ..).2.2,
      CloseState.registers_append_other _ _ (by decide), (CloseState.removePassive_rest ..).2.2,
      CloseState.appendResidual_registers, CloseState.registers_putPosition,
      CloseState.registerPassiveGaps_registers]

end Passive

/-! ### The aggressive end -/

namespace CloseState

theorem registers_registerGaps (state : CloseState) (position : OpenPosition)
    (collected : CollectedClose) (call : CloseCall) (gaps : List String) :
    (state.registerGaps position collected call gaps).registers =
      (state.registers || !gaps.isEmpty) := by
  rw [registerGaps]
  split_ifs with complete
  · rw [complete, Bool.not_true, Bool.or_false]
  · rw [Bool.not_eq_true] at complete
    rw [registers_register, complete, Bool.not_false, Bool.or_true]

@[simp] theorem storedRepairs_registerGaps (state : CloseState) (position : OpenPosition)
    (collected : CollectedClose) (call : CloseCall) (gaps : List String) :
    (state.registerGaps position collected call gaps).storedRepairs = state.storedRepairs := by
  rw [registerGaps]
  split_ifs
  · rfl
  · rw [storedRepairs_register]

@[simp] theorem registers_recordResidual [TextCase] (state : CloseState) (position : OpenPosition)
    (collected : CollectedClose) (call : CloseCall) :
    (state.recordResidual position collected call).registers = state.registers := by
  rw [recordResidual]
  split
  · rfl
  · exact registers_append_other _ _ (by decide)

@[simp] theorem registers_writeback (state : CloseState) (position : OpenPosition)
    (close : CloseExecution) (collected : CollectedClose) (call : CloseCall)
    (gaps : List String) :
    (writebackToState state position close collected call gaps).registers = state.registers := by
  rw [writebackToState, retire]
  have uncertain (put : CloseState) :
      (put.registerUncertain position collected call).registers = put.registers := by
    rw [registerUncertain]
    split_ifs
    · exact registers_append_other _ _ (by decide)
    · rfl
  have announced (put : CloseState) (written : OpenPosition) :
      (put.announcePartial written collected call gaps).registers = put.registers := by
    rw [announcePartial]
    split_ifs
    · exact registers_append_other _ _ (by decide)
    · rfl
  have before := ((announced _ (writtenPosition position close collected call gaps)).trans
    (uncertain _)).trans (registers_putPosition state
      (writtenPosition position close collected call gaps))
  split_ifs
  · exact before
  · exact (registers_append_other _ _ (by decide)).trans before
  · exact before

@[simp] theorem storedRepairs_writeback (state : CloseState) (position : OpenPosition)
    (close : CloseExecution) (collected : CollectedClose) (call : CloseCall)
    (gaps : List String) :
    (writebackToState state position close collected call gaps).storedRepairs =
      state.storedRepairs := by
  have uncertain (put : CloseState) :
      (put.registerUncertain position collected call).storedRepairs = put.storedRepairs := by
    rw [registerUncertain]
    split_ifs <;> rfl
  have retired (put : CloseState) (written : OpenPosition) :
      (put.retire written).storedRepairs = put.storedRepairs := by
    rw [retire]
    split_ifs <;> rfl
  rw [writebackToState, retired, storedRepairs, announcePartial_runtime, ← storedRepairs,
    uncertain, storedRepairs_putPosition]

@[simp] theorem registers_announceClosed (state : CloseState) (position : OpenPosition)
    (close : CloseExecution) (collected : CollectedClose) (call : CloseCall)
    (gaps : List String) :
    (state.announceClosed position close collected call gaps).registers = state.registers := by
  rw [announceClosed]
  split_ifs
  · exact registers_append_other _ _ (by decide)
  · rfl

/-- Stored tasks of the same position, pair and origin give way to a repair. -/
theorem storedRepairs_recordResidual [TextCase] (state : CloseState) (position : OpenPosition)
    (collected : CollectedClose) (call : CloseCall) :
    (state.recordResidual position collected call).storedRepairs =
      match splitCloseFillResidual position (closedQuantity collected.longLegs)
        (closedQuantity collected.shortLegs) call.nowMs (call.nowMs + call.deadlineMs) with
      | none => state.storedRepairs
      | some residual => state.storedRepairs.filter (fun task => !sameRepair task residual) := by
  rw [recordResidual]
  cases splitCloseFillResidual position (closedQuantity collected.longLegs)
      (closedQuantity collected.shortLegs) call.nowMs (call.nowMs + call.deadlineMs) with
  | none => rfl
  | some residual => rfl

end CloseState

section Aggressive

variable [TextCase] (state : CloseState) (position : OpenPosition) (collected : CollectedClose)
  (call : CloseCall)

theorem finishClose_registers (something : collected.settle.isEmpty = false) :
    (finishClose state position collected call).2.1.registers =
      (state.registers || !(collected.settle.evidenceGaps position).isEmpty) := by
  rw [finishClose, if_neg (by rw [something]; decide), CloseState.registers_announceClosed,
    CloseState.registers_writeback, CloseState.registers_recordResidual,
    CloseState.registers_registerGaps]

theorem finishClose_storedRepairs (something : collected.settle.isEmpty = false) :
    (finishClose state position collected call).2.1.storedRepairs =
      match splitCloseFillResidual position (closedQuantity collected.longLegs)
        (closedQuantity collected.shortLegs) call.nowMs (call.nowMs + call.deadlineMs) with
      | none => state.storedRepairs
      | some residual => state.storedRepairs.filter (fun task => !sameRepair task residual) := by
  rw [finishClose, if_neg (by rw [something]; decide), CloseState.storedRepairs,
    CloseState.announceClosed_runtime, ← CloseState.storedRepairs,
    CloseState.storedRepairs_writeback, CloseState.storedRepairs_recordResidual,
    CloseState.storedRepairs_registerGaps]
  rfl

end Aggressive

/-! ## The split -/

/-- Venue, side and quantity of a repair. -/
def ResidualExposureTask.exposure (task : ResidualExposureTask) : Venue × Side × ExactFloat :=
  (task.exposureVenue, task.exposureSide, task.exposureQuantity)

/-- The repair of a difference between what is left on the legs. -/
def repairOf (position : OpenPosition) (delta : ℚ) : Option (Venue × Side × ExactFloat) :=
  if |delta| ≤ 1 / 10 ^ 9 then none
  else if 0 < delta then some (position.longVenue, .sell, .finite delta)
  else some (position.shortVenue, .buy, .finite (-delta))

/-- What is left on the long leg beyond the short one. -/
def leftOver (matched longClosed shortClosed : ℚ) : ℚ :=
  max (matched - longClosed) 0 - max (matched - shortClosed) 0

theorem splitCloseFillResidual_exposure [TextCase] {position : OpenPosition}
    {matched longClosed shortClosed : ℚ} (whole : position.matchedQuantity = .finite matched)
    (nowMs deadlineMs : Int) :
    (splitCloseFillResidual position (.finite longClosed) (.finite shortClosed) nowMs
      deadlineMs).map ResidualExposureTask.exposure =
        repairOf position (leftOver matched longClosed shortClosed) := by
  rw [splitCloseFillResidual]
  simp only [closeBalanceFromClosedQuantities, whole, ExactFloat.sub_finite,
    ExactFloat.max_finite, approxEq, sub_zero, ExactFloat.abs_finite, ExactFloat.le_finite]
  rw [repairOf, leftOver]
  by_cases near : |max (matched - longClosed) 0 - max (matched - shortClosed) 0| ≤ 1 / 10 ^ 9
  · rw [if_pos (decide_eq_true near), if_pos near]
    rfl
  · rw [if_neg (by simpa using near), if_neg near]
    by_cases long : 0 < max (matched - longClosed) 0 - max (matched - shortClosed) 0
    · rw [if_pos long, ExactFloat.lt_finite, if_pos (decide_eq_true long)]
      rfl
    · rw [if_neg long, ExactFloat.lt_finite, if_neg (by simpa using long)]
      rfl

theorem repairOf_eq_iff (position : OpenPosition) (left right : ℚ) :
    repairOf position left = repairOf position right ↔
      left = right ∨ (|left| ≤ 1 / 10 ^ 9 ∧ |right| ≤ 1 / 10 ^ 9) := by
  rw [repairOf, repairOf]
  constructor
  · intro same
    split_ifs at same with leftNear rightNear leftLong rightLong rightLong
    · exact .inr ⟨leftNear, rightNear⟩
    · exact .inl (by simpa using same)
    · exact absurd same (by simp)
    · exact absurd same (by simp)
    · exact .inl (by simpa using same)
  · rintro (rfl | ⟨leftNear, rightNear⟩)
    · rfl
    · rw [if_pos leftNear, if_pos rightNear]

/-- The split of the position as it was finds what one leg closed beyond the other. -/
theorem leftOver_whole {whole longClosed shortClosed : ℚ} (long : longClosed ≤ whole)
    (short : shortClosed ≤ whole) :
    leftOver whole longClosed shortClosed = shortClosed - longClosed := by
  rw [leftOver, max_eq_left (by linarith), max_eq_left (by linarith)]
  ring

/-- The split of the reduced position finds the same when both closes together fit in it. -/
theorem leftOver_reduced_fits {whole longClosed shortClosed : ℚ}
    (fits : longClosed + shortClosed ≤ whole) :
    leftOver (whole - min longClosed shortClosed) longClosed shortClosed =
      shortClosed - longClosed := by
  rcases le_total longClosed shortClosed with less | less
  · rw [min_eq_left less, leftOver, max_eq_left (by linarith), max_eq_left (by linarith)]
    ring
  · rw [min_eq_right less, leftOver, max_eq_left (by linarith), max_eq_left (by linarith)]
    ring

/-- Otherwise it finds less. -/
theorem leftOver_reduced_less {whole longClosed shortClosed : ℚ}
    (differ : longClosed ≠ shortClosed) (exceeds : whole < longClosed + shortClosed) :
    |leftOver (whole - min longClosed shortClosed) longClosed shortClosed| <
      |shortClosed - longClosed| := by
  rcases lt_or_gt_of_ne differ with less | less
  · rw [min_eq_left less.le, leftOver, max_eq_right (by linarith : whole - longClosed -
      shortClosed ≤ 0), sub_zero, abs_of_nonneg (le_max_right _ _), abs_of_pos (by linarith)]
    exact max_lt (by linarith) (by linarith)
  · rw [min_eq_right less.le, leftOver, max_eq_right (by linarith : whole - shortClosed -
      longClosed ≤ 0), zero_sub, abs_neg, abs_of_nonneg (le_max_right _ _),
      abs_of_neg (by linarith)]
    exact max_lt (by linarith) (by linarith)

/-- Both splits name the same repair exactly when the closes are even or fit together. -/
theorem repairs_agree_iff (position : OpenPosition) {whole longClosed shortClosed : ℚ}
    (long : longClosed ≤ whole) (short : shortClosed ≤ whole) :
    repairOf position (leftOver (whole - min longClosed shortClosed) longClosed shortClosed) =
        repairOf position (leftOver whole longClosed shortClosed) ↔
      |shortClosed - longClosed| ≤ 1 / 10 ^ 9 ∨ longClosed + shortClosed ≤ whole := by
  rw [repairOf_eq_iff, leftOver_whole long short]
  constructor
  · rintro (same | ⟨-, near⟩)
    · by_cases differ : longClosed = shortClosed
      · rw [differ, sub_self, abs_zero]
        exact .inl (by norm_num)
      · by_contra neither
        obtain ⟨-, exceeds⟩ := not_or.mp neither
        have less := leftOver_reduced_less differ (not_le.mp exceeds)
        rw [same] at less
        exact lt_irrefl _ less
    · exact .inl near
  · rintro (near | fits)
    · right
      refine ⟨?_, near⟩
      by_cases differ : longClosed = shortClosed
      · rw [differ, leftOver, sub_self, abs_zero]
        norm_num
      · by_cases fits : longClosed + shortClosed ≤ whole
        · rw [leftOver_reduced_fits fits]
          exact near
        · exact (leftOver_reduced_less differ (not_le.mp fits)).le.trans near
    · exact .inl (leftOver_reduced_fits fits)

/-- A stored task of the position's close with the same pair and origin. -/
def isCloseRepairOf [TextCase] (position : OpenPosition) (task : DynValue) : Bool :=
  task.isMapping && isText (task.get "position_id") position.positionId &&
    isText (task.get "pair_id") (TextCase.lower position.symbol ++ ":" ++
      position.longVenue.value ++ "->" ++ position.shortVenue.value) &&
    isText (task.get "origin") "close_residual"

theorem splitCloseFillResidual_key [TextCase] {position : OpenPosition}
    {longClosed shortClosed : ExactFloat} {nowMs deadlineMs : Int}
    {residual : ResidualExposureTask}
    (left : splitCloseFillResidual position longClosed shortClosed nowMs deadlineMs =
      some residual) (task : DynValue) :
    sameRepair task residual = isCloseRepairOf position task := by
  rw [splitCloseFillResidual] at left
  split_ifs at left
  all_goals
    obtain rfl := Option.some.inj left
    rfl

/-! ## Fees -/

def rawFee (fill : OrderFill) : ℚ := (fill.feeQuote.getD (.finite 0)).toRat

def shownFee (fill : OrderFill) : ℚ := (fill.shown.feeQuote.getD (.finite 0)).toRat

/-- No fee of the fill is below zero. -/
def OrderFill.Charged (fill : OrderFill) : Prop :=
  ∀ fee ∈ fill.feeQuote, (ExactFloat.finite 0).le fee = true

/-- Hiding a fee raises the sum, unless there was none below zero. -/
theorem shownFee_of_rational {fill : OrderFill} (rational : fill.Rational) :
    (fill.Charged ∧ shownFee fill = rawFee fill) ∨ (¬ fill.Charged ∧ rawFee fill < shownFee fill) := by
  rw [OrderFill.Charged, shownFee, rawFee, OrderFill.shown]
  cases quote : fill.feeQuote with
  | none => exact .inl ⟨fun fee member => absurd member (by simp),
      by simp [feeEvidenceComplete, hasFeeEvidence]⟩
  | some fee =>
    obtain ⟨exact, rfl⟩ := ExactFloat.finite_of_isFinite (rational.fee fee quote)
    by_cases charged : 0 ≤ exact
    · left
      constructor
      · rintro fee ⟨⟩
        simpa using charged
      · simp [feeEvidenceComplete, hasFeeEvidence, ExactFloat.isFinite, charged, quote]
    · right
      constructor
      · intro all
        exact charged (by simpa using all (.finite exact) rfl)
      · simpa [feeEvidenceComplete, hasFeeEvidence, ExactFloat.isFinite, charged] using
          not_le.mp charged

theorem fees_agree {fills : List OrderFill} (rational : ∀ fill ∈ fills, fill.Rational) :
    (fills.map rawFee).sum ≤ (fills.map shownFee).sum ∧
      ((fills.map shownFee).sum = (fills.map rawFee).sum ↔ ∀ fill ∈ fills, fill.Charged) := by
  induction fills with
  | nil => simp
  | cons fill rest hyp =>
    obtain ⟨below, agree⟩ := hyp (fun other member =>
      rational other (List.mem_cons_of_mem _ member))
    simp only [List.map_cons, List.sum_cons, List.forall_mem_cons]
    rcases shownFee_of_rational (rational fill List.mem_cons_self) with
      ⟨charged, same⟩ | ⟨uncharged, less⟩
    · refine ⟨by linarith, ?_⟩
      rw [same, add_right_inj, agree]
      exact ⟨fun all => ⟨charged, all⟩, And.right⟩
    · refine ⟨by linarith, ?_⟩
      constructor
      · intro equal
        exact absurd equal (ne_of_gt (by linarith))
      · intro all
        exact absurd all.1 uncharged

/-! ## Results of the position -/

theorem attributeResult_results (position : OpenPosition) (close : CloseExecution)
    (reason : String) :
    (attributeResult position close reason).realizedPricePnlQuote =
        position.realizedPricePnlQuote.add close.realizedPricePnlQuote ∧
      (attributeResult position close reason).realizedExitFeeQuote =
        position.realizedExitFeeQuote.add (close.longFeeQuote.add close.shortFeeQuote) := by
  rw [attributeResult]
  split_ifs <;> exact ⟨rfl, rfl⟩

/-- The aggressive end adds profit and fees of a close without gaps. -/
theorem writtenPosition_results (position : OpenPosition) (close : CloseExecution)
    (collected : CollectedClose) (call : CloseCall) (gaps : List String) :
    (writtenPosition position close collected call gaps).realizedPricePnlQuote =
        (if gaps.isEmpty then position.realizedPricePnlQuote.add close.realizedPricePnlQuote
          else position.realizedPricePnlQuote) ∧
      (writtenPosition position close collected call gaps).realizedExitFeeQuote =
        (if gaps.isEmpty then
          position.realizedExitFeeQuote.add (close.longFeeQuote.add close.shortFeeQuote)
        else position.realizedExitFeeQuote) := by
  have attributed := attributeResult_results (reduceQuantities position
    (closedQuantity collected.longLegs) (closedQuantity collected.shortLegs)) close call.reason
  cases complete : gaps.isEmpty with
  | true =>
    rw [writtenPosition]
    simp only [complete, if_true]
    split_ifs <;> exact attributed
  | false =>
    rw [writtenPosition]
    simp only [complete, if_false, Bool.false_eq_true]
    split_ifs <;> exact ⟨rfl, rfl⟩

/-- The passive end does the same. -/
theorem passiveWritten_results (position : OpenPosition) (collected : CollectedClose)
    (reason : String) {gaps : List String}
    (found : closeAccountingEvidenceGaps position collected.longLegs collected.shortLegs [] = gaps) :
    (passiveWritten position collected reason).realizedPricePnlQuote =
        (if gaps.isEmpty then position.realizedPricePnlQuote.add
          ((longPricePnl position collected.longLegs).add
            (shortPricePnl position collected.shortLegs)) else position.realizedPricePnlQuote) ∧
      (passiveWritten position collected reason).realizedExitFeeQuote =
        (if gaps.isEmpty then position.realizedExitFeeQuote.add
          ((exitFee collected.longLegs).add (exitFee collected.shortLegs))
        else position.realizedExitFeeQuote) := by
  rw [passiveWritten, found]
  split_ifs <;> exact ⟨rfl, rfl⟩

theorem exitFee_exact_fills {legs : List CloseExecutionLeg} {fills : List OrderFill}
    (same : legs.map CloseExecutionLeg.fill = fills)
    (finite : ∀ fill ∈ fills, (fill.feeQuote.getD (.finite 0)).isFinite = true) :
    exitFee legs = .finite (fills.map rawFee).sum := by
  have terms : legs.map (fun leg => leg.fill.feeQuote.getD (.finite 0)) =
      fills.map (fun fill => fill.feeQuote.getD (.finite 0)) := by
    rw [← same, List.map_map]
    rfl
  rw [exitFee, terms]
  exact ExactFloat.sum_map_finite (fun fill member => ExactFloat.finite_toRat (finite fill member))

/-! ## Agreement -/

/-- Long, short and matched quantity. -/
def OpenPosition.quantities (position : OpenPosition) : ExactFloat × ExactFloat × ExactFloat :=
  (position.longQuantity, position.shortQuantity, position.matchedQuantity)

/-- Both ends write the same back for a position. -/
structure SameWriteback (positionId : String) (passive : PassiveFinal)
    (aggressive : CloseState × OpenPosition) : Prop where
  held : (passive.state.positions.find? positionId).map OpenPosition.quantities =
    (aggressive.1.positions.find? positionId).map OpenPosition.quantities
  quantities : passive.position.map OpenPosition.quantities = some aggressive.2.quantities
  repairs : passive.state.newRepairs.map ResidualExposureTask.exposure =
    aggressive.1.newRepairs.map ResidualExposureTask.exposure
  storedRepairs : passive.state.storedRepairs = aggressive.1.storedRepairs
  pricePnl : passive.position.map OpenPosition.realizedPricePnlQuote =
    some aggressive.2.realizedPricePnlQuote
  exitFees : passive.position.map OpenPosition.realizedExitFeeQuote =
    some aggressive.2.realizedExitFeeQuote
  registers : passive.state.registers = aggressive.1.registers

/-- A position that holds `whole` everywhere, and the same fills for both ends. -/
structure ClosesOfFills (runtime : RuntimeState) (position : OpenPosition)
    (pending : PendingPassiveClose) (collected : CollectedClose)
    (longFills shortFills : List OrderFill) (whole : ℚ) : Prop where
  held : runtime.engine.openPositions.find? position.positionId = some position
  long : position.longQuantity = .finite whole
  short : position.shortQuantity = .finite whole
  matched : position.matchedQuantity = .finite whole
  exitFees : position.realizedExitFeeQuote.isFinite = true
  snapshot : pending.positionSnapshot = some position
  sameId : pending.positionId = position.positionId
  keepsLong : pending.Keeps .long longFills
  keepsShort : pending.Keeps .short shortFills
  returns : collected.Returns longFills shortFills
  rational : ∀ fill ∈ longFills ++ shortFills, fill.Rational
  longWithin : fillsTotal longFills ≤ whole
  shortWithin : fillsTotal shortFills ≤ whole

/-- The evidence that is missing for a bill of the fills. -/
def fillEvidenceGaps (position : OpenPosition) (longFills shortFills : List OrderFill) :
    List String :=
  closeAccountingEvidenceGaps position (longFills.map (fun fill => { fill := fill }))
    (shortFills.map (fun fill => { fill := fill })) []

/-- When both ends agree. An uneven close has to fit into the position twice, with no repair
stored for it; a close without fills needs evidence and a position above dust; and a bill
needs fees that are not below zero. -/
structure ClosesAlike [TextCase] (runtime : RuntimeState) (position : OpenPosition)
    (longFills shortFills : List OrderFill) (whole : ℚ) : Prop where
  split : |fillsTotal shortFills - fillsTotal longFills| ≤ 1 / 10 ^ 9 ∨
    (fillsTotal longFills + fillsTotal shortFills ≤ whole ∧
      ∀ task ∈ runtime.engine.pendingResidualRepairs, isCloseRepairOf position task = false)
  nothing : longFills = [] → shortFills = [] →
    1 / 10 ^ 12 ≤ whole ∧ fillEvidenceGaps position [] [] = []
  fees : fillEvidenceGaps position longFills shortFills = [] →
    ∀ fill ∈ longFills ++ shortFills, fill.Charged

/-- With the counter behind the legs nothing is synthesised. -/
theorem PendingPassiveClose.Keeps.closed {pending : PendingPassiveClose} {side : ActiveMakerLeg}
    {fills : List OrderFill} (keeps : pending.Keeps side fills) (position : OpenPosition)
    (rational : ∀ fill ∈ fills, fill.Rational) :
    (pending.closedLegs position side).map CloseExecutionLeg.fill = fills.map OrderFill.shown ∧
      closedQuantity (pending.closedLegs position side) = .finite (fillsTotal fills) := by
  have exact : ∀ leg ∈ pending.legsOn side, ∀ fill ∈ leg.fill, fill.quantity.isFinite = true := by
    intro leg among fill filled
    have member : fill ∈ fills := by
      rw [← keeps.kept]
      exact List.mem_filterMap.mpr ⟨leg, among, filled⟩
    obtain ⟨quantity, -, known⟩ := (rational fill member).quantity
    rw [known]
    rfl
  have total : closedQuantity (executedLegs (pending.legsOn side)) = .finite (fillsTotal fills) := by
    rw [closedQuantity_executedLegs exact, keeps.kept, fillsTotal]
  have nothing : synthesizedLegs position side (pending.fillOn side)
      (closedQuantity (executedLegs (pending.legsOn side))) = [] := by
    obtain ⟨counted, known, behind⟩ := keeps.counter
    simp only [synthesizedLegs, total, known, ExactFloat.sub_finite, ExactFloat.max_finite,
      progressTolerance, ExactFloat.le_finite]
    exact if_pos (decide_eq_true (max_le (by linarith) (by norm_num)))
  rw [closedLegs, nothing, List.append_nil]
  refine ⟨?_, total⟩
  rw [executedLegs_fills keeps.flagged, keeps.kept]

namespace ClosesOfFills

variable {runtime : RuntimeState} {position : OpenPosition} {pending : PendingPassiveClose}
  {collected : CollectedClose} {longFills shortFills : List OrderFill} {whole : ℚ}
  (closes : ClosesOfFills runtime position pending collected longFills shortFills whole)

include closes

theorem longRational : ∀ fill ∈ longFills, fill.Rational := fun fill member =>
  closes.rational fill (List.mem_append_left _ member)

theorem shortRational : ∀ fill ∈ shortFills, fill.Rational := fun fill member =>
  closes.rational fill (List.mem_append_right _ member)

theorem contains : (CloseState.start runtime).positions.contains position.positionId = true := by
  rw [OrderedDict.contains, CloseState.positions, CloseState.start, closes.held]
  rfl

/-- Both ends close the same quantities. -/
theorem closedQuantities :
    closedQuantity (pending.collected position).longLegs = .finite (fillsTotal longFills) ∧
      closedQuantity (pending.collected position).shortLegs = .finite (fillsTotal shortFills) ∧
      closedQuantity collected.settle.longLegs = .finite (fillsTotal longFills) ∧
      closedQuantity collected.settle.shortLegs = .finite (fillsTotal shortFills) := by
  obtain ⟨longShown, longTotal⟩ := closes.keepsLong.closed position closes.longRational
  obtain ⟨shortShown, shortTotal⟩ := closes.keepsShort.closed position closes.shortRational
  exact ⟨longTotal, shortTotal, (closedQuantity_shown longShown closes.returns.long).symm.trans
    longTotal, (closedQuantity_shown shortShown closes.returns.short).symm.trans shortTotal⟩

/-- Evidence is missing for the same reasons. -/
theorem evidenceGaps_eq :
    closeAccountingEvidenceGaps position (pending.collected position).longLegs
        (pending.collected position).shortLegs [] =
      fillEvidenceGaps position longFills shortFills ∧
    collected.settle.evidenceGaps position = fillEvidenceGaps position longFills shortFills := by
  have identity (fills : List OrderFill) : (fills.map (fun fill =>
      ({ fill := fill } : CloseExecutionLeg))).map CloseExecutionLeg.fill = fills := by
    simp [Function.comp_def]
  have longShown := (closes.keepsLong.closed position closes.longRational).1
  have shortShown := (closes.keepsShort.closed position closes.shortRational).1
  have raw (label : String) {legs : List CloseExecutionLeg} {fills : List OrderFill}
      (same : legs.map CloseExecutionLeg.fill = fills) : legEvidenceGaps label legs =
        legEvidenceGaps label (fills.map (fun fill => { fill := fill })) := by
    rw [legEvidenceGaps, legEvidenceGaps, same, identity]
  have answered : collected.settle.unresolvedSubmissionLegs = [] := by
    apply (unresolved_nil_iff _).mpr
    refine ⟨?_, closes.returns.longKnown, ?_, closes.returns.shortKnown⟩
    · simp [CollectedClose.settle, closes.returns.longCertain, closes.returns.longKnown]
    · simp [CollectedClose.settle, closes.returns.shortCertain, closes.returns.shortKnown]
  have longPassive : legEvidenceGaps "long" (pending.collected position).longLegs =
      legEvidenceGaps "long" (longFills.map (fun fill => { fill := fill })) :=
    legEvidenceGaps_shown longShown (identity longFills) "long"
  have shortPassive : legEvidenceGaps "short" (pending.collected position).shortLegs =
      legEvidenceGaps "short" (shortFills.map (fun fill => { fill := fill })) :=
    legEvidenceGaps_shown shortShown (identity shortFills) "short"
  have longReturned : legEvidenceGaps "long" collected.settle.longLegs =
      legEvidenceGaps "long" (longFills.map (fun fill => { fill := fill })) :=
    raw "long" closes.returns.long
  have shortReturned : legEvidenceGaps "short" collected.settle.shortLegs =
      legEvidenceGaps "short" (shortFills.map (fun fill => { fill := fill })) :=
    raw "short" closes.returns.short
  constructor
  · rw [fillEvidenceGaps, closeAccountingEvidenceGaps, closeAccountingEvidenceGaps, longPassive,
      shortPassive]
  · rw [CollectedClose.evidenceGaps, answered, fillEvidenceGaps, closeAccountingEvidenceGaps,
      closeAccountingEvidenceGaps, longReturned, shortReturned]

/-- Only a close without fills is empty. -/
theorem isEmpty_iff : collected.settle.isEmpty = true ↔ longFills = [] ∧ shortFills = [] := by
  have certain : (collected.settle.anyShortUncertain || collected.settle.anyLongUncertain) =
      false := by
    simp [CollectedClose.settle, closes.returns.longCertain, closes.returns.longKnown,
      closes.returns.shortCertain, closes.returns.shortKnown]
  rw [CollectedClose.isEmpty, certain, Bool.not_false, Bool.and_true, Bool.and_eq_true,
    List.isEmpty_iff, List.isEmpty_iff, ← closes.returns.long, ← closes.returns.short,
    List.map_eq_nil_iff, List.map_eq_nil_iff, and_comm]
  rfl

/-- Both ends leave the same quantities. -/
theorem written_quantities (call : CloseCall) :
    (passiveWritten position (pending.collected position) pending.reason).quantities =
      (collected.settle.written position call).quantities := by
  obtain ⟨longClosed, shortClosed, longReturned, shortReturned⟩ := closes.closedQuantities
  obtain ⟨leftMatched, leftLong, leftShort⟩ := writtenPosition_quantities position
    (collected.settle.execution position call.reason) collected.settle call
    (collected.settle.evidenceGaps position)
  have passive : (passiveWritten position (pending.collected position) pending.reason).quantities =
      (reduceQuantities position (.finite (fillsTotal longFills))
        (.finite (fillsTotal shortFills))).quantities := by
    rw [passiveWritten, longClosed, shortClosed]
    split_ifs <;> rfl
  rw [passive, OpenPosition.quantities, OpenPosition.quantities, CollectedClose.written,
    leftMatched, leftLong, leftShort, longReturned, shortReturned]

/-- Both ends add the same profit. -/
theorem pricePnl_eq (call : CloseCall) :
    (passiveWritten position (pending.collected position) pending.reason).realizedPricePnlQuote =
      (collected.settle.written position call).realizedPricePnlQuote := by
  obtain ⟨passiveGaps, returnedGaps⟩ := closes.evidenceGaps_eq
  have longShown := (closes.keepsLong.closed position closes.longRational).1
  have shortShown := (closes.keepsShort.closed position closes.shortRational).1
  have long : longPricePnl position (pending.collected position).longLegs =
      longPricePnl position collected.longLegs :=
    longPricePnl_shown longShown closes.returns.long position
  have short : shortPricePnl position (pending.collected position).shortLegs =
      shortPricePnl position collected.shortLegs :=
    shortPricePnl_shown shortShown closes.returns.short position
  rw [(passiveWritten_results position _ pending.reason passiveGaps).1, CollectedClose.written,
    (writtenPosition_results ..).1, returnedGaps, long, short]
  rfl

/-- What either end adds for fees. -/
theorem exitFees_eq :
    (exitFee (pending.collected position).longLegs).add
        (exitFee (pending.collected position).shortLegs) =
      .finite ((longFills ++ shortFills).map shownFee).sum ∧
    (exitFee collected.longLegs).add (exitFee collected.shortLegs) =
      .finite ((longFills ++ shortFills).map rawFee).sum := by
  have finite : ∀ fill ∈ longFills ++ shortFills,
      (fill.feeQuote.getD (.finite 0)).isFinite = true := by
    intro fill member
    cases quote : fill.feeQuote with
    | none => rfl
    | some fee => exact (closes.rational fill member).fee fee quote
  have shownFinite : ∀ fill ∈ longFills ++ shortFills,
      (fill.shown.feeQuote.getD (.finite 0)).isFinite = true := by
    intro fill member
    rw [OrderFill.shown]
    split_ifs
    · exact finite fill member
    · rfl
  have shown {legs : List CloseExecutionLeg} {fills : List OrderFill}
      (same : legs.map CloseExecutionLeg.fill = fills.map OrderFill.shown)
      (part : ∀ fill ∈ fills, fill ∈ longFills ++ shortFills) :
      exitFee legs = .finite (fills.map shownFee).sum := by
    rw [exitFee_exact_fills same, List.map_map]
    · rfl
    · intro fill member
      obtain ⟨original, among, rfl⟩ := List.mem_map.mp member
      exact shownFinite original (part original among)
  have longShown := (closes.keepsLong.closed position closes.longRational).1
  have shortShown := (closes.keepsShort.closed position closes.shortRational).1
  have longPassive : exitFee (pending.collected position).longLegs =
      .finite (longFills.map shownFee).sum :=
    shown longShown (fun fill member => List.mem_append_left _ member)
  have shortPassive : exitFee (pending.collected position).shortLegs =
      .finite (shortFills.map shownFee).sum :=
    shown shortShown (fun fill member => List.mem_append_right _ member)
  constructor
  · rw [longPassive, shortPassive, ExactFloat.add_finite, List.map_append, List.sum_append]
  · rw [exitFee_exact_fills closes.returns.long (fun fill member =>
        finite fill (List.mem_append_left _ member)),
      exitFee_exact_fills closes.returns.short (fun fill member =>
        finite fill (List.mem_append_right _ member)), ExactFloat.add_finite, List.map_append,
      List.sum_append]

/-- Both ends add the same fees exactly when a bill has no fee below zero. -/
theorem exitFees_eq_iff (call : CloseCall) :
    (passiveWritten position (pending.collected position) pending.reason).realizedExitFeeQuote =
        (collected.settle.written position call).realizedExitFeeQuote ↔
      (fillEvidenceGaps position longFills shortFills = [] →
        ∀ fill ∈ longFills ++ shortFills, fill.Charged) := by
  obtain ⟨passiveGaps, returnedGaps⟩ := closes.evidenceGaps_eq
  obtain ⟨passiveFees, returnedFees⟩ := closes.exitFees_eq
  obtain ⟨before, known⟩ := ExactFloat.finite_of_isFinite closes.exitFees
  have returned : (collected.settle.execution position call.reason).longFeeQuote.add
      (collected.settle.execution position call.reason).shortFeeQuote =
        .finite ((longFills ++ shortFills).map rawFee).sum := returnedFees
  rw [(passiveWritten_results position _ pending.reason passiveGaps).2, CollectedClose.written,
    (writtenPosition_results ..).2, returnedGaps, passiveFees, returned, known]
  by_cases complete : fillEvidenceGaps position longFills shortFills = []
  · rw [complete, List.isEmpty_nil, if_pos rfl, if_pos rfl, ExactFloat.add_finite,
      ExactFloat.add_finite, ExactFloat.finite.injEq, add_right_inj, (fees_agree closes.rational).2]
    exact ⟨fun all _ => all, fun all => all rfl⟩
  · have some : (fillEvidenceGaps position longFills shortFills).isEmpty = false := by
      simpa using complete
    rw [some]
    exact ⟨fun _ empty => absurd empty complete, fun _ => rfl⟩

/-- What the passive end leaves is matched less the smaller close. -/
theorem passiveWritten_matched :
    (passiveWritten position (pending.collected position) pending.reason).matchedQuantity =
      .finite (whole - min (fillsTotal longFills) (fillsTotal shortFills)) := by
  obtain ⟨longClosed, shortClosed, -, -⟩ := closes.closedQuantities
  have nonneg : 0 ≤ whole - min (fillsTotal longFills) (fillsTotal shortFills) := by
    linarith [min_le_left (fillsTotal longFills) (fillsTotal shortFills), closes.longWithin]
  have reduced : (passiveWritten position (pending.collected position)
      pending.reason).matchedQuantity = (reduceQuantities position (.finite (fillsTotal longFills))
        (.finite (fillsTotal shortFills))).matchedQuantity := by
    rw [passiveWritten, longClosed, shortClosed]
    split_ifs <;> rfl
  rw [reduced, reduceQuantities]
  simp only [closes.matched, ExactFloat.min_finite, ExactFloat.sub_finite, ExactFloat.max_finite,
    max_eq_left nonneg]

section Repairs

variable [TextCase] (nowMs : Int) (call : CloseCall)

/-- What either end repairs. -/
theorem exposures :
    (finalizePassiveClose (.start runtime) pending nowMs).state.newRepairs.map
        ResidualExposureTask.exposure =
      (repairOf position (leftOver (whole - min (fillsTotal longFills) (fillsTotal shortFills))
        (fillsTotal longFills) (fillsTotal shortFills))).toList ∧
    (splitCloseFillResidual position (closedQuantity collected.longLegs)
      (closedQuantity collected.shortLegs) call.nowMs (call.nowMs + call.deadlineMs)).map
        ResidualExposureTask.exposure =
      repairOf position (leftOver whole (fillsTotal longFills) (fillsTotal shortFills)) := by
  obtain ⟨longClosed, shortClosed, longReturned, shortReturned⟩ := closes.closedQuantities
  have venues (delta : ℚ) : repairOf (passiveWritten position (pending.collected position)
      pending.reason) delta = repairOf position delta := by
    rw [passiveWritten]
    split_ifs <;> rfl
  constructor
  · rw [(finalizePassiveClose_rest _ nowMs closes.snapshot).2.1, longClosed, shortClosed,
      ← venues, ← splitCloseFillResidual_exposure closes.passiveWritten_matched nowMs
        (nowMs + 30000)]
    exact Option.toList_map.symm
  · have long : closedQuantity collected.longLegs = .finite (fillsTotal longFills) := longReturned
    have short : closedQuantity collected.shortLegs = .finite (fillsTotal shortFills) :=
      shortReturned
    rw [long, short]
    exact splitCloseFillResidual_exposure closes.matched _ _

/-- Repairs agree exactly when an uneven close fits into the position twice. -/
theorem repairs_iff (something : collected.settle.isEmpty = false) :
    (finalizePassiveClose (.start runtime) pending nowMs).state.newRepairs.map
        ResidualExposureTask.exposure =
      (finishClose (.start runtime) position collected call).2.1.newRepairs.map
        ResidualExposureTask.exposure ↔
    |fillsTotal shortFills - fillsTotal longFills| ≤ 1 / 10 ^ 9 ∨
      fillsTotal longFills + fillsTotal shortFills ≤ whole := by
  obtain ⟨passive, aggressive⟩ := closes.exposures nowMs call
  rw [passive, finishClose_newRepairs _ position collected call something rfl,
    ← repairs_agree_iff position closes.longWithin closes.shortWithin, ← aggressive]
  generalize repairOf position (leftOver (whole - min (fillsTotal longFills)
    (fillsTotal shortFills)) (fillsTotal longFills) (fillsTotal shortFills)) = reduced
  rw [← Option.toList_map]
  constructor
  · intro same
    have first := congrArg List.head? same
    rwa [Option.head?_toList, Option.head?_toList] at first
  · exact congrArg Option.toList

/-- Stored tasks agree exactly when none gives way to a repair. -/
theorem storedRepairs_iff (something : collected.settle.isEmpty = false) :
    (finalizePassiveClose (.start runtime) pending nowMs).state.storedRepairs =
      (finishClose (.start runtime) position collected call).2.1.storedRepairs ↔
    |fillsTotal shortFills - fillsTotal longFills| ≤ 1 / 10 ^ 9 ∨
      ∀ task ∈ runtime.engine.pendingResidualRepairs, isCloseRepairOf position task = false := by
  have aggressive := (closes.exposures nowMs call).2
  rw [leftOver_whole closes.longWithin closes.shortWithin, repairOf] at aggressive
  rw [(finalizePassiveClose_rest _ nowMs closes.snapshot).2.2.1,
    finishClose_storedRepairs _ position collected call something]
  generalize found : splitCloseFillResidual position (closedQuantity collected.longLegs)
    (closedQuantity collected.shortLegs) call.nowMs (call.nowMs + call.deadlineMs) = residual
    at aggressive ⊢
  cases residual with
  | none =>
    refine ⟨fun _ => .inl ?_, fun _ => rfl⟩
    by_contra far
    rw [if_neg far] at aggressive
    split_ifs at aggressive <;> exact absurd aggressive (by simp)
  | some task =>
    have far : ¬ |fillsTotal shortFills - fillsTotal longFills| ≤ 1 / 10 ^ 9 := by
      intro near
      rw [if_pos near] at aggressive
      exact absurd aggressive (by simp)
    rw [or_iff_right far, eq_comm]
    refine List.filter_eq_self.trans ?_
    apply forall₂_congr
    intro stored _
    rw [splitCloseFillResidual_key found, Bool.not_eq_eq_eq_not, Bool.not_true]

/-- With some fill both ends agree on what they hold, and disagree on repairs and fees only. -/
theorem sameWriteback_filled (something : collected.settle.isEmpty = false) :
    SameWriteback position.positionId (finalizePassiveClose (.start runtime) pending nowMs)
        (finishClose (.start runtime) position collected call).2 ↔
      ClosesAlike runtime position longFills shortFills whole := by
  have filled : ¬ (longFills = [] ∧ shortFills = []) := by
    rw [← closes.isEmpty_iff, something]
    decide
  have written : (finishClose (.start runtime) position collected call).2.2 =
      collected.settle.written position call := by
    rw [finishClose, if_neg (by rw [something]; decide)]
    rfl
  obtain ⟨left, -, -, registered⟩ := finalizePassiveClose_rest (.start runtime) nowMs
    closes.snapshot
  have quantities := closes.written_quantities call
  have sameMatched : (collected.settle.written position call).matchedQuantity =
      (passiveWritten position (pending.collected position) pending.reason).matchedQuantity :=
    (congrArg (fun amounts => amounts.2.2) quantities).symm
  have held : ((finalizePassiveClose (.start runtime) pending nowMs).state.positions.find?
      position.positionId).map OpenPosition.quantities =
        ((finishClose (.start runtime) position collected call).2.1.positions.find?
          position.positionId).map OpenPosition.quantities := by
    rw [finalizePassiveClose_find _ nowMs closes.snapshot closes.sameId closes.contains,
      finishClose_find _ position collected call something closes.contains, if_pos rfl, sameMatched]
    split_ifs
    · rfl
    · exact congrArg some quantities
  have registers : (finalizePassiveClose (.start runtime) pending nowMs).state.registers =
      (finishClose (.start runtime) position collected call).2.1.registers := by
    rw [registered, finishClose_registers _ position collected call something,
      closes.evidenceGaps_eq.1, closes.evidenceGaps_eq.2]
  have fees : (finalizePassiveClose (.start runtime) pending nowMs).position.map
      OpenPosition.realizedExitFeeQuote = some (finishClose (.start runtime) position collected
        call).2.2.realizedExitFeeQuote ↔ (fillEvidenceGaps position longFills shortFills = [] →
          ∀ fill ∈ longFills ++ shortFills, fill.Charged) := by
    rw [left, written, ← closes.exitFees_eq_iff call]
    exact ⟨fun same => Option.some.inj same, fun same => congrArg some same⟩
  constructor
  · intro same
    refine ⟨?_, fun long short => absurd ⟨long, short⟩ filled, fees.mp same.exitFees⟩
    rcases (closes.repairs_iff nowMs call something).mp same.repairs with near | fits
    · exact .inl near
    · rcases (closes.storedRepairs_iff nowMs call something).mp same.storedRepairs with near | free
      · exact .inl near
      · exact .inr ⟨fits, free⟩
  · intro alike
    exact {
      held := held
      quantities := by
        rw [left, written]
        exact congrArg some quantities
      repairs := (closes.repairs_iff nowMs call something).mpr (alike.split.imp_right And.left)
      storedRepairs :=
        (closes.storedRepairs_iff nowMs call something).mpr (alike.split.imp_right And.right)
      pricePnl := by
        rw [left, written]
        exact congrArg some (closes.pricePnl_eq call)
      exitFees := fees.mpr alike.fees
      registers := registers }

/-- Without a fill the aggressive end leaves everything as it was. The passive one removes a
position of dust, and registers a reconciliation when evidence of the entry is missing. -/
theorem sameWriteback_empty (nothing : collected.settle.isEmpty = true) :
    SameWriteback position.positionId (finalizePassiveClose (.start runtime) pending nowMs)
        (finishClose (.start runtime) position collected call).2 ↔
      ClosesAlike runtime position longFills shortFills whole := by
  obtain ⟨rfl, rfl⟩ := closes.isEmpty_iff.mp nothing
  have nonneg : 0 ≤ whole := closes.longWithin
  have refused : (finishClose (.start runtime) position collected call).2 =
      ((CloseState.start runtime).append "execution.close_failed"
        [("position_id", .text position.positionId), ("symbol", .text position.symbol),
          ("reason", .text call.reason), ("error", .text "close produced no confirmed fills")],
        position) := by
    rw [finishClose, if_pos nothing]
  obtain ⟨left, -, stored, registered⟩ := finalizePassiveClose_rest (.start runtime) nowMs
    closes.snapshot
  have gaps := closes.evidenceGaps_eq.1
  have repairs := (closes.exposures nowMs call).1
  have even : leftOver (whole - min (fillsTotal []) (fillsTotal [])) (fillsTotal [])
      (fillsTotal []) = 0 := by
    rw [leftOver, sub_self]
  rw [even, repairOf, if_pos (by norm_num)] at repairs
  have quantities : (passiveWritten position (pending.collected position) pending.reason).quantities =
      position.quantities := by
    obtain ⟨longClosed, shortClosed, -, -⟩ := closes.closedQuantities
    have reduced : (passiveWritten position (pending.collected position)
        pending.reason).quantities =
          (reduceQuantities position (.finite 0) (.finite 0)).quantities := by
      rw [passiveWritten, longClosed, shortClosed]
      split_ifs <;> rfl
    rw [reduced, reduceQuantities, OpenPosition.quantities, OpenPosition.quantities]
    simp only [closes.long, closes.short, closes.matched, ExactFloat.min_finite,
      ExactFloat.sub_finite, ExactFloat.max_finite, sub_zero, min_self, max_eq_left nonneg]
  have results := passiveWritten_results position (pending.collected position) pending.reason gaps
  have addsNothing (value : ExactFloat) : value.add (.finite 0) = value := by
    cases value with
    | finite exact => simp
    | infinite negative => rfl
    | notANumber => rfl
  have pricePnl : (passiveWritten position (pending.collected position)
      pending.reason).realizedPricePnlQuote = position.realizedPricePnlQuote := by
    have longShown := (closes.keepsLong.closed position closes.longRational).1
    have shortShown := (closes.keepsShort.closed position closes.shortRational).1
    have long : longPricePnl position (pending.collected position).longLegs =
        longPricePnl position [] := longPricePnl_shown longShown rfl position
    have short : shortPricePnl position (pending.collected position).shortLegs =
        shortPricePnl position [] := shortPricePnl_shown shortShown rfl position
    have zero : (longPricePnl position []).add (shortPricePnl position []) = .finite 0 :=
      congrArg ExactFloat.finite (add_zero 0)
    rw [results.1, long, short, zero]
    split_ifs
    · exact addsNothing _
    · rfl
  have exitFees : (passiveWritten position (pending.collected position)
      pending.reason).realizedExitFeeQuote = position.realizedExitFeeQuote := by
    rw [results.2, closes.exitFees_eq.1]
    split_ifs
    · exact addsNothing _
    · rfl
  have found := finalizePassiveClose_find (.start runtime) nowMs closes.snapshot closes.sameId
    closes.contains
  have matched : (passiveWritten position (pending.collected position)
      pending.reason).matchedQuantity = .finite whole := by
    rw [closes.passiveWritten_matched]
    simp [fillsTotal]
  have starts : (CloseState.start runtime).registers = false := rfl
  rw [matched, fillDust, ExactFloat.lt_finite] at found
  rw [gaps, starts, Bool.false_or] at registered
  rw [refused]
  have stays : ((CloseState.start runtime).append "execution.close_failed"
      [("position_id", .text position.positionId), ("symbol", .text position.symbol),
        ("reason", .text call.reason), ("error", .text "close produced no confirmed fills")]
      ).positions.find? position.positionId = some position := closes.held
  constructor
  · intro same
    refine ⟨.inl (by simp [fillsTotal]), fun _ _ => ⟨?_, ?_⟩, fun _ fill member => absurd member
      (by simp)⟩
    · by_contra dust
      have held := same.held
      rw [found, if_pos (decide_eq_true (not_le.mp dust)), stays] at held
      exact absurd held (by simp)
    · have registers := same.registers
      rw [registered, CloseState.registers_append_other _ _ (by decide), starts] at registers
      simpa using registers
  · intro alike
    obtain ⟨above, complete⟩ := alike.nothing rfl rfl
    exact {
      held := by
        rw [found, if_neg (by simpa using above), stays]
        exact congrArg some quantities
      quantities := by
        rw [left]
        exact congrArg some quantities
      repairs := repairs
      storedRepairs := stored
      pricePnl := by
        rw [left]
        exact congrArg some pricePnl
      exitFees := by
        rw [left]
        exact congrArg some exitFees
      registers := by
        rw [registered, complete, CloseState.registers_append_other _ _ (by decide)]
        rfl }

/-- A passive and an aggressive close of the same fills write the same back exactly when
they are alike. -/
theorem closes_agree_iff :
    SameWriteback position.positionId (finalizePassiveClose (.start runtime) pending nowMs)
        (finishClose (.start runtime) position collected call).2 ↔
      ClosesAlike runtime position longFills shortFills whole := by
  cases empty : collected.settle.isEmpty with
  | true => exact closes.sameWriteback_empty nowMs call empty
  | false => exact closes.sameWriteback_filled nowMs call empty

end Repairs

end ClosesOfFills

section Example

local instance agreementCase : TextCase := .ascii

/-- Three units on each leg. -/
def threeUnits : OpenPosition :=
  { positionId := "p1", symbol := "BTCUSDT", longVenue := .binance, shortVenue := .okx
    longQuantity := .finite 3, shortQuantity := .finite 3, matchedQuantity := .finite 3
    longEntryPrice := .finite 10, shortEntryPrice := .finite 10, openedAtMs := 0
    entryFeeEvidenceComplete := true }

def threeUnitsState : RuntimeState :=
  { engine := { openPositions := OrderedDict.empty.insert "p1" threeUnits } }

/-- A fill at the entry price, without a fee. -/
def freeFill (venue : Venue) (side : Side) (quantity : ℚ) : OrderFill :=
  { venue := venue, symbol := "BTCUSDT", side := side, quantity := .finite quantity
    price := .finite 10, orderId := "1", feeQuote := some (.finite 0) }

def persistedFill (fill : OrderFill) : PersistedCloseExecutionLeg :=
  { fill := some fill, feeEvidenceComplete := some true, orderId := fill.orderId }

/-- A passive close of one chunk that keeps a fill on each leg. -/
def passiveOf (long short : ℚ) : PendingPassiveClose :=
  { positionId := "p1", reason := "exit", positionSnapshot := some threeUnits
    chunkQuantities := [.finite long]
    makerFill := { quantity := .finite long }
    hedgeFill := { quantity := .finite short }
    longLegs := [persistedFill (freeFill .binance .sell long)]
    shortLegs := [persistedFill (freeFill .okx .buy short)] }

/-- An aggressive close that returns the same. -/
def aggressiveOf (long short : ℚ) : CollectedClose :=
  { longLegs := [{ fill := freeFill .binance .sell long }]
    shortLegs := [{ fill := freeFill .okx .buy short }] }

theorem freeFill_rational (venue : Venue) (side : Side) {quantity : ℚ} (nonneg : 0 ≤ quantity) :
    (freeFill venue side quantity).Rational :=
  ⟨⟨quantity, nonneg, rfl⟩, rfl, by
    rintro fee ⟨⟩
    rfl⟩

theorem persistedFill_keeps (venue : Venue) (side : Side) (quantity : ℚ)
    {pending : PendingPassiveClose} {leg : ActiveMakerLeg}
    (legs : pending.legsOn leg = [persistedFill (freeFill venue side quantity)])
    (counter : (pending.fillOn leg).quantity = .finite quantity) :
    pending.Keeps leg [freeFill venue side quantity] where
  kept := by
    rw [legs]
    rfl
  flagged := by
    rw [legs]
    intro kept member fill filled
    obtain rfl := List.mem_singleton.mp member
    obtain rfl := Option.some.inj filled
    simp [persistedFill, freeFill, feeEvidenceComplete, hasFeeEvidence, ExactFloat.isFinite]
  counter := ⟨quantity, counter, by simp [fillsTotal, freeFill]⟩

theorem threeUnits_closes {long short : ℚ} (longWithin : 0 ≤ long ∧ long ≤ 3)
    (shortWithin : 0 ≤ short ∧ short ≤ 3) :
    ClosesOfFills threeUnitsState threeUnits (passiveOf long short) (aggressiveOf long short)
      [freeFill .binance .sell long] [freeFill .okx .buy short] 3 where
  held := rfl
  long := rfl
  short := rfl
  matched := rfl
  exitFees := rfl
  snapshot := rfl
  sameId := rfl
  keepsLong := persistedFill_keeps .binance .sell long rfl rfl
  keepsShort := persistedFill_keeps .okx .buy short rfl rfl
  returns := ⟨rfl, rfl, rfl, rfl, rfl, rfl⟩
  rational := by
    intro fill member
    rcases List.mem_cons.mp member with rfl | member
    · exact freeFill_rational .binance .sell longWithin.1
    · obtain rfl := List.mem_singleton.mp member
      exact freeFill_rational .okx .buy shortWithin.1
  longWithin := by simpa [fillsTotal, freeFill] using longWithin.2
  shortWithin := by simpa [fillsTotal, freeFill] using shortWithin.2

/-- One unit and two units fit into three, so both ends repair one unit. -/
theorem closes_agree_one_and_two :
    SameWriteback "p1" (finalizePassiveClose (.start threeUnitsState) (passiveOf 1 2) 5)
      (finishClose (.start threeUnitsState) threeUnits (aggressiveOf 1 2)
        { reason := "exit", nowMs := 5 }).2 := by
  apply ((threeUnits_closes (by norm_num) (by norm_num)).closes_agree_iff 5
    { reason := "exit", nowMs := 5 }).mpr
  refine ⟨.inr ⟨?_, ?_⟩, fun none => absurd none (by simp), fun _ fill member => ?_⟩
  · norm_num [fillsTotal, freeFill]
  · intro task member
    exact absurd member (by simp [threeUnitsState])
  · rcases List.mem_cons.mp member with rfl | member
    · rintro fee ⟨⟩
      rfl
    · obtain rfl := List.mem_singleton.mp member
      rintro fee ⟨⟩
      rfl

/-- Two units and three do not: the aggressive end repairs one unit, the passive one
nothing. -/
theorem uneven_close_unrepaired :
    ClosesOfFills threeUnitsState threeUnits (passiveOf 2 3) (aggressiveOf 2 3)
        [freeFill .binance .sell 2] [freeFill .okx .buy 3] 3 ∧
      ¬ SameWriteback "p1" (finalizePassiveClose (.start threeUnitsState) (passiveOf 2 3) 5)
        (finishClose (.start threeUnitsState) threeUnits (aggressiveOf 2 3)
          { reason := "exit", nowMs := 5 }).2 := by
  have closes : ClosesOfFills threeUnitsState threeUnits (passiveOf 2 3) (aggressiveOf 2 3)
      [freeFill .binance .sell 2] [freeFill .okx .buy 3] 3 :=
    threeUnits_closes (by norm_num) (by norm_num)
  refine ⟨closes, fun same => ?_⟩
  have filled : (aggressiveOf 2 3).settle.isEmpty = false := rfl
  have agree := (closes.repairs_iff 5 { reason := "exit", nowMs := 5 } filled).mp same.repairs
  norm_num [fillsTotal, freeFill] at agree

end Example

end LightFee.Engine
