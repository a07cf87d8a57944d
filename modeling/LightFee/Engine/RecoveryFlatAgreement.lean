import LightFee.Engine.RecoveryGate
import LightFee.Engine.RecoveryObligations

/-!
# A flat account in the ledger and in the decision

The decision reads a position's size under the first of three names, the ledger under
one of them only. A row that is flat under another name is flat to the decision and a
live artifact to the ledger. The other way round nothing is lost: what the ledger
passes over is flat to the decision.
-/

namespace LightFee.Engine

open DynValue

section

variable [TextCase]

/-- The artifact was read from a row of the truth. -/
def ReadFrom (exchangeTruth : DynValue) (artifact : ExchangeArtifact) : Prop :=
  (∃ row ∈ exchangePositions exchangeTruth, artifact = positionArtifact row) ∨
    ∃ row ∈ exchangeOpenOrders exchangeTruth, artifact = orderArtifact row

/-- No work item of the ledger carries an artifact that was read from the truth. -/
def ShowsNothingLive (exchangeTruth : DynValue) (ledger : RecoveryLedger) : Prop :=
  ∀ item ∈ ledger.workItems, ∀ artifact ∈ item.artifacts, ¬ ReadFrom exchangeTruth artifact

/-- Every position row has its size under the name that the ledger reads. -/
def SizesUnderQuantity (exchangeTruth : DynValue) : Prop :=
  ∀ row ∈ exchangePositions exchangeTruth, (row.get "quantity").isNull = false

/-! ## Artifacts of the work items -/

theorem read_kind {exchangeTruth : DynValue} {artifact : ExchangeArtifact}
    (read : ReadFrom exchangeTruth artifact) :
    artifact.kind = "position" ∨ artifact.kind = "open_order" := by
  obtain ⟨row, _, rfl⟩ | ⟨row, _, rfl⟩ := read
  · exact Or.inl rfl
  · exact Or.inr rfl

theorem work_artifacts (localState exchangeTruth : DynValue)
    (ownerIndex : Option RecoveryOwnerIndex) (artifact : ExchangeArtifact) :
    artifact ∈ (RecoveryLedger.fromLocalAndExchangeTruth localState exchangeTruth
        ownerIndex).workItems.flatMap RecoveryWorkItem.artifacts ↔
      artifact ∈ (obligations localState exchangeTruth ownerIndex).flatMap
        RecoveryWorkItem.artifacts := by
  rw [work_items_eq, addAllWork, KeyedMerge.mem_parts_addAll (fun _ _ => rfl)]
  simp

/-- Closing obligations carry no artifacts. -/
theorem closing_artifacts {liveItems : List RecoveryWorkItem} {localState exchangeTruth : DynValue}
    {item : RecoveryWorkItem}
    (member : item ∈ RecoveryLedger.closingObligations liveItems localState exchangeTruth) :
    item.artifacts = [] := by
  unfold RecoveryLedger.closingObligations at member
  simp only [List.mem_append] at member
  obtain (residual | passive) | closes := member
  · obtain ⟨task, _, built⟩ := List.mem_filterMap.mp residual
    unfold residualItem at built
    dsimp only at built
    split_ifs at built
    · rw [← Option.some.inj built]
    · rw [← Option.some.inj built]
  · obtain ⟨close, _, rfl⟩ := List.mem_map.mp passive
    rfl
  · obtain ⟨index, _, rfl⟩ := List.mem_mapIdx.mp closes
    rfl

theorem position_item_artifacts (row : DynValue) (owner : RecoveryOwner) :
    (positionItem row owner).artifacts = [positionArtifact row] := by
  unfold positionItem
  dsimp only
  split_ifs <;> rfl

theorem order_item_artifacts (ownerIndex : RecoveryOwnerIndex) (row : DynValue) :
    (orderItem ownerIndex row).artifacts = [orderArtifact row] := by
  unfold orderItem
  dsimp only
  split_ifs <;> rfl

/-- The other live obligations carry artifacts of other kinds. -/
theorem local_artifacts {localState exchangeTruth : DynValue} {ownerIndex : RecoveryOwnerIndex}
    {item : RecoveryWorkItem} {artifact : ExchangeArtifact}
    (member : item ∈ RecoveryLedger.liveObligations ownerIndex localState exchangeTruth)
    (carried : artifact ∈ item.artifacts) (read : ReadFrom exchangeTruth artifact) :
    (∃ row ∈ RecoveryLedger.liveRows ownerIndex exchangeTruth, artifact = positionArtifact row.1) ∨
      ∃ row ∈ exchangeOpenOrders exchangeTruth, artifact = orderArtifact row := by
  have kind := read_kind read
  unfold RecoveryLedger.liveObligations at member
  simp only [List.mem_append] at member
  obtain ((((gap | pending) | fill) | missing) | position) | order := member
  · split_ifs at gap
    · cases gap
    · rw [List.mem_singleton.mp gap] at carried
      cases carried
  · obtain ⟨record, _, built⟩ := List.mem_filterMap.mp pending
    unfold pendingEntryItem at built
    dsimp only at built
    split_ifs at built
    rw [← Option.some.inj built] at carried
    cases carried
  · obtain ⟨record, _, built⟩ := List.mem_filterMap.mp fill
    unfold fillItem at built
    dsimp only at built
    split_ifs at built
    rw [← Option.some.inj built, List.mem_singleton] at carried
    rw [carried] at kind
    simp at kind
  · split_ifs at missing
    · obtain ⟨claim, claimed, rfl⟩ := List.mem_map.mp missing
      rw [missingItem, List.mem_singleton] at carried
      subst carried
      obtain ⟨entry, _, rfl⟩ := List.mem_map.mp claimed
      simp at kind
    · cases missing
  · obtain ⟨row, live, rfl⟩ := List.mem_map.mp position
    rw [position_item_artifacts, List.mem_singleton] at carried
    exact Or.inl ⟨row, live, carried⟩
  · obtain ⟨row, inOrders, rfl⟩ := List.mem_map.mp order
    rw [order_item_artifacts, List.mem_singleton] at carried
    exact Or.inr ⟨row, inOrders, carried⟩

/-- Every row has an owner, so the live rows are the rows that are not zero. -/
theorem exists_live_row {ownerIndex : RecoveryOwnerIndex} {exchangeTruth row : DynValue}
    (member : row ∈ exchangePositions exchangeTruth) (live : isZeroRow row = false) :
    ∃ owner, (row, owner) ∈ RecoveryLedger.liveRows ownerIndex exchangeTruth := by
  let positions := exchangePositions exchangeTruth
  have firsts : (positions.zip (ownerIndex.ownersForPositions positions)).map Prod.fst = positions :=
    List.map_fst_zip (by simp [RecoveryOwnerIndex.ownersForPositions])
  have inZip : row ∈ (positions.zip (ownerIndex.ownersForPositions positions)).map Prod.fst := by
    rw [firsts]
    exact member
  obtain ⟨⟨first, owner⟩, paired, rfl⟩ := List.mem_map.mp inZip
  exact ⟨owner, List.mem_filter.mpr ⟨paired, by simp [live]⟩⟩

theorem live_row_position {ownerIndex : RecoveryOwnerIndex} {exchangeTruth : DynValue}
    {row : DynValue × RecoveryOwner}
    (member : row ∈ RecoveryLedger.liveRows ownerIndex exchangeTruth) :
    row.1 ∈ exchangePositions exchangeTruth ∧ isZeroRow row.1 = false := by
  obtain ⟨paired, live⟩ := List.mem_filter.mp member
  exact ⟨(List.of_mem_zip paired).1, by simpa using live⟩

/-- The ledger shows nothing live exactly when every row is zero under the name that it
reads and there is no order. -/
theorem shows_nothing_iff (localState exchangeTruth : DynValue)
    (ownerIndex : Option RecoveryOwnerIndex) :
    ShowsNothingLive exchangeTruth
        (RecoveryLedger.fromLocalAndExchangeTruth localState exchangeTruth ownerIndex) ↔
      (∀ row ∈ exchangePositions exchangeTruth, isZeroRow row = true) ∧
        exchangeOpenOrders exchangeTruth = [] := by
  have carries := work_artifacts localState exchangeTruth ownerIndex
  simp only [List.mem_flatMap] at carries
  constructor
  · intro nothing
    have hidden : ∀ item ∈ RecoveryLedger.liveObligations
        (RecoveryLedger.indexFor localState ownerIndex) localState exchangeTruth,
        ∀ artifact ∈ item.artifacts, ¬ ReadFrom exchangeTruth artifact := by
      intro item member artifact carried
      obtain ⟨work, inWork, also⟩ := (carries artifact).mpr
        ⟨item, List.mem_append_left _ member, carried⟩
      exact nothing work inWork artifact also
    unfold RecoveryLedger.liveObligations at hidden
    constructor
    · intro row member
      by_contra live
      rw [Bool.not_eq_true] at live
      obtain ⟨owner, liveRow⟩ := @exists_live_row _
        (RecoveryLedger.indexFor localState ownerIndex) _ _ member live
      refine hidden (positionItem row owner) ?_ (positionArtifact row) ?_
        (Or.inl ⟨row, member, rfl⟩)
      · exact List.mem_append_left _ (List.mem_append_right _ (List.mem_map_of_mem liveRow))
      · rw [position_item_artifacts]
        exact List.mem_singleton_self _
    · rw [List.eq_nil_iff_forall_not_mem]
      intro row member
      refine hidden _ (List.mem_append_right _ (List.mem_map_of_mem member)) (orderArtifact row) ?_
        (Or.inr ⟨row, member, rfl⟩)
      rw [order_item_artifacts]
      exact List.mem_singleton_self _
  · rintro ⟨zero, noOrders⟩ item member artifact carried read
    obtain ⟨obligation, inObligations, also⟩ := (carries artifact).mp ⟨item, member, carried⟩
    obtain live | closing := List.mem_append.mp inObligations
    · obtain ⟨row, liveRow, _⟩ | ⟨row, order, _⟩ := local_artifacts live also read
      · obtain ⟨inRows, notZero⟩ := live_row_position liveRow
        rw [zero row.1 inRows] at notZero
        cases notZero
      · rw [noOrders] at order
        cases order
    · rw [closing_artifacts closing] at also
      cases also

/-! ## The two readings of a size -/

omit [TextCase] in
/-- A size that is flat under the ledger's name is flat to both. -/
theorem zero_row_iff {row : DynValue} (under : (row.get "quantity").isNull = false) :
    isZeroRow row = positionIsFlat row := by
  unfold isZeroRow positionIsFlat finitePositionQuantity
  rw [List.find?_cons_of_pos (by simp [under])]
  dsimp only
  unfold RecoveryOwnerIndex.observedQuantity RecoveryOwnerIndex.floatOf
  cases (row.get "quantity").toFloat? with
  | none => rfl
  | some size =>
    cases size with
    | finite exact => simp [ExactFloat.isFinite]
    | _ => rfl

omit [TextCase] in
theorem zero_row_under {row : DynValue} (zero : isZeroRow row = true) :
    (row.get "quantity").isNull = false := by
  cases value : row.get "quantity" with
  | null =>
    simp [isZeroRow, RecoveryOwnerIndex.observedQuantity, RecoveryOwnerIndex.floatOf, value,
      DynValue.toFloat?, ExactFloat.isFinite] at zero
  | _ => rfl

/-- Of a truth that the decision accepts as flat the ledger shows nothing, whatever the
local state, exactly when every size is under the name it reads; and of complete truth
nothing that the ledger passes over is live to the decision. -/
theorem flat_account_agrees (exchangeTruth : DynValue) :
    (isCompleteAccountFlatTruth exchangeTruth = true →
      ((∀ localState ownerIndex, ShowsNothingLive exchangeTruth
        (RecoveryLedger.fromLocalAndExchangeTruth localState exchangeTruth ownerIndex)) ↔
          SizesUnderQuantity exchangeTruth)) ∧
    (isCompleteAccountTruth exchangeTruth = true →
      ShowsNothingLive exchangeTruth
        (RecoveryLedger.fromLocalAndExchangeTruth (.dict []) exchangeTruth) →
      isCompleteAccountFlatTruth exchangeTruth = true) := by
  constructor
  · intro accepted
    unfold isCompleteAccountFlatTruth at accepted
    simp only [Bool.and_eq_true, List.all_eq_true, List.isEmpty_iff] at accepted
    obtain ⟨⟨_, flat⟩, noOrders⟩ := accepted
    constructor
    · intro nothing row member
      have zero := ((shows_nothing_iff (.dict []) exchangeTruth none).mp (nothing _ _)).1 row member
      exact zero_row_under zero
    · intro under localState ownerIndex
      refine (shows_nothing_iff localState exchangeTruth ownerIndex).mpr ⟨?_, noOrders⟩
      intro row member
      rw [zero_row_iff (under row member)]
      exact flat row member
  · intro complete nothing
    obtain ⟨zero, noOrders⟩ := (shows_nothing_iff (.dict []) exchangeTruth none).mp nothing
    have flat : ∀ row ∈ exchangePositions exchangeTruth, positionIsFlat row = true := by
      intro row member
      rw [← zero_row_iff (zero_row_under (zero row member))]
      exact zero row member
    unfold isCompleteAccountFlatTruth
    simp only [Bool.and_eq_true, List.all_eq_true, List.isEmpty_iff]
    exact ⟨⟨complete, flat⟩, noOrders⟩

end

/-! ## A size under another name -/

/-- Complete truth about an account with one position row. -/
def oneRowTruth (row : DynValue) : DynValue :=
  .dict [("truth_scope", .str "account"), ("truth_supported", .bool true),
    ("truth_available", .bool true), ("positions", .list [row]), ("open_orders", .list [])]

/-- A closed position as its venue reports it, under one of the names of a size. -/
def closedRow (sizeKey : String) : DynValue :=
  .dict [("venue", .str "bybit"), ("symbol", .str "BTCUSDT"), ("side", .str "Buy"),
    (sizeKey, .str "0")]

section

local instance asciiAgreementCase : TextCase := TextCase.ascii

theorem closed_row_live : isCompleteAccountFlatTruth (oneRowTruth (closedRow "size")) = true ∧
    ¬ ShowsNothingLive (oneRowTruth (closedRow "size"))
      (RecoveryLedger.fromLocalAndExchangeTruth (.dict []) (oneRowTruth (closedRow "size"))) := by
  refine ⟨by decide +kernel, ?_⟩
  rw [shows_nothing_iff]
  rintro ⟨zero, _⟩
  have row := zero (closedRow "size") (by
    rw [show exchangePositions (oneRowTruth (closedRow "size")) = [closedRow "size"] from rfl]
    exact List.mem_singleton_self _)
  revert row
  decide +kernel

/-- A closed position under the ledger's name is nothing to both. -/
theorem flat_account_agrees_closed :
    (∀ localState ownerIndex, ShowsNothingLive (oneRowTruth (closedRow "quantity"))
      (RecoveryLedger.fromLocalAndExchangeTruth localState (oneRowTruth (closedRow "quantity"))
        ownerIndex)) ↔ SizesUnderQuantity (oneRowTruth (closedRow "quantity")) :=
  (flat_account_agrees (oneRowTruth (closedRow "quantity"))).1 (by decide +kernel)

end

end LightFee.Engine
