import LightFee.Engine.CloseEvidence
import LightFee.Library.LastMatch

/-!
# Handing the legs of a close to its billing owner

A close that its executor left open may hold the only record of its orders. They are merged into
the final records of the position: an order that is not known is added, and one that was recorded
without a fill is upgraded. An order is known by its venue and its order id, or its client order id
without one; of several records of an order the last one stands for it.

Records are values here: no two of them share a list of legs.
-/

namespace LightFee.Engine

open DynValue

/-! ## Reading the close -/

/-- `getattr(value, name, default)`. -/
def getAttr (value : DynValue) (name : String) (default : DynValue) : DynValue :=
  match value with
  | .obj attributes => (OrderedDict.lookupEntries name attributes).getD default
  | _ => default

/-- The items of a list. -/
def listed : DynValue → List DynValue
  | .list items => items
  | _ => []

/-- `_safe_reconciliation_float` as it is stored; an integer stands for its float. -/
def storedFloat (value : DynValue) : DynValue :=
  match value with
  | .float number => if number.value.isFinite then value else .int 0
  | .int number => if number.natAbs < floatOverflow then value else .int 0
  | .bool flag => .int (if flag then 1 else 0)
  | .str text =>
    match reads : DecimalText.parse text with
    | some (.finite number) => .float ⟨text, .finite number, reads⟩
    | _ => .int 0
  | _ => .int 0

/-- The value of an enumeration member, or the text of anything else. -/
def venueName (venue : DynValue) : String :=
  let member := getAttr venue "value" (.str "")
  if member.truthy then member.text else textOf venue

/-! ## Legs and their orders -/

/-- Venue and order id, or client order id without one. -/
abbrev OrderKey := String × String × String

def orderKey (venue orderId clientOrderId : String) : OrderKey :=
  (venue, orderId, if orderId ≠ "" then "" else clientOrderId)

/-- What a stored record is known by. -/
def recordKey (record : DynValue) : OrderKey :=
  orderKey (textOf (record.get "venue")) (textOf (record.get "order_id"))
    (textOf (record.get "client_order_id"))

/-- The stored record is of this order. -/
def isOrder (key : OrderKey) (record : DynValue) : Bool :=
  record.isMapping && decide (recordKey record = key)

def legOrderId (leg : DynValue) : String := textOf (getAttr leg "order_id" (.str ""))

def legClientOrderId (leg : DynValue) : String :=
  textOf (getAttr leg "client_order_id" (.str ""))

def hasIdentity (leg : DynValue) : Bool := legOrderId leg ≠ "" || legClientOrderId leg ≠ ""

def legVenue (leg : DynValue) : String := venueName (getAttr leg "venue" (.str ""))

/-- What a leg of the close is known by. -/
def legKey (leg : DynValue) : OrderKey :=
  orderKey (legVenue leg) (legOrderId leg) (legClientOrderId leg)

/-- The record of a leg. -/
def legEntries (leg : DynValue) : List (String × DynValue) :=
  [("venue", .str (legVenue leg)), ("order_id", .str (legOrderId leg)),
    ("client_order_id", .str (legClientOrderId leg)),
    ("quantity", storedFloat (getAttr leg "quantity" (.int 0))),
    ("average_price", storedFloat (getAttr leg "average_price" (.int 0))),
    ("fee_quote", storedFloat (getAttr leg "fee_quote" (.int 0)))]

/-- `existing.update(record)`. -/
def upgraded (leg existing : DynValue) : DynValue :=
  existing.amend ((legEntries leg).map (fun entry => (entry.1, some entry.2)))

def recordedQuantity (record : DynValue) : ℚ := safeReconciliationFloat (record.get "quantity")

def legQuantity (leg : DynValue) : ℚ :=
  safeReconciliationFloat (getAttr leg "quantity" (.int 0))

def mergeTolerance : ℚ := 1 / 10 ^ 12

/-- One leg of the close: the records of the side, and how many changed. -/
def mergeLeg (rows : List DynValue) (leg : DynValue) : List DynValue × Nat :=
  if hasIdentity leg = false then (rows, 0)
  else
    match LastMatch.find (isOrder (legKey leg)) rows with
    | some existing =>
      if mergeTolerance < legQuantity leg ∧ recordedQuantity existing ≤ mergeTolerance then
        (LastMatch.rewrite (isOrder (legKey leg)) (upgraded leg) rows, 1)
      else (rows, 0)
    | none => (rows ++ [.dict (legEntries leg)], 1)

/-- All legs of a side, first leg first. -/
def mergeLegs : List DynValue → List DynValue → List DynValue × Nat
  | rows, [] => (rows, 0)
  | rows, leg :: rest =>
    let next := mergeLeg rows leg
    let later := mergeLegs next.1 rest
    (later.1, next.2 + later.2)

/-! ## Owners -/

/-- One side of a record; what is not a list of records becomes one. -/
def mergeSide (reconciliation pendingClose : DynValue) (side : String) : DynValue × Nat :=
  let merged := mergeLegs (listed (reconciliation.get side))
    (listed (getAttr pendingClose side .null))
  (reconciliation.set side (.list merged.1), merged.2)

/-- A proven total raises the owned quantity. -/
def raiseOwned (owned : DynValue) (label : String) (closed : DynValue) : DynValue × Nat :=
  if safeReconciliationFloat (owned.get label) < safeReconciliationFloat closed then
    (owned.set label (storedFloat closed), 1)
  else (owned, 0)

def mergeOwned (reconciliation pendingClose : DynValue) : DynValue × Nat :=
  let owned := reconciliation.get "owned_close_quantities"
  if owned.isMapping then
    let long := raiseOwned owned "long" (getAttr pendingClose "long_closed" (.int 0))
    let short := raiseOwned long.1 "short" (getAttr pendingClose "short_closed" (.int 0))
    (reconciliation.set "owned_close_quantities" short.1, long.2 + short.2)
  else (reconciliation, 0)

/-- Everything that the close adds to one record. -/
def mergeOwner (pendingClose reconciliation : DynValue) : DynValue × Nat :=
  let long := mergeSide reconciliation pendingClose "long_legs"
  let short := mergeSide long.1 pendingClose "short_legs"
  let owned := mergeOwned short.1 pendingClose
  (owned.1, long.2 + short.2 + owned.2)

/-- A final record of the position. -/
def isFinalOwner (positionId : String) (reconciliation : DynValue) : Bool :=
  reconciliation.isMapping && decide (textOf (reconciliation.get "position_id") = positionId) &&
    decide (reconciliationKind reconciliation = "final")

/-- What is journalled of a record that changed. -/
structure EvidenceMerged where
  positionId : String
  closeId : String
  mergedLegCount : Nat

def closePositionId (pendingClose : DynValue) : String :=
  textOf (getAttr pendingClose "position_id" (.str ""))

/-- One record of the queue, and how much of it changed. -/
def mergeRecord (pendingClose reconciliation : DynValue) : DynValue × Nat :=
  if closePositionId pendingClose ≠ "" ∧
      isFinalOwner (closePositionId pendingClose) reconciliation = true then
    mergeOwner pendingClose reconciliation
  else (reconciliation, 0)

/-- `_merge_pending_close_leg_evidence`: the queue and the journal. -/
def mergePendingCloseLegEvidence (queue : List DynValue) (pendingClose : DynValue) :
    List DynValue × List EvidenceMerged :=
  let merged := queue.map (mergeRecord pendingClose)
  (merged.map Prod.fst,
    (merged.filter (fun record => record.2 ≠ 0)).map (fun record =>
      { positionId := closePositionId pendingClose
        closeId := textOf (getAttr pendingClose "close_id" (.str ""))
        mergedLegCount := record.2 }))

/-- What the call answers: the changes of all records. -/
def mergedTotal (events : List EvidenceMerged) : Nat :=
  (events.map EvidenceMerged.mergedLegCount).sum

/-! ## The record of a leg -/

theorem safe_stored (value : DynValue) :
    safeReconciliationFloat (storedFloat value) = safeReconciliationFloat value := by
  have zero : safeReconciliationFloat (.int 0) = 0 := by
    decide +kernel
  cases value with
  | float number =>
    rw [storedFloat]
    split_ifs with isFinite
    · rfl
    · rw [zero, safeReconciliationFloat, finiteOf?, floatOf?, toFloat?]
      · cases reading : number.value <;> simp_all [ExactFloat.isFinite]
      · simp
  | int number =>
    rw [storedFloat]
    split_ifs with fits
    · rfl
    · rw [zero, safeReconciliationFloat, finiteOf?, floatOf?, if_neg fits]
      rfl
  | bool flag => cases flag <;> decide +kernel
  | str text =>
    rw [storedFloat]
    split
    · rename_i number reads
      simp [safeReconciliationFloat, finiteOf?, floatOf?, toFloat?, reads]
    · rename_i unread
      rw [zero, safeReconciliationFloat, finiteOf?, floatOf?, toFloat?]
      · cases reading : DecimalText.parse text with
        | none => rfl
        | some number =>
          cases number with
          | finite number => exact absurd reading (unread number)
          | infinite negative => rfl
          | notANumber => rfl
      · simp
  | null => exact zero
  | list items => exact zero
  | dict entries => exact zero
  | obj attributes => exact zero

theorem recordKey_leg (leg : DynValue) : recordKey (.dict (legEntries leg)) = legKey leg := by
  simp [recordKey, legEntries, legKey, DynValue.get, member?, OrderedDict.lookupEntries,
    textOf_str]

theorem quantity_leg (leg : DynValue) :
    recordedQuantity (.dict (legEntries leg)) = legQuantity leg := by
  simp [recordedQuantity, legEntries, legQuantity, DynValue.get, member?,
    OrderedDict.lookupEntries, safe_stored]

section Upgraded

variable {existing : DynValue} (mapping : existing.isMapping = true) (leg : DynValue)

theorem isMapping_upgraded : (upgraded leg existing).isMapping = existing.isMapping :=
  isMapping_amend _ _

include mapping

theorem recordKey_upgraded : recordKey (upgraded leg existing) = legKey leg := by
  simp [recordKey, upgraded, legEntries, legKey, amend, amendOne, get_set, mapping,
    textOf_str]

theorem quantity_upgraded : recordedQuantity (upgraded leg existing) = legQuantity leg := by
  simp [recordedQuantity, upgraded, legEntries, legQuantity, amend, amendOne, get_set, mapping,
    safe_stored]

end Upgraded

theorem isOrder_leg (leg : DynValue) :
    isOrder (legKey leg) (.dict (legEntries leg)) = true := by
  rw [isOrder, recordKey_leg, decide_eq_true rfl]
  rfl

theorem isOrder_upgraded (leg record : DynValue) (isSame : isOrder (legKey leg) record = true) :
    isOrder (legKey leg) (upgraded leg record) = true := by
  rw [isOrder, Bool.and_eq_true] at isSame
  rw [isOrder, isMapping_upgraded, isSame.1, recordKey_upgraded isSame.1, decide_eq_true rfl]
  rfl

/-! ## What a merge keeps -/

/-- A record stays, or one without a quantity is given one; its order stays the same. -/
def RecordKept (before after : DynValue) : Prop :=
  after = before ∨
    before.isMapping = true ∧ after.isMapping = true ∧ recordKey after = recordKey before ∧
      recordedQuantity before ≤ mergeTolerance ∧ mergeTolerance < recordedQuantity after

/-- Records stay in their places, and new ones follow. -/
def RecordsKept (before after : List DynValue) : Prop :=
  ∃ changed added, after = changed ++ added ∧ List.Forall₂ RecordKept before changed

/-- Some record is of the order. -/
def Named (rows : List DynValue) (key : OrderKey) : Prop :=
  ∃ record ∈ rows, isOrder key record = true

theorem RecordKept.trans {first second third : DynValue} (earlier : RecordKept first second)
    (later : RecordKept second third) : RecordKept first third := by
  obtain rfl | ⟨mapping, secondMapping, key, empty, filled⟩ := earlier
  · exact later
  · obtain rfl | ⟨_, _, _, stillEmpty, _⟩ := later
    · exact Or.inr ⟨mapping, secondMapping, key, empty, filled⟩
    · exact absurd filled (not_lt.mpr stillEmpty)

theorem RecordsKept.refl (rows : List DynValue) : RecordsKept rows rows :=
  ⟨rows, [], (List.append_nil rows).symm, List.forall₂_same.mpr (fun _ _ => Or.inl rfl)⟩

theorem RecordsKept.trans {first second third : List DynValue} (earlier : RecordsKept first second)
    (later : RecordsKept second third) : RecordsKept first third := by
  obtain ⟨changed, added, rfl, kept⟩ := earlier
  obtain ⟨whole, appended, rfl, keptAgain⟩ := later
  obtain ⟨changedAgain, addedAgain, rfl, keptChanged, keptAdded⟩ :
      ∃ left right, whole = left ++ right ∧ List.Forall₂ RecordKept changed left ∧
        List.Forall₂ RecordKept added right := by
    have cut := List.forall₂_take_append whole changed added keptAgain.flip
    have rest := List.forall₂_drop_append whole changed added keptAgain.flip
    exact ⟨_, _, (List.take_append_drop changed.length whole).symm, cut.flip, rest.flip⟩
  refine ⟨changedAgain, addedAgain ++ appended, List.append_assoc _ _ _, ?_⟩
  clear keptAgain
  induction kept generalizing changedAgain with
  | nil =>
    cases keptChanged
    exact List.Forall₂.nil
  | cons head rest rest_ih =>
    obtain _ | ⟨headAgain, restAgain⟩ := keptChanged
    exact List.Forall₂.cons (head.trans headAgain) (rest_ih _ restAgain)

theorem RecordKept.isOrder {before after : DynValue} (kept : RecordKept before after)
    {key : OrderKey} (isSame : isOrder key before = true) : isOrder key after = true := by
  obtain rfl | ⟨mapping, stillMapping, sameKey, _, _⟩ := kept
  · exact isSame
  · rw [LightFee.Engine.isOrder, mapping] at isSame
    rw [LightFee.Engine.isOrder, stillMapping, sameKey]
    exact isSame

theorem Named.kept {before after : List DynValue} {key : OrderKey} (named : Named before key)
    (kept : RecordsKept before after) : Named after key := by
  obtain ⟨record, member, isSame⟩ := named
  obtain ⟨changed, added, rfl, keptEach⟩ := kept
  have found : ∃ after ∈ changed, LightFee.Engine.isOrder key after = true := by
    induction keptEach with
    | nil => exact absurd member List.not_mem_nil
    | cons head rest rest_ih =>
      obtain rfl | inRest := List.mem_cons.mp member
      · exact ⟨_, List.mem_cons_self, head.isOrder isSame⟩
      · obtain ⟨after, isAfter, same⟩ := rest_ih inRest
        exact ⟨after, List.mem_cons_of_mem _ isAfter, same⟩
  obtain ⟨after, isAfter, same⟩ := found
  exact ⟨after, List.mem_append_left _ isAfter, same⟩

/-! ## One leg -/

/-- The last record of the leg's order has a quantity, or the leg has none to give. -/
def Settled (leg : DynValue) (rows : List DynValue) : Prop :=
  hasIdentity leg = true →
    ∃ record, LastMatch.find (isOrder (legKey leg)) rows = some record ∧
      (legQuantity leg ≤ mergeTolerance ∨ mergeTolerance < recordedQuantity record)

/-- What one leg can do to the records of its side. -/
theorem mergeLeg_cases (rows : List DynValue) (leg : DynValue) :
    (mergeLeg rows leg = (rows, 0) ∧ Settled leg rows) ∨
      (∃ existing, LastMatch.find (isOrder (legKey leg)) rows = some existing ∧
        mergeTolerance < legQuantity leg ∧ recordedQuantity existing ≤ mergeTolerance ∧
        mergeLeg rows leg =
          (LastMatch.rewrite (isOrder (legKey leg)) (upgraded leg) rows, 1)) ∨
      (LastMatch.find (isOrder (legKey leg)) rows = none ∧
        mergeLeg rows leg = (rows ++ [.dict (legEntries leg)], 1)) := by
  rw [mergeLeg]
  split_ifs with anonymous
  · refine Or.inl ⟨rfl, fun identified => ?_⟩
    rw [anonymous] at identified
    cases identified
  · cases last : LastMatch.find (isOrder (legKey leg)) rows with
    | none => exact Or.inr (Or.inr ⟨rfl, rfl⟩)
    | some existing =>
      dsimp only
      split_ifs with upgrade
      · exact Or.inr (Or.inl ⟨existing, rfl, upgrade.1, upgrade.2, rfl⟩)
      · refine Or.inl ⟨rfl, fun _ => ⟨existing, last, ?_⟩⟩
        rw [not_and_or, not_lt, not_le] at upgrade
        exact upgrade

theorem mergeLeg_kept (rows : List DynValue) (leg : DynValue) :
    RecordsKept rows (mergeLeg rows leg).1 := by
  obtain ⟨same, _⟩ | ⟨existing, last, fills, empty, same⟩ | ⟨_, same⟩ := mergeLeg_cases rows leg
  · rw [same]
    exact RecordsKept.refl rows
  · rw [same]
    refine ⟨_, [], (List.append_nil _).symm, ?_⟩
    refine (LastMatch.rewrite_kept (isOrder (legKey leg)) (upgraded leg) rows).imp ?_
    rintro before after (rfl | ⟨found, rfl⟩)
    · exact Or.inl rfl
    · obtain rfl := Option.some.inj (last.symm.trans found)
      have passes := (LastMatch.find_passes last).2
      rw [isOrder, Bool.and_eq_true, decide_eq_true_eq] at passes
      refine Or.inr ⟨passes.1, (isMapping_upgraded leg).trans passes.1, ?_, empty, ?_⟩
      · rw [recordKey_upgraded passes.1, passes.2]
      · rw [quantity_upgraded passes.1]
        exact fills
  · rw [same]
    exact ⟨rows, _, rfl, List.forall₂_same.mpr (fun _ _ => Or.inl rfl)⟩

theorem mergeLeg_settles (rows : List DynValue) (leg : DynValue) :
    Settled leg (mergeLeg rows leg).1 := by
  obtain ⟨same, settled⟩ | ⟨existing, last, fills, _, same⟩ | ⟨_, same⟩ := mergeLeg_cases rows leg
  · rw [same]
    exact settled
  · intro _
    rw [same]
    have passes := (LastMatch.find_passes last).2
    rw [isOrder, Bool.and_eq_true] at passes
    refine ⟨upgraded leg existing, ?_, Or.inr ?_⟩
    · rw [LastMatch.find_rewrite (isOrder_upgraded leg), last]
      rfl
    · rw [quantity_upgraded passes.1]
      exact fills
  · intro _
    rw [same]
    refine ⟨.dict (legEntries leg), ?_, ?_⟩
    · rw [LastMatch.find_append, isOrder_leg, if_pos rfl]
    · rw [quantity_leg]
      exact le_or_gt _ _

/-- What is settled for one leg stays settled when another is merged. -/
theorem mergeLeg_keeps_settled {leg : DynValue} {rows : List DynValue} (settled : Settled leg rows)
    (other : DynValue) : Settled leg (mergeLeg rows other).1 := by
  intro identified
  obtain ⟨record, last, enough⟩ := settled identified
  obtain ⟨same, _⟩ | ⟨existing, found, fills, empty, same⟩ | ⟨absent, same⟩ :=
    mergeLeg_cases rows other
  · rw [same]
    exact ⟨record, last, enough⟩
  · rw [same]
    by_cases sameKey : legKey other = legKey leg
    · rw [sameKey] at found
      obtain rfl := Option.some.inj (found.symm.trans last)
      have passes := (LastMatch.find_passes found).2
      rw [isOrder, Bool.and_eq_true] at passes
      refine ⟨upgraded other existing, ?_, Or.inr ?_⟩
      · rw [← sameKey, LastMatch.find_rewrite (isOrder_upgraded other), sameKey, found]
        rfl
      · rw [quantity_upgraded passes.1]
        exact fills
    · refine ⟨record, ?_, enough⟩
      rw [LastMatch.find_rewrite_other ?_]
      · exact last
      · intro item isOther
        have upgradedOther := isOrder_upgraded other item isOther
        rw [isOrder, Bool.and_eq_true, decide_eq_true_eq] at isOther upgradedOther
        simp [isOrder, isOther.2, upgradedOther.2, sameKey]
  · rw [same, LastMatch.find_append]
    have apart : isOrder (legKey leg) (.dict (legEntries other)) = false := by
      by_contra isSame
      rw [Bool.not_eq_false, isOrder, Bool.and_eq_true, decide_eq_true_eq, recordKey_leg] at isSame
      rw [← isSame.2, absent] at last
      cases last
    rw [apart]
    exact ⟨record, last, enough⟩

theorem settled_fixed {leg : DynValue} {rows : List DynValue} (settled : Settled leg rows) :
    mergeLeg rows leg = (rows, 0) := by
  rw [mergeLeg]
  split_ifs with anonymous
  · rfl
  · obtain ⟨record, last, enough⟩ := settled (by simpa using anonymous)
    rw [last]
    dsimp only
    rw [if_neg]
    rintro ⟨fills, empty⟩
    obtain nothing | filled := enough
    · exact absurd fills (not_lt.mpr nothing)
    · exact absurd filled (not_lt.mpr empty)

theorem settled_named {leg : DynValue} {rows : List DynValue} (settled : Settled leg rows)
    (identified : hasIdentity leg = true) : Named rows (legKey leg) := by
  obtain ⟨record, last, _⟩ := settled identified
  exact ⟨record, LastMatch.find_passes last⟩

/-! ## All legs of a side -/

theorem mergeLegs_kept (legs : List DynValue) :
    ∀ rows, RecordsKept rows (mergeLegs rows legs).1 := by
  induction legs with
  | nil => exact RecordsKept.refl
  | cons leg rest rest_ih => exact fun rows => (mergeLeg_kept rows leg).trans (rest_ih _)

theorem mergeLegs_keeps_settled {leg : DynValue} (legs : List DynValue) :
    ∀ rows, Settled leg rows → Settled leg (mergeLegs rows legs).1 := by
  induction legs with
  | nil => exact fun rows settled => settled
  | cons other rest rest_ih =>
    exact fun rows settled => rest_ih _ (mergeLeg_keeps_settled settled other)

theorem mergeLegs_settles (legs : List DynValue) :
    ∀ rows, ∀ leg ∈ legs, Settled leg (mergeLegs rows legs).1 := by
  induction legs with
  | nil => exact fun rows leg member => absurd member List.not_mem_nil
  | cons first rest rest_ih =>
    intro rows leg member
    obtain rfl | inRest := List.mem_cons.mp member
    · exact mergeLegs_keeps_settled rest _ (mergeLeg_settles rows leg)
    · exact rest_ih _ leg inRest

theorem settled_legs_fixed (legs : List DynValue) :
    ∀ rows, (∀ leg ∈ legs, Settled leg rows) → mergeLegs rows legs = (rows, 0) := by
  induction legs with
  | nil => exact fun rows settled => rfl
  | cons leg rest rest_ih =>
    intro rows settled
    rw [List.forall_mem_cons] at settled
    rw [mergeLegs, settled_fixed settled.1]
    dsimp only
    rw [rest_ih rows settled.2]
    rfl

/-- Merging the same legs again changes nothing. -/
theorem mergeLegs_again (rows legs : List DynValue) :
    mergeLegs (mergeLegs rows legs).1 legs = ((mergeLegs rows legs).1, 0) :=
  settled_legs_fixed legs _ (mergeLegs_settles legs rows)

/-! ## One owner -/

section Owner

variable {reconciliation : DynValue} (mapping : reconciliation.isMapping = true)
  (pendingClose : DynValue)

/-- The records of a side after its merge. -/
def mergedRows (reconciliation pendingClose : DynValue) (side : String) : List DynValue :=
  (mergeLegs (listed (reconciliation.get side)) (listed (getAttr pendingClose side .null))).1

include mapping

theorem mergeSide_member (side field : String) :
    (mergeSide reconciliation pendingClose side).1.member? field =
      if side = field then some (.list (mergedRows reconciliation pendingClose side))
      else reconciliation.member? field :=
  member_set mapping side _ field

theorem mergeSide_mapping (side : String) :
    (mergeSide reconciliation pendingClose side).1.isMapping = true :=
  (isMapping_set reconciliation side _).trans mapping

omit mapping in
/-- A side that holds what a merge left is not changed by the same merge. -/
theorem mergeSide_fixed {side : String} {earlier : DynValue}
    (stored : reconciliation.member? side =
      some (.list (mergedRows earlier pendingClose side))) :
    mergeSide reconciliation pendingClose side = (reconciliation, 0) := by
  have rows : listed (reconciliation.get side) = mergedRows earlier pendingClose side := by
    rw [DynValue.get, stored]
    rfl
  have again : mergeLegs (listed (reconciliation.get side))
      (listed (getAttr pendingClose side .null)) =
        (mergedRows earlier pendingClose side, 0) := by
    rw [rows, mergedRows]
    exact mergeLegs_again _ _
  rw [mergeSide, again]
  dsimp only
  rw [set_same stored]

end Owner

/-! ### The owned quantities -/

section Owned

variable {owned : DynValue} (mapping : owned.isMapping = true)

theorem raiseOwned_mapping (label : String) (closed : DynValue) :
    (raiseOwned owned label closed).1.isMapping = owned.isMapping := by
  rw [raiseOwned]
  split_ifs <;> simp

include mapping

/-- The label reads as the larger of the two quantities, and no other label changes. -/
theorem raiseOwned_reads (label : String) (closed : DynValue) (tested : String) :
    safeReconciliationFloat ((raiseOwned owned label closed).1.get tested) =
      if label = tested then
        max (safeReconciliationFloat (owned.get label)) (safeReconciliationFloat closed)
      else safeReconciliationFloat (owned.get tested) := by
  rw [raiseOwned]
  by_cases same : label = tested
  · subst same
    rw [if_pos rfl]
    split_ifs with raises
    · rw [get_set mapping, if_pos rfl, safe_stored, max_eq_right raises.le]
    · rw [max_eq_left (not_lt.mp raises)]
  · rw [if_neg same]
    split_ifs with raises
    · rw [get_set mapping, if_neg same]
    · rfl

end Owned

theorem raiseOwned_fixed {owned : DynValue} {label : String} {closed : DynValue}
    (enough : safeReconciliationFloat closed ≤ safeReconciliationFloat (owned.get label)) :
    raiseOwned owned label closed = (owned, 0) :=
  if_neg (not_lt.mpr enough)

/-- The owned quantities after the totals of the close. -/
def raisedOwned (owned pendingClose : DynValue) : DynValue :=
  (raiseOwned (raiseOwned owned "long" (getAttr pendingClose "long_closed" (.int 0))).1 "short"
    (getAttr pendingClose "short_closed" (.int 0))).1

section RaisedOwned

variable {reconciliation owned : DynValue} (mapping : owned.isMapping = true)
  (pendingClose : DynValue)

theorem raisedOwned_mapping :
    (raisedOwned owned pendingClose).isMapping = owned.isMapping := by
  rw [raisedOwned, raiseOwned_mapping, raiseOwned_mapping]

include mapping

theorem raisedOwned_long :
    safeReconciliationFloat ((raisedOwned owned pendingClose).get "long") =
      max (safeReconciliationFloat (owned.get "long"))
        (safeReconciliationFloat (getAttr pendingClose "long_closed" (.int 0))) := by
  rw [raisedOwned, raiseOwned_reads (by rw [raiseOwned_mapping, mapping]), if_neg (by decide),
    raiseOwned_reads mapping, if_pos rfl]

theorem raisedOwned_short :
    safeReconciliationFloat ((raisedOwned owned pendingClose).get "short") =
      max (safeReconciliationFloat (owned.get "short"))
        (safeReconciliationFloat (getAttr pendingClose "short_closed" (.int 0))) := by
  rw [raisedOwned, raiseOwned_reads (by rw [raiseOwned_mapping, mapping]), if_pos rfl,
    raiseOwned_reads mapping, if_neg (by decide)]

/-- Raising the owned quantities again changes nothing. -/
theorem raisedOwned_fixed (label closedName : String)
    (named : label = "long" ∧ closedName = "long_closed" ∨
      label = "short" ∧ closedName = "short_closed") :
    raiseOwned (raisedOwned owned pendingClose) label (getAttr pendingClose closedName (.int 0)) =
      (raisedOwned owned pendingClose, 0) := by
  apply raiseOwned_fixed
  obtain ⟨rfl, rfl⟩ | ⟨rfl, rfl⟩ := named
  · rw [raisedOwned_long mapping]
    exact le_max_right _ _
  · rw [raisedOwned_short mapping]
    exact le_max_right _ _

end RaisedOwned

section Owner

variable {reconciliation : DynValue} (mapping : reconciliation.isMapping = true)
  (pendingClose : DynValue)

theorem mergeOwned_mapping :
    (mergeOwned reconciliation pendingClose).1.isMapping = reconciliation.isMapping := by
  rw [mergeOwned]
  split_ifs <;> simp

include mapping

theorem mergeOwned_member (field : String) :
    (mergeOwned reconciliation pendingClose).1.member? field =
      if "owned_close_quantities" = field ∧
          (reconciliation.get "owned_close_quantities").isMapping = true then
        some (raisedOwned (reconciliation.get "owned_close_quantities") pendingClose)
      else reconciliation.member? field := by
  rw [mergeOwned]
  by_cases owned : (reconciliation.get "owned_close_quantities").isMapping = true
  · rw [if_pos owned, member_set mapping]
    simp only [owned, and_true]
    rfl
  · rw [if_neg owned, if_neg (fun both => owned both.2)]

theorem mergeOwned_again :
    mergeOwned (mergeOwned reconciliation pendingClose).1 pendingClose =
      ((mergeOwned reconciliation pendingClose).1, 0) := by
  have member := mergeOwned_member mapping pendingClose "owned_close_quantities"
  by_cases owned : (reconciliation.get "owned_close_quantities").isMapping = true
  · rw [if_pos ⟨rfl, owned⟩] at member
    have stored : (mergeOwned reconciliation pendingClose).1.get "owned_close_quantities" =
        raisedOwned (reconciliation.get "owned_close_quantities") pendingClose := by
      rw [DynValue.get, member]
      rfl
    have still : (raisedOwned (reconciliation.get "owned_close_quantities")
        pendingClose).isMapping = true := by
      rw [raisedOwned_mapping, owned]
    rw [mergeOwned, stored, if_pos still]
    dsimp only
    rw [raisedOwned_fixed owned pendingClose "long" "long_closed" (Or.inl ⟨rfl, rfl⟩)]
    dsimp only
    rw [raisedOwned_fixed owned pendingClose "short" "short_closed" (Or.inr ⟨rfl, rfl⟩)]
    dsimp only
    rw [set_same member]
  · have same : mergeOwned reconciliation pendingClose = (reconciliation, 0) := by
      rw [mergeOwned, if_neg owned]
    rw [same, same]

/-- Every field of the owner after the merge. -/
theorem mergeOwner_member (field : String) :
    (mergeOwner pendingClose reconciliation).1.member? field =
      if "owned_close_quantities" = field ∧
          (reconciliation.get "owned_close_quantities").isMapping = true then
        some (raisedOwned (reconciliation.get "owned_close_quantities") pendingClose)
      else if "short_legs" = field then
        some (.list (mergedRows reconciliation pendingClose "short_legs"))
      else if "long_legs" = field then
        some (.list (mergedRows reconciliation pendingClose "long_legs"))
      else reconciliation.member? field := by
  have longMapping := mergeSide_mapping mapping pendingClose "long_legs"
  have shortMapping := mergeSide_mapping longMapping pendingClose "short_legs"
  have kept (other : String) (apart : "long_legs" ≠ other) :
      (mergeSide reconciliation pendingClose "long_legs").1.get other =
        reconciliation.get other := by
    rw [DynValue.get, DynValue.get, mergeSide_member mapping, if_neg apart]
  have keptOwned : (mergeSide (mergeSide reconciliation pendingClose "long_legs").1 pendingClose
      "short_legs").1.get "owned_close_quantities" =
        reconciliation.get "owned_close_quantities" := by
    rw [DynValue.get, mergeSide_member longMapping, if_neg (by decide), ← DynValue.get,
      kept "owned_close_quantities" (by decide)]
  have keptRows : mergedRows (mergeSide reconciliation pendingClose "long_legs").1 pendingClose
      "short_legs" = mergedRows reconciliation pendingClose "short_legs" := by
    rw [mergedRows, mergedRows, kept "short_legs" (by decide)]
  rw [mergeOwner]
  dsimp only
  rw [mergeOwned_member shortMapping, keptOwned, mergeSide_member longMapping, keptRows,
    mergeSide_member mapping]

theorem mergeOwner_mapping : (mergeOwner pendingClose reconciliation).1.isMapping = true := by
  rw [mergeOwner]
  dsimp only
  rw [mergeOwned_mapping]
  exact mergeSide_mapping (mergeSide_mapping mapping pendingClose _) pendingClose _

theorem mergeOwner_again :
    mergeOwner pendingClose (mergeOwner pendingClose reconciliation).1 =
      ((mergeOwner pendingClose reconciliation).1, 0) := by
  have long : mergeSide (mergeOwner pendingClose reconciliation).1 pendingClose "long_legs" =
      ((mergeOwner pendingClose reconciliation).1, 0) := by
    have stored : (mergeOwner pendingClose reconciliation).1.member? "long_legs" =
        some (.list (mergedRows reconciliation pendingClose "long_legs")) := by
      rw [mergeOwner_member mapping]
      rfl
    exact mergeSide_fixed pendingClose stored
  have short : mergeSide (mergeOwner pendingClose reconciliation).1 pendingClose "short_legs" =
      ((mergeOwner pendingClose reconciliation).1, 0) := by
    have stored : (mergeOwner pendingClose reconciliation).1.member? "short_legs" =
        some (.list (mergedRows reconciliation pendingClose "short_legs")) := by
      rw [mergeOwner_member mapping]
      rfl
    exact mergeSide_fixed pendingClose stored
  have owned : mergeOwned (mergeOwner pendingClose reconciliation).1 pendingClose =
      ((mergeOwner pendingClose reconciliation).1, 0) := by
    have sides := mergeSide_mapping (mergeSide_mapping mapping pendingClose "long_legs")
      pendingClose "short_legs"
    have again := mergeOwned_again sides pendingClose
    rw [mergeOwner]
    exact again
  rw [mergeOwner, long]
  dsimp only
  rw [short]
  dsimp only
  rw [owned]
  rfl

end Owner

/-! ## The queue -/

/-- What a merge may do to one side of an owner. -/
structure SideGrown (legs before after : List DynValue) : Prop where
  kept : RecordsKept before after
  grown : ∀ key, Named before key → Named after key
  named : ∀ leg ∈ legs, hasIdentity leg = true → Named after (legKey leg)

/-- What a merge may do to an owner. -/
structure OwnerGrown (pendingClose before after : DynValue) : Prop where
  others : ∀ field ∉ ["long_legs", "short_legs", "owned_close_quantities"],
    after.get field = before.get field
  sides : ∀ side ∈ ["long_legs", "short_legs"],
    SideGrown (listed (getAttr pendingClose side .null)) (listed (before.get side))
      (listed (after.get side))
  owned : ∀ label ∈ ["long", "short"],
    safeReconciliationFloat ((before.get "owned_close_quantities").get label) ≤
      safeReconciliationFloat ((after.get "owned_close_quantities").get label)

theorem mergedRows_grown (reconciliation pendingClose : DynValue) (side : String) :
    SideGrown (listed (getAttr pendingClose side .null)) (listed (reconciliation.get side))
      (mergedRows reconciliation pendingClose side) where
  kept := mergeLegs_kept _ _
  grown := fun _ named => named.kept (mergeLegs_kept _ _)
  named := fun leg member identified =>
    settled_named (mergeLegs_settles _ _ leg member) identified

theorem mergeOwner_grown {reconciliation : DynValue} (mapping : reconciliation.isMapping = true)
    (pendingClose : DynValue) :
    OwnerGrown pendingClose reconciliation (mergeOwner pendingClose reconciliation).1 where
  others := by
    intro field other
    simp only [List.mem_cons, List.not_mem_nil, or_false, not_or] at other
    rw [DynValue.get, DynValue.get, mergeOwner_member mapping, if_neg (fun same => other.2.2 same.1.symm),
      if_neg (fun same => other.2.1 same.symm), if_neg (fun same => other.1 same.symm)]
  sides := by
    intro side isSide
    have merged : listed ((mergeOwner pendingClose reconciliation).1.get side) =
        mergedRows reconciliation pendingClose side := by
      simp only [List.mem_cons, List.not_mem_nil, or_false] at isSide
      obtain rfl | rfl := isSide
      · rw [DynValue.get, mergeOwner_member mapping]
        rfl
      · rw [DynValue.get, mergeOwner_member mapping]
        rfl
    rw [merged]
    exact mergedRows_grown reconciliation pendingClose side
  owned := by
    intro label isLabel
    by_cases owned : (reconciliation.get "owned_close_quantities").isMapping = true
    · have raised : (mergeOwner pendingClose reconciliation).1.get "owned_close_quantities" =
          raisedOwned (reconciliation.get "owned_close_quantities") pendingClose := by
        rw [DynValue.get, mergeOwner_member mapping, if_pos ⟨rfl, owned⟩]
        rfl
      rw [raised]
      simp only [List.mem_cons, List.not_mem_nil, or_false] at isLabel
      obtain rfl | rfl := isLabel
      · rw [raisedOwned_long owned]
        exact le_max_left _ _
      · rw [raisedOwned_short owned]
        exact le_max_left _ _
    · have same : (mergeOwner pendingClose reconciliation).1.get "owned_close_quantities" =
          reconciliation.get "owned_close_quantities" := by
        rw [DynValue.get, mergeOwner_member mapping, if_neg (fun both => owned both.2),
          if_neg (by decide), if_neg (by decide), DynValue.get]
      rw [same]

/-- The record is one that the close is merged into. -/
def isOwner (pendingClose reconciliation : DynValue) : Bool :=
  decide (closePositionId pendingClose ≠ "") &&
    isFinalOwner (closePositionId pendingClose) reconciliation

theorem mergeRecord_owner {pendingClose reconciliation : DynValue}
    (owner : isOwner pendingClose reconciliation = true) :
    reconciliation.isMapping = true ∧
      mergeRecord pendingClose reconciliation = mergeOwner pendingClose reconciliation := by
  rw [isOwner, Bool.and_eq_true, decide_eq_true_eq] at owner
  refine ⟨?_, if_pos owner⟩
  have final := owner.2
  rw [isFinalOwner, Bool.and_eq_true, Bool.and_eq_true] at final
  exact final.1.1

theorem mergeRecord_other {pendingClose reconciliation : DynValue}
    (other : isOwner pendingClose reconciliation = false) :
    mergeRecord pendingClose reconciliation = (reconciliation, 0) := by
  apply if_neg
  intro both
  rw [isOwner, both.2, decide_eq_true both.1] at other
  cases other

/-- A record is merged once. -/
theorem mergeRecord_again (pendingClose reconciliation : DynValue) :
    mergeRecord pendingClose (mergeRecord pendingClose reconciliation).1 =
      ((mergeRecord pendingClose reconciliation).1, 0) := by
  cases owner : isOwner pendingClose reconciliation with
  | false => rw [mergeRecord_other owner, mergeRecord_other owner]
  | true =>
    obtain ⟨mapping, merged⟩ := mergeRecord_owner owner
    have grown := mergeOwner_grown mapping pendingClose
    have still : isOwner pendingClose (mergeOwner pendingClose reconciliation).1 = true := by
      rw [isOwner, isFinalOwner, reconciliationKind] at owner ⊢
      rw [mergeOwner_mapping mapping, grown.others "position_id" (by decide),
        grown.others "kind" (by decide)]
      rw [mapping] at owner
      exact owner
    rw [merged, (mergeRecord_owner still).2, mergeOwner_again mapping]

/-- A merge changes the owners of the close only. There records stay in their places, a quantity is
never changed, and none is replaced by nothing; orders are only added, and those of the close are
all there; an owned quantity never falls. The same merge again changes nothing. -/
theorem evidence_merge_monotone (queue : List DynValue) (pendingClose : DynValue) :
    List.Forall₂ (fun before after =>
        (isOwner pendingClose before = false → after = before) ∧
          (isOwner pendingClose before = true → OwnerGrown pendingClose before after))
        queue (mergePendingCloseLegEvidence queue pendingClose).1 ∧
      (mergePendingCloseLegEvidence (mergePendingCloseLegEvidence queue pendingClose).1
          pendingClose).1 = (mergePendingCloseLegEvidence queue pendingClose).1 ∧
      mergedTotal (mergePendingCloseLegEvidence
          (mergePendingCloseLegEvidence queue pendingClose).1 pendingClose).2 = 0 := by
  have records (queue : List DynValue) : (mergePendingCloseLegEvidence queue pendingClose).1 =
      queue.map (fun reconciliation => (mergeRecord pendingClose reconciliation).1) := by
    rw [mergePendingCloseLegEvidence, List.map_map]
    rfl
  refine ⟨?_, ?_, ?_⟩
  · rw [records, List.forall₂_map_right_iff]
    apply List.forall₂_same.mpr
    intro reconciliation _
    refine ⟨fun other => by rw [mergeRecord_other other], fun owner => ?_⟩
    obtain ⟨mapping, merged⟩ := mergeRecord_owner owner
    rw [merged]
    exact mergeOwner_grown mapping pendingClose
  · rw [records (mergePendingCloseLegEvidence queue pendingClose).1, records, List.map_map]
    refine List.map_congr_left (fun reconciliation _ => ?_)
    have again := congrArg Prod.fst (mergeRecord_again pendingClose reconciliation)
    exact again
  · have unchanged : ∀ merged ∈ (mergePendingCloseLegEvidence queue pendingClose).1.map
        (mergeRecord pendingClose), merged.2 = 0 := by
      intro merged member
      rw [records, List.map_map] at member
      obtain ⟨reconciliation, _, rfl⟩ := List.mem_map.mp member
      exact congrArg Prod.snd (mergeRecord_again pendingClose reconciliation)
    have quiet : (((mergePendingCloseLegEvidence queue pendingClose).1).map
        (mergeRecord pendingClose)).filter (fun record => record.2 ≠ 0) = [] := by
      rw [List.filter_eq_nil_iff]
      intro merged member
      simp [unchanged merged member]
    rw [mergePendingCloseLegEvidence]
    dsimp only
    rw [quiet]
    rfl

/-! ### Quantities of dust and infinite ones -/

/-- A final record with a stored fill of dust and an owned quantity without a bound. -/
def dustRecord : DynValue :=
  .dict [("position_id", .str "p1"),
    ("long_legs", .list [.dict [("venue", .str "okx"), ("order_id", .str "7"),
      ("quantity", .float ⟨"5e-13", .finite (5 / 10 ^ 13), by decide +kernel⟩)]]),
    ("owned_close_quantities", .dict
      [("long", .float ⟨"inf", .infinite false, by decide +kernel⟩), ("short", .int 0)])]

def dustClose : DynValue :=
  .obj [("position_id", .str "p1"), ("long_closed", .int 62),
    ("long_legs", .list [.obj [("venue", .str "okx"), ("order_id", .str "7"),
      ("quantity", .int 62)]])]

/-- A positive stored quantity is replaced, and an infinite owned one falls. -/
theorem dust_replaced :
    ((listed (dustRecord.get "long_legs")).map recordedQuantity = [5 / 10 ^ 13] ∧
        (mergePendingCloseLegEvidence [dustRecord] dustClose).1.map (fun after =>
          (listed (after.get "long_legs")).map recordedQuantity) = [[62]]) ∧
      (floatOf? ((dustRecord.get "owned_close_quantities").get "long") = some (.infinite false) ∧
        (mergePendingCloseLegEvidence [dustRecord] dustClose).1.map (fun after =>
          floatOf? ((after.get "owned_close_quantities").get "long")) = [some (.finite 62)]) := by
  refine ⟨⟨?_, ?_⟩, ?_, ?_⟩
  all_goals decide +kernel

end LightFee.Engine
