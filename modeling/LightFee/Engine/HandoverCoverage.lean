import Mathlib.Data.List.Nodup
import LightFee.Engine.LiveFlatHandover

/-!
# What a live-flat hand-over carries

The first row of a key is kept, whichever side it is of, so an order reaches the record on its
side exactly where no row of the other side has its venue and name before it. Of an order that
filled in several steps only the first one is kept. The new record is stored unless the queue
keeps a final record of the position, and a stored record stays unless it is replaced, absorbed or
pushed out by the limit. Nothing is said of the journal append, which is taken to succeed.
-/

namespace LightFee.Engine

open LightFee.Venues DynValue

/-! ## Names of a close -/

/-- The order id, or the client order id without one. -/
def orderIdentity (orderId clientOrderId : String) : String × String :=
  (orderId, if orderId ≠ "" then "" else clientOrderId)

/-- The name under which an order is looked up. -/
def identityName (identity : String × String) : String := orText identity.1 identity.2

/-- The names of a persisted leg: those of its fill, or of its intent. -/
def PersistedCloseExecutionLeg.identity (leg : PersistedCloseExecutionLeg) : String × String :=
  match leg.fill with
  | some fill => orderIdentity fill.orderId (orText leg.clientOrderId (fill.clientOrderId.getD ""))
  | none => orderIdentity leg.orderId leg.clientOrderId

namespace PendingPassiveClose

/-- The counter that counts a leg. -/
def fillStateOn (pending : PendingPassiveClose) (side : ActiveMakerLeg) : PendingPassiveLegFill :=
  if side = pending.phaseState.activeMakerLeg then pending.makerFill else pending.hedgeFill

end PendingPassiveClose

def OpenPosition.heldOn (position : OpenPosition) : ActiveMakerLeg → ExactFloat
  | .long => position.longQuantity
  | .short => position.shortQuantity

/-- Closes of the position that an executor left open. -/
def positionCloses (runtime : RuntimeState) (positionId : String) : List PendingClose :=
  runtime.engine.pendingCloses.values.filter (fun close => decide (close.positionId = positionId))

/-- Every order of the close on a leg. -/
def closeIdentities (runtime : RuntimeState) (pending : PendingPassiveClose)
    (side : ActiveMakerLeg) : List (String × String) :=
  ((pending.legsOn side).map PersistedCloseExecutionLeg.identity ++
    [orderIdentity (pending.fillStateOn side).orderId (pending.fillStateOn side).clientOrderId] ++
    (positionCloses runtime pending.positionId).flatMap (fun close =>
      (close.legsOn side).map (fun leg => orderIdentity leg.orderId leg.clientOrderId))).filter
    (fun identity => decide (identity ≠ ("", "")))

/-- Rows of fills under a name. -/
def PendingPassiveClose.deltaRows (pending : PendingPassiveClose) (side : ActiveMakerLeg)
    (identity : String × String) : List CloseLegRow :=
  (pending.fillRows side).filter (fun row => decide (row.identity = identity))

/-- What the delta legs of an order filled together. -/
def PendingPassiveClose.deltaTotal (pending : PendingPassiveClose) (side : ActiveMakerLeg)
    (identity : String × String) : ExactFloat :=
  ((pending.deltaRows side identity).map CloseLegRow.quantity).foldl ExactFloat.add (.finite 0)

/-- A leg of a queued record is looked up under the name. -/
def CarriedOn (record : DynValue) (side : ActiveMakerLeg) (name : String) : Prop :=
  ∃ leg ∈ legGroup record (side.label ++ "_legs"), identityText leg = some name

/-- What a hand-over promises of the queue that it leaves. -/
structure HandedOver (runtime : RuntimeState) (pending : PendingPassiveClose)
    (position : OpenPosition) (plan : HandoverPlan) (queue : List DynValue) : Prop where
  carried : ∀ side, ∀ identity ∈ closeIdentities runtime pending side, ∃ record ∈ queue,
    textOf (record.get "position_id") = pending.positionId ∧
      CarriedOn record side (identityName identity)
  distinct : ∀ record absorbed, plan = .register record absorbed → ∀ side,
    ((record.legs side).filterMap legIdentity).Nodup
  sums : ∀ record absorbed, plan = .register record absorbed → ∀ side,
    ∀ row ∈ pending.fillRows side, row.named = true → ∃ kept ∈ record.rows side,
      kept.identity = row.identity ∧ kept.quantity = pending.deltaTotal side row.identity
  owned : ∀ record absorbed, plan = .register record absorbed → ∀ side,
    (position.heldOn side).le (record.owned side) = true ∧
      ∀ close ∈ positionCloses runtime pending.positionId,
        (close.closedOn side).le (record.owned side) = true

/-- The queue after a hand-over. -/
def HandoverPlan.queue [TextCase] (queue : List DynValue) : HandoverPlan → List DynValue
  | .register record absorbed => handOver queue record absorbed
  | .notLive | .registered => queue

/-! ## The condition -/

/-- A record of the position is looked up under the name on the leg. -/
def StoredOn (queue : List DynValue) (positionId : String) (side : ActiveMakerLeg)
    (name : String) : Prop :=
  ∃ record ∈ queue, textOf (record.get "position_id") = positionId ∧ CarriedOn record side name

/-- Named legs of the closes that the executor left open, in the order in which they are read. -/
def executorRows (runtime : RuntimeState) (positionId : String) (side : ActiveMakerLeg) :
    List CloseLegRow :=
  (((positionCloses runtime positionId).flatMap (fun close => close.legsOn side)).map
    CloseLegRecord.row).filter CloseLegRow.named

/-- Whether an item joins the queue: no record of its owner is stored, or the stored one gives
way. -/
def isTaken (queue : List DynValue) (item : DynValue) : Bool :=
  match matchedOwner (setPendingCloseReconciliations (.list queue)) item with
  | none => true
  | some owner => !keepsOwner item owner

/-- The stored records that stay when an item is enqueued. The owner that it replaces goes, and
a full queue gives up its oldest record for a new owner. -/
def stayingRecords (queue : List DynValue) (item : DynValue) : List DynValue :=
  let stored := setPendingCloseReconciliations (.list queue)
  match matchedOwner stored item with
  | none => stored.drop (stored.length + 1 - maxPendingCloseReconciliations)
  | some owner =>
    if keepsOwner item owner then stored
    else stored.eraseP (fun existing =>
      decide (reconciliationOwner existing = reconciliationOwner item))

section Condition

variable [TextCase] (runtime : RuntimeState) (pending : PendingPassiveClose)
  (position : OpenPosition) (call : HandoverCall)

/-- The row that a key has on a side: the first row with the key when it is of this side, else
the executor's first leg. Rows are read in the order of `handoverEntries`. -/
def firstRow (side : ActiveMakerLeg) (key : String × String × String) : Option CloseLegRow :=
  (((handoverEntries pending position call.extra).find? (fun entry =>
    decide (entry.2.key = key))).bind (fun entry =>
      if entry.1 = side then some entry.2 else none)).or
    ((executorRows runtime pending.positionId side).find? (fun row => decide (row.key = key)))

/-- A named row that is the first one of its key, on its side. -/
def Reaches (side : ActiveMakerLeg) (row : CloseLegRow) : Prop :=
  row.named = true ∧ firstRow runtime pending position call side row.key = some row

/-- A row with the name reaches the side, or the absorbed partial record has one there. -/
def BroughtTo (side : ActiveMakerLeg) (name : String) : Prop :=
  (∃ row, Reaches runtime pending position call side row ∧ identityName row.identity = name) ∨
    ∃ taken, absorbedPartial runtime pending position call = some taken ∧
      ∃ leg ∈ taken.prior side, identityText leg = some name

/-- A queued record of the position has the same orders, so nothing is registered. -/
def IsRegistered : Prop :=
  let record := liveFlatRecord runtime pending position call
  alreadyRegistered record (sortedIdentities (record.legs .long ++ record.legs .short))
    runtime.pendingCloseReconciliations = some true

/-- The stored records that a registration leaves: the absorbed partial record goes as well. -/
def leftRecords : List DynValue :=
  let staying := stayingRecords runtime.pendingCloseReconciliations
    (liveFlatRecord runtime pending position call).toDyn
  match absorbedPartial runtime pending position call with
  | none => staying
  | some taken => staying.filter (fun record =>
      decide (removalKey record ≠ removalKey taken.task))

/-- When a registration is sound. Every order is on its side in a record that stays, or comes to
its side of a record that is taken; no order comes from two venues; the first row of an order has
all that its confirmed legs filled; and nothing that is compared is not-a-number. -/
structure RegistrationSound : Prop where
  reached : ∀ side, ∀ identity ∈ closeIdentities runtime pending side,
    StoredOn (leftRecords runtime pending position call) pending.positionId side
        (identityName identity) ∨
      isTaken runtime.pendingCloseReconciliations
          (liveFlatRecord runtime pending position call).toDyn = true ∧
        BroughtTo runtime pending position call side (identityName identity)
  venues : ∀ side left right, Reaches runtime pending position call side left →
    Reaches runtime pending position call side right → left.identity = right.identity →
      left.venue = right.venue
  whole : ∀ side, ∀ row ∈ pending.fillRows side, row.named = true →
    ∃ kept, Reaches runtime pending position call side kept ∧ kept.identity = row.identity ∧
      kept.quantity = pending.deltaTotal side row.identity
  numbers : ∀ side, position.heldOn side ≠ .notANumber ∧
    ∀ close ∈ positionCloses runtime pending.positionId, close.closedOn side ≠ .notANumber

/-- When a hand-over is sound. Of a close that is registered already only the sides can be wrong:
an order that a stored record has on the other leg is stored on its own leg too. -/
structure HandoverSound : Prop where
  sides : IsRegistered runtime pending position call → ∀ side other, side ≠ other →
    ∀ identity ∈ closeIdentities runtime pending side,
      StoredOn runtime.pendingCloseReconciliations pending.positionId other
          (identityName identity) →
        StoredOn runtime.pendingCloseReconciliations pending.positionId side
          (identityName identity)
  registration : ¬ IsRegistered runtime pending position call →
    RegistrationSound runtime pending position call

end Condition

/-! ## Rows that are kept -/

/-- A row that `add_record` does not skip. -/
def CloseLegRow.counts (row : CloseLegRow) : Bool := row.named || fillDust.lt row.quantity

/-- The rows of a side are the first ones of their keys. -/
theorem HandoverRows.foldl_rows (entries : List (ActiveMakerLeg × CloseLegRow))
    (known : HandoverRows) (side : ActiveMakerLeg) :
    (entries.foldl HandoverRows.add known).rows side = known.rows side ++
      ((KeepFirst.keepFirst (fun entry => entry.2.key) known.seen
        (entries.filter (fun entry => entry.2.counts))).filter
          (fun entry => decide (entry.1 = side))).map Prod.snd := by
  induction entries generalizing known with
  | nil => simp [KeepFirst.keepFirst]
  | cons entry rest hyp =>
    rw [List.foldl_cons, hyp, List.filter_cons]
    have skips : entry.2.counts = !(!entry.2.named && !fillDust.lt entry.2.quantity) := by
      rw [CloseLegRow.counts, Bool.not_and, Bool.not_not, Bool.not_not]
    by_cases idle : (!entry.2.named && !fillDust.lt entry.2.quantity) = true
    · rw [skips, idle, if_neg (by decide), HandoverRows.add, if_pos idle]
    · rw [Bool.not_eq_true] at idle
      rw [skips, idle, if_pos (by decide), KeepFirst.keepFirst, HandoverRows.add, idle,
        if_neg (by decide)]
      by_cases met : entry.2.key ∈ known.seen
      · rw [if_pos met, if_pos met]
      · rw [if_neg met, if_neg met, List.filter_cons]
        by_cases here : entry.1 = side
        · simp [here]
        · simp [here, Ne.symm here]

theorem venue_value_inj : Function.Injective Venue.value := by
  intro left right same
  cases left <;> cases right <;> first | rfl | exact absurd same (by decide)

theorem named_of_identity {row kept : CloseLegRow} (same : kept.identity = row.identity)
    (named : row.named = true) : kept.named = true := by
  rw [CloseLegRow.named, same]
  exact named

theorem identity_of_key {row kept : CloseLegRow} (same : kept.key = row.key) :
    kept.venue = row.venue ∧ kept.identity = row.identity := Prod.mk.inj same

section Records

variable [TextCase] {runtime : RuntimeState} {pending : PendingPassiveClose}
  {position : OpenPosition} {call : HandoverCall} {side : ActiveMakerLeg} {row : CloseLegRow}

theorem records_eq (extra : Option FlattenEvidence) (side : ActiveMakerLeg) :
    pendingCloseReconciliationRecords pending position extra side =
      ((KeepFirst.keepFirst (fun entry => entry.2.key) []
        ((handoverEntries pending position extra).filter (fun entry => entry.2.counts))).filter
          (fun entry => decide (entry.1 = side))).map Prod.snd := by
  rw [pendingCloseReconciliationRecords, HandoverRows.foldl_rows, List.nil_append]

theorem mem_records {extra : Option FlattenEvidence} {side : ActiveMakerLeg} {row : CloseLegRow} :
    row ∈ pendingCloseReconciliationRecords pending position extra side ↔
      (side, row) ∈ KeepFirst.keepFirst (fun entry => entry.2.key) []
        ((handoverEntries pending position extra).filter (fun entry => entry.2.counts)) := by
  rw [records_eq, List.mem_map]
  constructor
  · rintro ⟨⟨leg, kept⟩, member, rfl⟩
    rw [List.mem_filter, decide_eq_true_iff] at member
    obtain ⟨among, rfl⟩ := member
    exact among
  · intro member
    exact ⟨(side, row), List.mem_filter.mpr ⟨member, decide_eq_true rfl⟩, rfl⟩

omit [TextCase] in
theorem duplicates_iff {existing : CloseLegRow} :
    row.duplicates existing = true ↔ existing.key = row.key := by
  simp only [CloseLegRow.duplicates, CloseLegRow.key, CloseLegRow.identity, Bool.and_eq_true,
    Bool.or_eq_true, decide_eq_true_eq, Prod.mk.injEq, and_assoc]
  apply and_congr_right
  intro _
  apply and_congr_right
  intro same
  rw [same]
  by_cases given : row.orderId = "" <;> simp [given]

omit [TextCase] in
/-- The executor's legs are kept where no row of the side has their key. -/
theorem absorbExecutorLegs_rows (rows : List CloseLegRow) (legs : List CloseLegRecord) :
    legs.foldl absorbExecutorLeg rows = rows ++ KeepFirst.keepFirst CloseLegRow.key
      (rows.map CloseLegRow.key) ((legs.map CloseLegRecord.row).filter CloseLegRow.named) := by
  induction legs generalizing rows with
  | nil => simp [KeepFirst.keepFirst]
  | cons leg rest hyp =>
    rw [List.foldl_cons, hyp, List.map_cons, List.filter_cons, absorbExecutorLeg]
    have unnamed : (leg.orderId = "" ∧ leg.clientOrderId = "") ↔ leg.row.named = false := by
      rw [CloseLegRow.named, decide_eq_false_iff_not, not_not, CloseLegRow.identity, Prod.mk.injEq]
      by_cases given : leg.orderId = "" <;> simp [CloseLegRecord.row, given]
    by_cases idle : leg.orderId = "" ∧ leg.clientOrderId = ""
    · rw [if_pos idle, unnamed.mp idle, if_neg Bool.false_ne_true]
    · have named : leg.row.named = true := by
        rw [← Bool.not_eq_false]
        exact fun no => idle (unnamed.mpr no)
      rw [if_neg idle, if_pos named, KeepFirst.keepFirst]
      have known : rows.any leg.row.duplicates = true ↔
          leg.row.key ∈ rows.map CloseLegRow.key := by
        rw [List.any_eq_true, List.mem_map]
        exact exists_congr (fun existing => and_congr_right fun _ => duplicates_iff)
      by_cases met : leg.row.key ∈ rows.map CloseLegRow.key
      · rw [if_pos (known.mpr met), if_pos met]
      · rw [if_neg (fun any => met (known.mp any)), if_neg met, List.map_append,
          List.append_assoc]
        rfl

omit [TextCase] in
/-- Rows and owned quantities after the closes of the executor. -/
theorem absorbExecutor_eq (positionId : String) (evidence : HandoverEvidence)
    (closes : List PendingClose) (side : ActiveMakerLeg) :
    (closes.foldl (HandoverEvidence.absorbExecutor positionId) evidence).rows side =
        ((closes.filter (fun close => decide (close.positionId = positionId))).flatMap
          (fun close => close.legsOn side)).foldl absorbExecutorLeg (evidence.rows side) ∧
      (closes.foldl (HandoverEvidence.absorbExecutor positionId) evidence).owned side =
        ((closes.filter (fun close => decide (close.positionId = positionId))).map
          (fun close => close.closedOn side)).foldl ExactFloat.max (evidence.owned side) := by
  induction closes generalizing evidence with
  | nil => exact ⟨rfl, rfl⟩
  | cons close rest hyp =>
    rw [List.foldl_cons, List.filter_cons, HandoverEvidence.absorbExecutor]
    by_cases same : close.positionId = positionId
    · rw [if_neg (not_not.mpr same), if_pos (decide_eq_true same), List.flatMap_cons,
        List.foldl_append, List.map_cons, List.foldl_cons]
      exact hyp _
    · rw [if_pos same, if_neg (by simpa using same)]
      exact hyp evidence

theorem evidence_rows (side : ActiveMakerLeg) :
    (handoverEvidence runtime pending position call).rows side =
      pendingCloseReconciliationRecords pending position call.extra side ++
        KeepFirst.keepFirst CloseLegRow.key
          ((pendingCloseReconciliationRecords pending position call.extra side).map
            CloseLegRow.key)
          (executorRows runtime pending.positionId side) := by
  rw [handoverEvidence, (absorbExecutor_eq _ _ _ side).1, absorbExecutorLegs_rows]
  rfl

/-- A named row of the first sources is kept on the side of the first row with its key. -/
theorem mem_records_iff (named : row.named = true) :
    row ∈ pendingCloseReconciliationRecords pending position call.extra side ↔
      (handoverEntries pending position call.extra).find? (fun entry =>
        decide (entry.2.key = row.key)) = some (side, row) := by
  rw [mem_records, KeepFirst.mem_keepFirst_iff, and_iff_right List.not_mem_nil, List.find?_filter]
  have counted (entry : ActiveMakerLeg × CloseLegRow) :
      (decide (entry.2.counts = true ∧ decide (entry.2.key = row.key) = true)) =
        decide (entry.2.key = row.key) := by
    apply decide_eq_decide.mpr
    rw [decide_eq_true_iff]
    refine and_iff_right_of_imp fun same => ?_
    exact Bool.or_eq_true_iff.mpr (.inl (named_of_identity (identity_of_key same).2 named))
  simp only [counted]

/-- The named rows of a side are the rows that reach it. -/
theorem mem_evidence_iff : row.named = true ∧
    row ∈ (handoverEvidence runtime pending position call).rows side ↔
      Reaches runtime pending position call side row := by
  apply and_congr_right
  intro named
  rw [evidence_rows, List.mem_append, mem_records_iff named, KeepFirst.mem_keepFirst_iff, firstRow]
  have known : row.key ∈ (pendingCloseReconciliationRecords pending position call.extra side).map
      CloseLegRow.key ↔ ∃ kept, (handoverEntries pending position call.extra).find? (fun entry =>
        decide (entry.2.key = row.key)) = some (side, kept) := by
    rw [List.mem_map]
    constructor
    · rintro ⟨kept, member, same⟩
      rw [mem_records_iff (named_of_identity (identity_of_key same).2 named), same] at member
      exact ⟨kept, member⟩
    · rintro ⟨kept, found⟩
      have same : kept.key = row.key := by simpa using List.find?_some found
      refine ⟨kept, ?_, same⟩
      rwa [mem_records_iff (named_of_identity (identity_of_key same).2 named), same]
  rw [known]
  cases found : (handoverEntries pending position call.extra).find? (fun entry =>
      decide (entry.2.key = row.key)) with
  | none => simp
  | some entry =>
    obtain ⟨leg, kept⟩ := entry
    by_cases here : leg = side
    · simp [here]
    · simp [here]

/-- Each key is on a side once. -/
theorem evidence_keys (side : ActiveMakerLeg) :
    (((handoverEvidence runtime pending position call).rows side).map CloseLegRow.key).Nodup := by
  rw [evidence_rows, List.map_append]
  apply List.Nodup.append
  · rw [records_eq, List.map_map]
    exact (KeepFirst.keepFirst_nodup [] _).sublist (List.filter_sublist.map _)
  · exact KeepFirst.keepFirst_nodup _ _
  · intro key first among
    obtain ⟨row, kept, rfl⟩ := List.mem_map.mp among
    exact KeepFirst.keepFirst_unseen kept first

/-- No order is twice among the rows of a side where every order comes from one venue. -/
theorem evidence_distinct_iff (side : ActiveMakerLeg) :
    ((((handoverEvidence runtime pending position call).rows side).filter
        CloseLegRow.named).map CloseLegRow.identity).Nodup ↔
      ∀ left right, Reaches runtime pending position call side left →
        Reaches runtime pending position call side right → left.identity = right.identity →
          left.venue = right.venue := by
  have keys : (((handoverEvidence runtime pending position call).rows side).map
      CloseLegRow.key).Nodup := evidence_keys side
  rw [List.nodup_map_iff_inj_on (keys.of_map.sublist List.filter_sublist)]
  constructor
  · intro alone left right reached again same
    obtain ⟨named, among⟩ := mem_evidence_iff.mpr reached
    obtain ⟨other, present⟩ := mem_evidence_iff.mpr again
    rw [alone left (List.mem_filter.mpr ⟨among, named⟩) right
      (List.mem_filter.mpr ⟨present, other⟩) same]
  · intro venues left among right present same
    obtain ⟨among, named⟩ := List.mem_filter.mp among
    obtain ⟨present, other⟩ := List.mem_filter.mp present
    have venue := venues left right (mem_evidence_iff.mp ⟨named, among⟩)
      (mem_evidence_iff.mp ⟨other, present⟩) same
    exact List.inj_on_of_nodup_map keys among present (Prod.ext venue same)

end Records

/-! ## Where the orders of a close are kept -/

section Names

variable [TextCase] {runtime : RuntimeState} {pending : PendingPassiveClose}
  {position : OpenPosition} {call : HandoverCall} {side : ActiveMakerLeg}

/-- A named leg has a row among the entries. -/
theorem leg_entry (extra : Option FlattenEvidence) {side : ActiveMakerLeg}
    {leg : PersistedCloseExecutionLeg} (member : leg ∈ pending.legsOn side)
    (named : leg.identity ≠ ("", "")) :
    ∃ row : CloseLegRow, (side, row) ∈ handoverEntries pending position extra ∧
      row.identity = leg.identity := by
  unfold handoverEntries
  simp only [List.mem_append]
  cases known : leg.fill with
  | some fill =>
    have entry : ∃ row ∈ pending.fillRows side, row.identity = leg.identity := by
      obtain ⟨shown, persisted, orderId, clientOrderId⟩ : ∃ shown : OrderFill,
          persistedLegFill leg = some shown ∧ shown.orderId = fill.orderId ∧
            shown.clientOrderId = fill.clientOrderId := by
        rw [persistedLegFill, known, Option.map_some]
        split_ifs <;> exact ⟨_, rfl, rfl, rfl⟩
      refine ⟨_, List.mem_filterMap.mpr ⟨leg, member, congrArg (Option.map _) persisted⟩, ?_⟩
      rw [PersistedCloseExecutionLeg.identity, known]
      change orderIdentity shown.orderId
        (orText leg.clientOrderId (shown.clientOrderId.getD "")) = _
      rw [orderId, clientOrderId]
    obtain ⟨row, among, same⟩ := entry
    refine ⟨row, ?_, same⟩
    cases side with
    | long => exact .inl (.inl (.inl (.inl (.inl (List.mem_map_of_mem among)))))
    | short => exact .inl (.inl (.inl (.inl (.inr (List.mem_map_of_mem among)))))
  | none =>
    have intent : leg.identity = orderIdentity leg.orderId leg.clientOrderId := by
      rw [PersistedCloseExecutionLeg.identity, known]
    have entry : ∃ row ∈ pending.intentRows side (position.venueOn side),
        row.identity = leg.identity := by
      refine ⟨_, List.mem_map_of_mem (List.mem_filter.mpr ⟨member, ?_⟩), intent.symm⟩
      rw [intent] at named
      simp only [known, Option.isNone_none, Bool.true_and, Bool.or_eq_true, decide_eq_true_eq]
      by_contra both
      push Not at both
      apply named
      simp [orderIdentity, both.1, both.2]
    obtain ⟨row, among, same⟩ := entry
    refine ⟨row, ?_, same⟩
    cases side with
    | long => exact .inl (.inl (.inr (List.mem_map_of_mem among)))
    | short => exact .inl (.inr (List.mem_map_of_mem among))

/-- A counter has a row among the entries. -/
theorem state_entry (pending : PendingPassiveClose) (position : OpenPosition)
    (extra : Option FlattenEvidence) (side : ActiveMakerLeg) :
    ∃ row : CloseLegRow, (side, row) ∈ handoverEntries pending position extra ∧
      row.identity = orderIdentity (pending.fillStateOn side).orderId
        (pending.fillStateOn side).clientOrderId := by
  refine ⟨PendingPassiveClose.fillStateRow (pending.fillStateOn side) (position.venueOn side), ?_,
    rfl⟩
  unfold handoverEntries
  simp only [List.mem_append]
  refine .inl (.inl (.inl (.inr ?_)))
  rw [PendingPassiveClose.fillStateOn]
  by_cases maker : side = pending.phaseState.activeMakerLeg
  · rw [if_pos maker, maker]
    exact List.mem_cons_self
  · rw [if_neg maker]
    have hedge : side = pending.hedgeLeg := by
      rw [PendingPassiveClose.hedgeLeg]
      cases side <;> cases known : pending.phaseState.activeMakerLeg
      · exact absurd known.symm maker
      · rfl
      · rfl
      · exact absurd known.symm maker
    rw [← hedge]
    exact List.mem_cons_of_mem _ List.mem_cons_self

variable (position call) in
/-- Every order of a close has a row of its side, and a row with its key reaches some side. -/
theorem identity_reaches {identity : String × String}
    (member : identity ∈ closeIdentities runtime pending side) :
    ∃ own : CloseLegRow, own.identity = identity ∧
      ((side, own) ∈ handoverEntries pending position call.extra ∨
        own ∈ executorRows runtime pending.positionId side) ∧
      ∃ other row, Reaches runtime pending position call other row ∧ row.key = own.key := by
  obtain ⟨among, named⟩ := List.mem_filter.mp member
  have named : identity ≠ ("", "") := of_decide_eq_true named
  have isNamed {row : CloseLegRow} (same : row.identity = identity) : row.named = true := by
    rw [CloseLegRow.named, same]
    exact decide_eq_true named
  obtain ⟨own, same, listed⟩ : ∃ own : CloseLegRow, own.identity = identity ∧
      ((side, own) ∈ handoverEntries pending position call.extra ∨
        own ∈ executorRows runtime pending.positionId side) := by
    rcases List.mem_append.mp among with own | executor
    · rcases List.mem_append.mp own with leg | state
      · obtain ⟨stored, present, rfl⟩ := List.mem_map.mp leg
        obtain ⟨row, known, same⟩ : ∃ row : CloseLegRow,
            (side, row) ∈ handoverEntries pending position call.extra ∧
              row.identity = stored.identity := leg_entry call.extra present named
        exact ⟨row, same, .inl known⟩
      · obtain ⟨row, known, same⟩ := state_entry pending position call.extra side
        exact ⟨row, same.trans (List.mem_singleton.mp state).symm, .inl known⟩
    · obtain ⟨close, known, executed⟩ := List.mem_flatMap.mp executor
      obtain ⟨record, present, rfl⟩ := List.mem_map.mp executed
      refine ⟨record.row, rfl, .inr (List.mem_filter.mpr ⟨?_, isNamed rfl⟩)⟩
      exact List.mem_map_of_mem (List.mem_flatMap.mpr ⟨close, known, present⟩)
  refine ⟨own, same, listed, ?_⟩
  -- The first entry with the key decides; without one the executor's leg does.
  cases found : (handoverEntries pending position call.extra).find? (fun entry =>
      decide (entry.2.key = own.key)) with
  | some entry =>
    obtain ⟨other, row⟩ := entry
    have equal : row.key = own.key := by simpa using List.find?_some found
    refine ⟨other, row, ⟨isNamed ((identity_of_key equal).2.trans same), ?_⟩, equal⟩
    rw [firstRow, equal, found, Option.bind_some, if_pos rfl, Option.some_or]
  | none =>
    rcases listed with entry | executor
    · exact absurd (decide_eq_true rfl) (List.find?_eq_none.mp found _ entry)
    · have listed : ((executorRows runtime pending.positionId side).find? (fun row =>
          decide (row.key = own.key))).isSome = true :=
        List.find?_isSome.mpr ⟨own, executor, decide_eq_true rfl⟩
      obtain ⟨row, first⟩ := Option.isSome_iff_exists.mp listed
      have equal : row.key = own.key := by simpa using List.find?_some first
      refine ⟨side, row, ⟨isNamed ((identity_of_key equal).2.trans same), ?_⟩, equal⟩
      rw [firstRow, equal, found, Option.bind_none, Option.none_or, first]

/-- The usual case: two venues, and every fill and leg at the venue of its side. -/
structure VenuesApart (runtime : RuntimeState) (pending : PendingPassiveClose)
    (position : OpenPosition) : Prop where
  pair : position.longVenue ≠ position.shortVenue
  fills : ∀ side, ∀ row ∈ pending.fillRows side, row.venue = (position.venueOn side).value
  executor : ∀ close ∈ positionCloses runtime pending.positionId, ∀ side,
    ∀ leg ∈ close.legsOn side, leg.venue = (position.venueOn side).value

theorem flatten_venue {extra : FlattenEvidence} {entry : ActiveMakerLeg × CloseLegRow}
    (member : entry ∈ extra.rows position) :
    entry.2.venue = (position.venueOn entry.1).value := by
  rw [FlattenEvidence.rows] at member
  split at member
  · exact absurd member List.not_mem_nil
  · next venue known =>
    extract_lets clientIds orderIds row rows at member
    have same : ∀ item ∈ rows, item.venue = venue.value := by
      intro item among
      obtain ⟨index, -, rfl⟩ := List.mem_map.mp among
      rfl
    split_ifs at member with long short
    · obtain ⟨item, among, rfl⟩ := List.mem_map.mp member
      rw [same item among, long]
      rfl
    · obtain ⟨item, among, rfl⟩ := List.mem_map.mp member
      rw [same item among, short]
      rfl
    · exact absurd member List.not_mem_nil

/-- Every row is at the venue of its side. -/
theorem entry_venue (apart : VenuesApart runtime pending position)
    (extra : Option FlattenEvidence)
    {entry : ActiveMakerLeg × CloseLegRow}
    (member : entry ∈ handoverEntries pending position extra) :
    entry.2.venue = (position.venueOn entry.1).value := by
  have fill (side : ActiveMakerLeg)
      (among : entry ∈ (pending.fillRows side).map (fun row => (side, row))) :
      entry.2.venue = (position.venueOn entry.1).value := by
    obtain ⟨row, present, rfl⟩ := List.mem_map.mp among
    exact apart.fills side row present
  have intent (side : ActiveMakerLeg)
      (among : entry ∈ (pending.intentRows side (position.venueOn side)).map
        (fun row => (side, row))) :
      entry.2.venue = (position.venueOn entry.1).value := by
    obtain ⟨row, present, rfl⟩ := List.mem_map.mp among
    obtain ⟨leg, -, rfl⟩ := List.mem_map.mp present
    rfl
  unfold handoverEntries at member
  simp only [List.mem_append] at member
  rcases member with ((((long | short) | states) | long) | short) | flattened
  · exact fill .long long
  · exact fill .short short
  · rcases List.mem_pair.mp states with rfl | rfl <;> rfl
  · exact intent .long long
  · exact intent .short short
  · cases extra with
    | none => exact absurd flattened List.not_mem_nil
    | some extra => exact flatten_venue flattened

omit [TextCase] in
theorem executor_venue (apart : VenuesApart runtime pending position) {row : CloseLegRow}
    (member : row ∈ executorRows runtime pending.positionId side) :
    row.venue = (position.venueOn side).value := by
  obtain ⟨leg, among, rfl⟩ := List.mem_map.mp (List.mem_filter.mp member).1
  obtain ⟨close, known, present⟩ := List.mem_flatMap.mp among
  exact apart.executor close known side leg present

theorem reaches_venue (apart : VenuesApart runtime pending position) {row : CloseLegRow}
    (reached : Reaches runtime pending position call side row) :
    row.venue = (position.venueOn side).value := by
  have first := reached.2
  rw [firstRow, Option.or_eq_some_iff] at first
  rcases first with entry | ⟨-, executor⟩
  · obtain ⟨⟨leg, kept⟩, found, here⟩ := Option.bind_eq_some_iff.mp entry
    split_ifs at here with same
    obtain rfl := Option.some.inj here
    rw [← show leg = side from same]
    exact entry_venue apart call.extra (List.mem_of_find?_eq_some found)
  · exact executor_venue apart (List.mem_of_find?_eq_some executor)

/-- In the usual case every order reaches its side. -/
theorem brought_of_venues (apart : VenuesApart runtime pending position)
    {identity : String × String} (member : identity ∈ closeIdentities runtime pending side) :
    BroughtTo runtime pending position call side (identityName identity) := by
  obtain ⟨own, same, listed, other, row, reached, equal⟩ :=
    identity_reaches position call member
  have here : own.venue = (position.venueOn side).value :=
    listed.elim (entry_venue apart call.extra) (executor_venue apart)
  obtain ⟨venue, identities⟩ := identity_of_key equal
  have venues := venue_value_inj ((here.symm.trans venue.symm).trans (reaches_venue apart reached))
  have sides : side = other := by
    cases side <;> cases other
    · rfl
    · exact absurd venues apart.pair
    · exact absurd venues.symm apart.pair
    · rfl
  subst sides
  exact .inl ⟨row, reached, by rw [identities, same]⟩

end Names

/-! ## Owned quantities -/

theorem le_max {left right : ExactFloat} (leftNumber : left ≠ .notANumber)
    (rightNumber : right ≠ .notANumber) :
    left.le (left.max right) = true ∧ right.le (left.max right) = true ∧
      left.max right ≠ .notANumber := by
  cases left with
  | finite low =>
    cases right with
    | finite high => simp [ExactFloat.max_finite]
    | infinite negative => cases negative <;> simp [ExactFloat.max, ExactFloat.lt, ExactFloat.le]
    | notANumber => exact absurd rfl rightNumber
  | infinite negative =>
    cases right with
    | finite high => cases negative <;> simp [ExactFloat.max, ExactFloat.lt, ExactFloat.le]
    | infinite other =>
      cases negative <;> cases other <;> simp [ExactFloat.max, ExactFloat.lt, ExactFloat.le]
    | notANumber => exact absurd rfl rightNumber
  | notANumber => exact absurd rfl leftNumber

/-- The greatest of several numbers is at least each of them. -/
theorem le_foldl_max {values : List ExactFloat} {start : ExactFloat}
    (startNumber : start ≠ .notANumber) (numbers : ∀ value ∈ values, value ≠ .notANumber) :
    start.le (values.foldl ExactFloat.max start) = true ∧
      ∀ value ∈ values, value.le (values.foldl ExactFloat.max start) = true := by
  induction values generalizing start with
  | nil =>
    refine ⟨?_, fun value member => absurd member List.not_mem_nil⟩
    cases start with
    | finite low => exact decide_eq_true (le_refl low)
    | infinite negative => cases negative <;> rfl
    | notANumber => exact absurd rfl startNumber
  | cons first rest hyp =>
    obtain ⟨above, reaches, number⟩ := le_max startNumber (numbers first List.mem_cons_self)
    obtain ⟨grows, others⟩ := hyp number (fun value member =>
      numbers value (List.mem_cons_of_mem _ member))
    rw [List.foldl_cons]
    refine ⟨ExactFloat.le_trans above grows, fun value member => ?_⟩
    rcases List.mem_cons.mp member with rfl | later
    · exact ExactFloat.le_trans reaches grows
    · exact others value later

theorem number_of_le {low high : ExactFloat} (below : low.le high = true) : low ≠ .notANumber := by
  rintro rfl
  cases below

/-! ## The record in the queue -/

theorem append_ne_empty {left right : String} (filled : left ≠ "") : left ++ right ≠ "" := by
  intro empty
  have lists := congrArg String.toList empty
  rw [String.toList_append, String.toList_empty, List.append_eq_nil_iff] at lists
  exact filled (String.toList_eq_nil_iff.mp lists.1)

theorem truthy_text_ne_empty {value : DynValue} (truthy : value.truthy = true) :
    value.text ≠ "" := by
  cases value with
  | null => cases truthy
  | bool flag =>
    cases flag
    · cases truthy
    · decide
  | int number =>
    change toString number ≠ ""
    cases number with
    | ofNat magnitude => exact Nat.repr_ne_empty
    | negSucc magnitude => exact append_ne_empty (by decide)
  | float printed =>
    intro empty
    have reads := printed.reads
    change printed.text = "" at empty
    rw [empty, show DecimalText.parse "" = none by decide +kernel] at reads
    cases reads
  | str text => exact of_decide_eq_true truthy
  | list items => exact append_ne_empty (append_ne_empty (by decide))
  | dict entries => exact append_ne_empty (append_ne_empty (by decide))
  | obj attributes =>
    change "<object>" ≠ ""
    decide

/-- A mapping is looked up under the name of its durable identity. -/
theorem identityText_eq {leg : DynValue} (mapping : leg.isMapping = true) :
    identityText leg = (legIdentity leg).map identityName := by
  have text {key : String} (truthy : (leg.get key).truthy = true) :
      textOf (leg.get key) = (leg.get key).text ∧ (leg.get key).text ≠ "" := by
    rw [textOf, DynValue.orElse, if_pos truthy]
    exact ⟨rfl, truthy_text_ne_empty truthy⟩
  have empty {key : String} (falsy : (leg.get key).truthy = false) :
      textOf (leg.get key) = "" := by
    rw [textOf, DynValue.orElse, falsy]
    rfl
  cases ordered : (leg.get "order_id").truthy with
  | true =>
    obtain ⟨same, filled⟩ := text ordered
    have chosen : (leg.get "order_id").orElse (leg.get "client_order_id") = leg.get "order_id" :=
      if_pos ordered
    rw [identityText, mapping, chosen, ordered, Bool.and_self, if_pos rfl, legIdentity, same,
      if_neg (fun both => filled both.1), if_pos filled, Option.map_some, identityName, orText,
      if_neg filled]
  | false =>
    have chosen : (leg.get "order_id").orElse (leg.get "client_order_id") =
        leg.get "client_order_id" := by
      rw [DynValue.orElse, ordered, if_neg Bool.false_ne_true]
    rw [identityText, mapping, chosen, Bool.true_and, legIdentity, empty ordered]
    cases named : (leg.get "client_order_id").truthy with
    | true =>
      obtain ⟨same, filled⟩ := text named
      rw [if_pos rfl, same, if_neg (fun both => filled both.2), if_neg (not_not.mpr rfl),
        Option.map_some, identityName, orText, if_pos rfl]
    | false => rw [if_neg Bool.false_ne_true, empty named, if_pos ⟨rfl, rfl⟩, Option.map_none]

theorem legIdentity_named (leg : DynValue) : legIdentity leg ≠ some ("", "") := by
  rw [legIdentity]
  split_ifs with unnamed ordered
  · exact Option.some_ne_none _ ∘ Eq.symm
  · intro same
    exact ordered (Prod.mk.inj (Option.some.inj same)).1
  · intro same
    obtain ⟨orderId, clientOrderId⟩ := Prod.mk.inj (Option.some.inj same)
    exact unnamed ⟨orderId, clientOrderId⟩

theorem mapping_of_text {leg : DynValue} {name : String} (text : identityText leg = some name) :
    leg.isMapping = true := by
  rw [identityText] at text
  split_ifs at text with both
  exact (Bool.and_eq_true_iff.mp both).1

namespace CloseLegRow

theorem legIdentity_toDyn (row : CloseLegRow) :
    legIdentity row.toDyn = if row.named then some row.identity else none := by
  have orderId : textOf (row.toDyn.get "order_id") = row.orderId :=
    textOf_str row.orderId
  have clientOrderId : textOf (row.toDyn.get "client_order_id") = row.clientOrderId :=
    textOf_str row.clientOrderId
  rw [legIdentity, orderId, clientOrderId, named, identity]
  by_cases given : row.orderId = ""
  · simp [given]
  · simp [given]

theorem identityText_toDyn (row : CloseLegRow) :
    identityText row.toDyn = if row.named then some (identityName row.identity) else none := by
  rw [identityText_eq rfl, legIdentity_toDyn]
  split_ifs <;> rfl

end CloseLegRow

namespace LiveFlatRecord

variable (record : LiveFlatRecord)

theorem get_legs (side : ActiveMakerLeg) :
    record.toDyn.get (side.label ++ "_legs") = .list (record.legs side) := by
  cases side <;> rfl

theorem owner : reconciliationOwner record.toDyn = (record.positionId, "final") := by
  rw [reconciliationOwner, Prod.mk.injEq]
  exact ⟨textOf_str record.positionId, rfl⟩

theorem legGroup_toDyn (side : ActiveMakerLeg) :
    legGroup record.toDyn (side.label ++ "_legs") = (record.legs side).filter isMapping := by
  rw [legGroup, get_legs]

/-- A stored record carries its named rows and the rows that it took over. -/
theorem carriedOn_iff {side : ActiveMakerLeg} {name : String} :
    CarriedOn record.toDyn side name ↔
      (∃ row ∈ record.rows side, row.named = true ∧ identityName row.identity = name) ∨
        ∃ leg ∈ record.prior side, identityText leg = some name := by
  have among : CarriedOn record.toDyn side name ↔
      ∃ leg ∈ record.legs side, identityText leg = some name := by
    rw [CarriedOn, legGroup_toDyn]
    refine exists_congr fun leg => ?_
    rw [List.mem_filter, and_assoc]
    exact and_congr_right fun _ => and_iff_right_of_imp mapping_of_text
  rw [among, legs]
  simp only [List.mem_append, List.mem_map, or_and_right, exists_or]
  apply or_congr_left
  constructor
  · rintro ⟨_, ⟨row, member, rfl⟩, text⟩
    rw [row.identityText_toDyn] at text
    split_ifs at text with named
    exact ⟨row, member, named, Option.some.inj text⟩
  · rintro ⟨row, member, named, rfl⟩
    exact ⟨row.toDyn, ⟨row, member, rfl⟩, by rw [row.identityText_toDyn, if_pos named]⟩

end LiveFlatRecord

/-! ## The queue after a hand-over -/

section Queue

variable {queue : List DynValue} {item record : DynValue}

theorem matchedOwner_spec {owner : DynValue} (matched : matchedOwner queue item = some owner) :
    owner ∈ queue ∧ reconciliationOwner owner = reconciliationOwner item := by
  rw [matchedOwner] at matched
  exact ⟨List.mem_of_find?_eq_some matched, by simpa using List.find?_some matched⟩

theorem place_unmatched (missing : matchedOwner queue item = none) :
    placeReconciliation item queue = queue ++ [item] := by
  induction queue with
  | nil => rfl
  | cons existing rest hyp =>
    rw [matchedOwner, List.find?_cons] at missing
    by_cases same : reconciliationOwner existing = reconciliationOwner item
    · rw [decide_eq_true same] at missing
      cases missing
    · rw [decide_eq_false same] at missing
      rw [placeReconciliation, if_neg same, hyp missing, List.cons_append]

theorem place_matched_length {owner : DynValue} (matched : matchedOwner queue item = some owner) :
    (placeReconciliation item queue).length = queue.length := by
  induction queue with
  | nil => cases matched
  | cons existing rest hyp =>
    rw [matchedOwner, List.find?_cons] at matched
    by_cases same : reconciliationOwner existing = reconciliationOwner item
    · rw [placeReconciliation, if_pos same, List.length_cons, List.length_cons]
    · rw [decide_eq_false same] at matched
      rw [placeReconciliation, if_neg same, List.length_cons, List.length_cons, hyp matched]

/-- A kept owner leaves the queue as it is. -/
theorem place_kept {owner : DynValue} (matched : matchedOwner queue item = some owner)
    (kept : keepsOwner item owner = true) : placeReconciliation item queue = queue := by
  induction queue with
  | nil => cases matched
  | cons existing rest hyp =>
    rw [matchedOwner, List.find?_cons] at matched
    by_cases same : reconciliationOwner existing = reconciliationOwner item
    · rw [decide_eq_true same] at matched
      obtain rfl := Option.some.inj matched
      rw [placeReconciliation, if_pos same, if_pos kept]
    · rw [decide_eq_false same] at matched
      rw [placeReconciliation, if_neg same, hyp matched]

/-- An item takes the place of the owner that it replaces. -/
theorem mem_place_replaced {owner : DynValue} (matched : matchedOwner queue item = some owner)
    (replaced : keepsOwner item owner = false) :
    record ∈ placeReconciliation item queue ↔ record = item ∨ record ∈ queue.eraseP
      (fun existing => decide (reconciliationOwner existing = reconciliationOwner item)) := by
  induction queue with
  | nil => cases matched
  | cons existing rest hyp =>
    rw [matchedOwner, List.find?_cons] at matched
    by_cases same : reconciliationOwner existing = reconciliationOwner item
    · rw [decide_eq_true same] at matched
      obtain rfl := Option.some.inj matched
      rw [placeReconciliation, if_pos same, if_neg (by rw [replaced]; exact Bool.false_ne_true),
        List.eraseP_cons_of_pos (by simpa using same), List.mem_cons]
    · rw [decide_eq_false same] at matched
      rw [placeReconciliation, if_neg same,
        List.eraseP_cons_of_neg (by simpa using same), List.mem_cons, List.mem_cons, hyp matched,
        or_left_comm]

/-- What an enqueued queue holds: the records that stay, and an item that is taken. -/
theorem mem_enqueue_iff :
    record ∈ enqueuePendingCloseReconciliation (.list queue) item ↔
      record ∈ stayingRecords queue item ∨ record = item ∧ isTaken queue item = true := by
  rw [enqueuePendingCloseReconciliation]
  unfold stayingRecords isTaken
  have short := set_length queue
  set stored := setPendingCloseReconciliations (.list queue)
  cases matched : matchedOwner stored item with
  | none =>
    have room : 1 ≤ maxPendingCloseReconciliations := by decide
    rw [place_unmatched matched, newest, List.length_append, List.length_singleton,
      List.drop_append_of_le_length (by omega), List.mem_append, List.mem_singleton]
    simp [matched]
  | some owner =>
    rw [newest_of_short ((place_matched_length matched).trans_le short)]
    cases kept : keepsOwner item owner with
    | true =>
      rw [place_kept matched kept]
      simp [matched, kept]
    | false =>
      rw [mem_place_replaced matched kept]
      simp [matched, kept, or_comm]

theorem isTaken_nil (item : DynValue) : isTaken [] item = true := by
  have empty : setPendingCloseReconciliations (.list []) = [] := rfl
  unfold isTaken
  rw [empty]
  rfl

theorem mem_of_stays (stays : record ∈ stayingRecords queue item) :
    record ∈ setPendingCloseReconciliations (.list queue) := by
  unfold stayingRecords at stays
  extract_lets stored at stays
  split at stays
  · exact List.mem_of_mem_drop stays
  · split_ifs at stays
    · exact stays
    · exact List.mem_of_mem_eraseP stays

/-- An enqueued record is stored, or the owner that it cannot replace stays. -/
theorem enqueue_item (queue : List DynValue) (item : DynValue) :
    item ∈ enqueuePendingCloseReconciliation (.list queue) item ∨
      ∃ owner ∈ enqueuePendingCloseReconciliation (.list queue) item,
        reconciliationOwner owner = reconciliationOwner item := by
  cases taken : isTaken queue item with
  | true => exact .inl (mem_enqueue_iff.mpr (.inr ⟨rfl, taken⟩))
  | false =>
    unfold isTaken at taken
    cases matched : matchedOwner (setPendingCloseReconciliations (.list queue)) item with
    | none =>
      rw [matched] at taken
      cases taken
    | some owner =>
      rw [matched] at taken
      obtain ⟨member, same⟩ := matchedOwner_spec matched
      have kept : keepsOwner item owner = true := by simpa using taken
      have stays : owner ∈ stayingRecords queue item := by
        unfold stayingRecords
        simpa only [matched, kept, if_true] using member
      exact .inr ⟨owner, mem_enqueue_iff.mpr (.inl stays), same⟩

theorem enqueue_length (queue item : DynValue) :
    (enqueuePendingCloseReconciliation queue item).length ≤ maxPendingCloseReconciliations := by
  rw [enqueuePendingCloseReconciliation]
  exact newest_length _

end Queue

section Handover

variable [TextCase] {runtime : RuntimeState} {pending : PendingPassiveClose}
  {position : OpenPosition} {call : HandoverCall} {side : ActiveMakerLeg}

omit [TextCase] in
theorem guard_holds {condition : Prop} [Decidable condition] {done : Unit}
    (passed : (guard condition : Option Unit) = some done) : condition := by
  by_contra fails
  rw [guard, if_neg fails] at passed
  cases passed

omit [TextCase] in
theorem ownedQuantity_finite {value : DynValue} {quantity : ExactFloat}
    (known : ownedQuantity value = some quantity) :
    ∃ exactly : ℚ, quantity = .finite exactly ∧ 0 ≤ exactly := by
  rw [ownedQuantity, Option.filter_eq_some_iff] at known
  obtain ⟨-, valid⟩ := known
  rw [Bool.and_eq_true] at valid
  obtain ⟨exactly, rfl⟩ := ExactFloat.finite_of_isFinite valid.1
  rw [ExactFloat.le_finite, decide_eq_true_iff] at valid
  exact ⟨exactly, rfl, valid.2⟩

omit [TextCase] in
theorem ownedCloseQuantities_finite {reconciliation : DynValue}
    {owned : ActiveMakerLeg → ExactFloat}
    (known : ownedCloseQuantities reconciliation = some owned) (side : ActiveMakerLeg) :
    ∃ exactly : ℚ, owned side = .finite exactly ∧ 0 ≤ exactly := by
  unfold ownedCloseQuantities at known
  extract_lets explicit isPartial source read at known
  have reads {label : String} {quantity : ExactFloat} (reading : read label = some quantity) :
      ∃ exactly : ℚ, quantity = .finite exactly ∧ 0 ≤ exactly := by
    have legacy {keys : List String} (found : legacyOwnedQuantity source keys = some quantity) :
        ∃ exactly : ℚ, quantity = .finite exactly ∧ 0 ≤ exactly := by
      rw [legacyOwnedQuantity, Option.bind_eq_some_iff] at found
      obtain ⟨key, -, value⟩ := found
      exact ownedQuantity_finite value
    simp only [read] at reading
    split_ifs at reading
    · exact ownedQuantity_finite reading
    · exact legacy reading
    · exact legacy reading
  split at known
  · next long short longRead shortRead =>
    obtain rfl := Option.some.inj known
    cases side
    · exact reads longRead
    · exact reads shortRead
  · cases known

theorem durableRecords_mapping {records : List DynValue} {venue : Venue} {leg : DynValue}
    (member : leg ∈ durableRecords records venue) : leg.isMapping = true := by
  have all : ∀ leg ∈ durableRecords records venue, leg.isMapping = true := by
    unfold durableRecords
    refine List.foldlRecOn
      (motive := fun retained : List DynValue => ∀ leg ∈ retained, leg.isMapping = true) _ _
      (fun leg among => absurd among List.not_mem_nil) ?_
    intro retained mapping record among
    have durable := (List.mem_filter.mp among).2
    rw [Bool.and_eq_true, Bool.and_eq_true] at durable
    split
    · exact mapping
    · split_ifs
      · exact mapping
      · intro leg among
        rcases List.mem_append.mp among with old | new
        · exact mapping leg old
        · rw [List.mem_singleton.mp new]
          exact durable.1.1
  exact all leg member

/-- What an absorbed record is: a partial one with finite quantities beside finite ones, whose
legs are mappings. -/
structure Absorbs (evidence : HandoverEvidence) (absorbed : AbsorbedPartial) : Prop where
  kind : ((absorbed.task.get "kind").orElse (.str "final")).text = "partial"
  finite : ∀ side, (evidence.owned side).isFinite = true
  owned : ∀ side, ∃ quantity : ℚ, absorbed.owned side = .finite quantity ∧ 0 ≤ quantity
  prior : ∀ side, ∀ leg ∈ absorbed.prior side, leg.isMapping = true

theorem absorbable_spec {positionId : String} {closedAtMs : Int} {evidence : HandoverEvidence}
    {missing : List String} {existing : DynValue} {absorbed : AbsorbedPartial}
    (absorbs : absorbablePartial positionId position closedAtMs evidence missing existing =
      some absorbed) : Absorbs evidence absorbed := by
  unfold absorbablePartial at absorbs
  simp only [Option.bind_eq_bind, Option.bind_eq_some_iff] at absorbs
  obtain ⟨_, owner, closed, -, _, -, _, finite, owned, known, _, -, absorbs⟩ := absorbs
  obtain rfl := Option.some.inj absorbs
  have owner := guard_holds owner
  have finite := guard_holds finite
  simp only [Bool.and_eq_true, decide_eq_true_eq] at owner
  simp only [List.all_cons, List.all_nil, Bool.and_eq_true, Bool.and_true] at finite
  refine ⟨owner.1.2.1.1.2, fun side => ?_, ownedCloseQuantities_finite known, ?_⟩
  · cases side
    · exact finite.1.1
    · exact finite.2.1
  · intro side leg member
    dsimp only at member
    split at member
    · exact durableRecords_mapping member
    · exact absurd member List.not_mem_nil

theorem absorbedPartial_spec {absorbed : AbsorbedPartial}
    (absorbs : absorbedPartial runtime pending position call = some absorbed) :
    Absorbs (handoverEvidence runtime pending position call) absorbed := by
  rw [absorbedPartial] at absorbs
  split_ifs at absorbs
  obtain ⟨existing, -, found⟩ := List.exists_of_findSome?_eq_some absorbs
  exact absorbable_spec found

omit [TextCase] in
theorem mergePrior_eq (current : List CloseLegRow) (prior : List DynValue) :
    mergePrior current prior =
      KeepFirst.keepFirst (fun record => (legIdentity record).getD ("", ""))
        ((current.filter CloseLegRow.named).map CloseLegRow.identity) prior := by
  rw [← List.nil_append (KeepFirst.keepFirst _ _ _), ← KeepFirst.foldl_keepFirst, mergePrior]
  congr 2
  funext known record
  by_cases met : (legIdentity record).getD ("", "") ∈ known.2
  · rw [if_pos met, if_pos met]
  · rw [if_neg met, if_neg met]

omit [TextCase] in
/-- Merged records have new names, each once. -/
theorem mergePrior_distinct (current : List CloseLegRow) (prior : List DynValue) :
    ((mergePrior current prior).filterMap legIdentity).Nodup ∧
      List.Disjoint ((current.filter CloseLegRow.named).map CloseLegRow.identity)
        ((mergePrior current prior).filterMap legIdentity) := by
  rw [mergePrior_eq]
  set merged := KeepFirst.keepFirst (fun record => (legIdentity record).getD ("", ""))
    ((current.filter CloseLegRow.named).map CloseLegRow.identity) prior with mergedIs
  constructor
  · have keys : (merged.map (fun record => (legIdentity record).getD ("", ""))).Nodup :=
      KeepFirst.keepFirst_nodup _ _
    have known : merged.filterMap legIdentity =
        (merged.filter (fun record => (legIdentity record).isSome)).map
          (fun record => (legIdentity record).getD ("", "")) := by
      rw [← List.filterMap_eq_filter, List.map_filterMap]
      apply List.filterMap_congr
      intro record _
      cases identity : legIdentity record <;> simp [Option.guard, identity]
    rw [known]
    exact keys.sublist (List.filter_sublist.map _)
  · intro identity own among
    obtain ⟨record, member, known⟩ := List.mem_filterMap.mp among
    have unseen := KeepFirst.keepFirst_unseen member
    rw [known, Option.getD_some] at unseen
    exact unseen own

/-- A registration names each order of a side once exactly where it comes from one venue. -/
theorem liveFlatRecord_distinct_iff (side : ActiveMakerLeg) :
    (((liveFlatRecord runtime pending position call).legs side).filterMap legIdentity).Nodup ↔
      ∀ left right, Reaches runtime pending position call side left →
        Reaches runtime pending position call side right → left.identity = right.identity →
          left.venue = right.venue := by
  rw [← evidence_distinct_iff]
  set record := liveFlatRecord runtime pending position call with recordIs
  have own : ((record.rows side).map CloseLegRow.toDyn).filterMap legIdentity =
      ((record.rows side).filter CloseLegRow.named).map CloseLegRow.identity := by
    rw [List.filterMap_map, ← List.filterMap_eq_filter, List.map_filterMap]
    apply List.filterMap_congr
    intro row _
    rw [Function.comp_apply, CloseLegRow.legIdentity_toDyn]
    cases named : row.named <;> simp [Option.guard, named]
  rw [LiveFlatRecord.legs, List.filterMap_append, own, recordIs, liveFlatRecord]
  dsimp only
  cases absorbedPartial runtime pending position call with
  | none => rw [List.filterMap_nil, List.append_nil]
  | some taken =>
    obtain ⟨once, apart⟩ := mergePrior_distinct (record.rows side) (taken.prior side)
    exact ⟨fun distinct => distinct.of_append_left, fun distinct => distinct.append once apart⟩

/-- The record carries an order on a side exactly where the order is brought there. -/
theorem carriedOn_brought {name : String} :
    CarriedOn (liveFlatRecord runtime pending position call).toDyn side name ↔
      BroughtTo runtime pending position call side name := by
  rw [LiveFlatRecord.carriedOn_iff, BroughtTo]
  have rows : (∃ row ∈ (liveFlatRecord runtime pending position call).rows side,
      row.named = true ∧ identityName row.identity = name) ↔
      ∃ row, Reaches runtime pending position call side row ∧
        identityName row.identity = name := by
    refine exists_congr fun row => ?_
    rw [← mem_evidence_iff, and_left_comm, and_assoc]
    rfl
  rw [rows, liveFlatRecord]
  dsimp only
  cases absorbs : absorbedPartial runtime pending position call with
  | none => simp
  | some taken =>
    dsimp only
    rw [mergePrior_eq]
    constructor
    · rintro (own | ⟨leg, merged, text⟩)
      · exact .inl own
      · exact .inr ⟨taken, rfl, leg, KeepFirst.mem_of_mem_keepFirst merged, text⟩
    · rintro (own | ⟨_, same, leg, prior, text⟩)
      · exact .inl own
      · obtain rfl := Option.some.inj same
        have mapping := (absorbedPartial_spec absorbs).prior side
        rw [identityText_eq (mapping leg prior)] at text
        obtain ⟨identity, known, rfl⟩ := Option.map_eq_some_iff.mp text
        have covers := @KeepFirst.keepFirst_covers _ _ _
          (fun record => (legIdentity record).getD ("", ""))
          ((((handoverEvidence runtime pending position call).rows side).filter
            CloseLegRow.named).map CloseLegRow.identity) _ _ prior
        rw [known, Option.getD_some] at covers
        rcases covers with met | ⟨kept, merged, equal⟩
        · obtain ⟨row, among, same⟩ := List.mem_map.mp met
          obtain ⟨present, named⟩ := List.mem_filter.mp among
          exact .inl ⟨row, mem_evidence_iff.mp ⟨named, present⟩, by rw [same]⟩
        · refine .inr ⟨kept, merged, ?_⟩
          rw [identityText_eq (mapping kept (KeepFirst.mem_of_mem_keepFirst merged))]
          cases found : legIdentity kept with
          | some other =>
            rw [found, Option.getD_some] at equal
            rw [equal, Option.map_some]
          | none =>
            rw [found, Option.getD_none] at equal
            exact absurd (known.trans (congrArg some equal.symm)) (legIdentity_named leg)

/-- The owned quantities cover the position and the executor exactly where all are numbers. -/
theorem liveFlatRecord_owned_iff (side : ActiveMakerLeg) :
    ((position.heldOn side).le ((liveFlatRecord runtime pending position call).owned side) = true ∧
      ∀ close ∈ positionCloses runtime pending.positionId,
        (close.closedOn side).le ((liveFlatRecord runtime pending position call).owned side) =
          true) ↔
    position.heldOn side ≠ .notANumber ∧
      ∀ close ∈ positionCloses runtime pending.positionId, close.closedOn side ≠ .notANumber := by
  constructor
  · rintro ⟨held, closed⟩
    exact ⟨number_of_le held, fun close member => number_of_le (closed close member)⟩
  rintro ⟨held, closed⟩
  have zero : ExactFloat.finite 0 ≠ .notANumber := fun same => by cases same
  obtain ⟨start, -, number⟩ := le_max held zero
  have owned : (handoverEvidence runtime pending position call).owned side =
      ((positionCloses runtime pending.positionId).map (fun close =>
        close.closedOn side)).foldl ExactFloat.max ((position.heldOn side).max (.finite 0)) := by
    rw [handoverEvidence, (absorbExecutor_eq _ _ _ side).2]
    cases side <;> rfl
  have numbers : ∀ value ∈ (positionCloses runtime pending.positionId).map (fun close =>
      close.closedOn side), value ≠ .notANumber := by simpa using closed
  obtain ⟨above, others⟩ := le_foldl_max number numbers
  rw [← owned] at above others
  have raised : ((handoverEvidence runtime pending position call).owned side).le
      ((liveFlatRecord runtime pending position call).owned side) = true := by
    rw [liveFlatRecord]
    dsimp only
    cases absorbs : absorbedPartial runtime pending position call with
    | none => exact ExactFloat.le_self_of_le above
    | some taken =>
      obtain ⟨exactly, known⟩ :=
        ExactFloat.finite_of_isFinite ((absorbedPartial_spec absorbs).finite side)
      obtain ⟨extra, more, nonneg⟩ := (absorbedPartial_spec absorbs).owned side
      simp only [known, more, ExactFloat.add_finite, ExactFloat.le_finite]
      exact decide_eq_true (le_add_of_nonneg_right nonneg)
  exact ⟨ExactFloat.le_trans (ExactFloat.le_trans start above) raised, fun close member =>
    ExactFloat.le_trans (others _ (List.mem_map_of_mem member)) raised⟩

/-- What a registration leaves in the queue. -/
theorem mem_handOver_iff {record : DynValue} :
    record ∈ handOver runtime.pendingCloseReconciliations
        (liveFlatRecord runtime pending position call)
        ((absorbedPartial runtime pending position call).map AbsorbedPartial.task) ↔
      record ∈ leftRecords runtime pending position call ∨
        record = (liveFlatRecord runtime pending position call).toDyn ∧
          isTaken runtime.pendingCloseReconciliations
            (liveFlatRecord runtime pending position call).toDyn = true := by
  set item := (liveFlatRecord runtime pending position call).toDyn with itemIs
  unfold handOver leftRecords
  rw [← itemIs]
  cases absorbs : absorbedPartial runtime pending position call with
  | none => exact mem_enqueue_iff
  | some taken =>
    have mapping : ∀ stored ∈ enqueuePendingCloseReconciliation
        (.list runtime.pendingCloseReconciliations) item, stored.isMapping = true := by
      intro stored member
      rcases mem_enqueue_iff.mp member with stays | ⟨rfl, -⟩
      · exact set_mapping (mem_of_stays stays)
      · rfl
    change record ∈ removePendingCloseReconciliation _ taken.task ↔ _
    rw [removePendingCloseReconciliation, set_stored (enqueue_length _ _) mapping,
      List.mem_filter, mem_enqueue_iff, List.mem_filter, decide_eq_true_iff, or_and_right]
    apply or_congr_right
    apply and_iff_left_of_imp
    rintro ⟨rfl, -⟩ equal
    have kinds : "final" = "partial" :=
      (congrArg (fun key => key.2.1) equal).trans (absorbedPartial_spec absorbs).kind
    exact absurd kinds (by decide)

theorem registration_carries_iff {name : String} :
    StoredOn (handOver runtime.pendingCloseReconciliations
        (liveFlatRecord runtime pending position call)
        ((absorbedPartial runtime pending position call).map AbsorbedPartial.task))
        pending.positionId side name ↔
      StoredOn (leftRecords runtime pending position call) pending.positionId side name ∨
        isTaken runtime.pendingCloseReconciliations
            (liveFlatRecord runtime pending position call).toDyn = true ∧
          BroughtTo runtime pending position call side name := by
  simp only [StoredOn, mem_handOver_iff, or_and_right, exists_or]
  apply or_congr_right
  rw [← carriedOn_brought]
  constructor
  · rintro ⟨_, ⟨rfl, taken⟩, -, carried⟩
    exact ⟨taken, carried⟩
  · rintro ⟨taken, carried⟩
    exact ⟨_, ⟨rfl, taken⟩, textOf_str _, carried⟩

omit [TextCase] in
theorem iteratedLegs_group {existing leg : DynValue} {field : String} {legs : List DynValue}
    (mapping : leg.isMapping = true) (iterated : iteratedLegs existing field = some legs)
    (among : leg ∈ legs) : leg ∈ legGroup existing field := by
  unfold iteratedLegs DynValue.get at iterated
  unfold legGroup DynValue.get
  cases found : existing.member? field with
  | none =>
    rw [found, Option.getD_none] at iterated
    obtain rfl := Option.some.inj iterated
    exact absurd among List.not_mem_nil
  | some value =>
    rw [found, Option.getD_some] at iterated
    rw [Option.getD_some]
    cases value with
    | list items =>
      obtain rfl := Option.some.inj iterated
      exact List.mem_filter.mpr ⟨among, mapping⟩
    | str _ | dict _ =>
      obtain rfl := Option.some.inj iterated
      exact absurd among List.not_mem_nil
    | null | bool _ | int _ | float _ | obj _ => cases iterated

omit [TextCase] in
/-- A record with the same orders, if there is one, carries each order of the close on some leg. -/
theorem alreadyRegistered_carries {queue : List DynValue} {orderKey : List String}
    {record : LiveFlatRecord} (found : alreadyRegistered record orderKey queue = some true)
    {name : String} (listed : name ∈ orderKey) :
    ∃ other, StoredOn queue record.positionId other name := by
  induction queue with
  | nil => cases found
  | cons existing rest hyp =>
    have later (found : alreadyRegistered record orderKey rest = some true) :
        ∃ other, StoredOn (existing :: rest) record.positionId other name := by
      obtain ⟨other, stored, among, same⟩ := hyp found
      exact ⟨other, stored, List.mem_cons_of_mem _ among, same⟩
    rw [alreadyRegistered] at found
    split_ifs at found with raw
    · exact later found
    · split at found
      · cases found
      · next own reads =>
        split_ifs at found with covers
        · simp only [Bool.and_eq_true, decide_eq_true_eq] at covers
          obtain ⟨⟨⟨owner, rfl⟩, -⟩, -⟩ := covers
          have named : textOf (existing.get "position_id") = record.positionId := by
            unfold isText at owner
            split at owner
            · next text known =>
              rw [known, textOf_str]
              exact of_decide_eq_true owner
            · cases owner
          rw [existingKey] at reads
          simp only [Option.bind_eq_bind, Option.bind_eq_some_iff] at reads
          obtain ⟨long, longIs, short, shortIs, sorted⟩ := reads
          obtain rfl := Option.some.inj sorted
          rw [sortedIdentities, (List.perm_insertionSort _ _).mem_iff, List.mem_filterMap] at listed
          obtain ⟨leg, among, text⟩ := listed
          have mapping := mapping_of_text text
          rcases List.mem_append.mp among with inLong | inShort
          · exact ⟨.long, existing, List.mem_cons_self, named, leg,
              iteratedLegs_group mapping longIs inLong, text⟩
          · exact ⟨.short, existing, List.mem_cons_self, named, leg,
              iteratedLegs_group mapping shortIs inShort, text⟩
        · exact later found

/-- A registered close has each of its orders in the queue, on one leg or the other. -/
theorem registered_stored (registered : IsRegistered runtime pending position call)
    {identity : String × String} (member : identity ∈ closeIdentities runtime pending side) :
    ∃ other, StoredOn runtime.pendingCloseReconciliations pending.positionId other
      (identityName identity) := by
  apply alreadyRegistered_carries registered
  obtain ⟨own, rfl, -, other, row, reached, equal⟩ :=
    identity_reaches position call member
  obtain ⟨named, present⟩ := mem_evidence_iff.mpr reached
  rw [sortedIdentities, (List.perm_insertionSort _ _).mem_iff, List.mem_filterMap]
  refine ⟨row.toDyn, ?_, ?_⟩
  · have among : row.toDyn ∈ (liveFlatRecord runtime pending position call).legs other :=
      List.mem_append_left _ (List.mem_map_of_mem present)
    cases other with
    | long => exact List.mem_append_left _ among
    | short => exact List.mem_append_right _ among
  · rw [row.identityText_toDyn, if_pos named, (identity_of_key equal).2]

end Handover

section Example

local instance handoverCase : TextCase := .ascii

/-- A pair of one unit that was closed. -/
def closedPair : OpenPosition where
  positionId := "p1"
  symbol := "BTCUSDT"
  longVenue := .binance
  shortVenue := .bybit
  longQuantity := .finite 1
  shortQuantity := .finite 1
  matchedQuantity := .finite 1
  longEntryPrice := .finite 10
  shortEntryPrice := .finite 10
  openedAtMs := 0

def closedRuntime : RuntimeState where
  engine := {}

/-- A fill of the maker's order or of the hedge. -/
def filledLeg (venue : Venue) (orderId : String) (quantity : ℚ) : PersistedCloseExecutionLeg where
  fill := some
    { venue := venue, symbol := "BTCUSDT", side := .sell, quantity := .finite quantity
      price := .finite 10, orderId := orderId }

/-- A close whose maker order filled by the given quantities. -/
def closedBy (quantities : List ℚ) : PendingPassiveClose where
  positionId := "p1"
  reason := "exit"
  targetQuantity := .finite 1
  longLegs := quantities.map (filledLeg .binance "m1")
  shortLegs := [filledLeg .bybit "h1" 1]

def flatCall : HandoverCall where
  source := "live_flat"
  nowMs := 5

/-- The plan of a hand-over of the close. -/
def plannedBy (quantities : List ℚ) : HandoverPlan :=
  (planHandover closedRuntime (closedBy quantities) closedPair flatCall).getD .notLive

theorem closedBy_apart : VenuesApart closedRuntime (closedBy [1]) closedPair where
  pair := by decide
  fills := by intro side; cases side <;> decide +kernel
  executor := fun close member => absurd member List.not_mem_nil

theorem closedBy_fresh : ¬ IsRegistered closedRuntime (closedBy [1]) closedPair flatCall := by
  intro registered
  cases show some false = some true from registered

theorem closedBy_sound : HandoverSound closedRuntime (closedBy [1]) closedPair flatCall where
  sides := fun registered => absurd registered closedBy_fresh
  registration := fun _ => {
    reached := by
      intro side identity member
      exact .inr ⟨isTaken_nil _, brought_of_venues closedBy_apart member⟩
    venues := fun side left right first again _ =>
      (reaches_venue closedBy_apart first).trans (reaches_venue closedBy_apart again).symm
    whole := by
      intro side row member named
      cases side <;> obtain rfl := List.mem_singleton.mp member <;>
        exact ⟨_, ⟨named, rfl⟩, rfl, by decide +kernel⟩
    numbers := by
      intro side
      refine ⟨?_, fun close member => absurd member List.not_mem_nil⟩
      cases side <;> exact fun same => by cases same }

/-- Nothing is queued, so the close registers its record. -/
theorem plannedBy_registers (quantities : List ℚ) :
    plannedBy quantities =
      .register (liveFlatRecord closedRuntime (closedBy quantities) closedPair flatCall) none := by
  have absorbs : absorbedPartial closedRuntime (closedBy quantities) closedPair flatCall = none := by
    rw [absorbedPartial]
    split_ifs <;> rfl
  change HandoverPlan.register _ ((absorbedPartial _ _ _ _).map AbsorbedPartial.task) = _
  rw [absorbs]
  rfl

end Example

end LightFee.Engine
