import LightFee.Engine.RecoveryEvidence

/-!
# The queue of close reconciliations

An owner of the queue is a position and a kind. A new record joins the queue at the
end, replaces its owner when it brings stronger evidence, or is dropped. Evidence is
counted by leg: the records of fills that carry an order identity.
-/

namespace LightFee.Engine

open DynValue

def maxPendingCloseReconciliations : Nat := 256

/-- `value == text`. -/
def isText (value : DynValue) (text : String) : Bool :=
  match value with
  | .str other => other = text
  | _ => false

/-- A close debt that is terminal accounting-only work. -/
def isTerminalAutomaticHistoryEvidenceDebt (pending : DynValue) : Bool :=
  pending.isMapping && isText (pending.get "reconciliation_status") "evidence_debt" &&
    isText (pending.get "automatic_history_terminal_status") "irrecoverable_audit_debt"

/-! ## Identities -/

/-- The fill records of one leg. -/
def legGroup (item : DynValue) (field : String) : List DynValue :=
  match item.get field with
  | .list legs => legs.filter isMapping
  | _ => []

/-- An order id, or a client order id without one. -/
def legIdentity (leg : DynValue) : Option (String × String) :=
  let orderId := textOf (leg.get "order_id")
  let clientOrderId := textOf (leg.get "client_order_id")
  if orderId = "" ∧ clientOrderId = "" then none
  else some (orderId, if orderId ≠ "" then "" else clientOrderId)

/-- The durable order identities that a record carries. -/
def reconciliationIdentityKeys (item : DynValue) : List (String × String) :=
  if item.isMapping then
    (legGroup item "long_legs" ++ legGroup item "short_legs").filterMap legIdentity
  else []

def legCoverage (item : DynValue) (field : String) : Nat :=
  ((legGroup item field).filter (fun leg =>
    ((leg.get "order_id").orElse (leg.get "client_order_id")).truthy)).length

/-- Identities counted for the long and the short leg. -/
def reconciliationIdentityCoverage (item : DynValue) : Nat × Nat :=
  if item.isMapping then (legCoverage item "long_legs", legCoverage item "short_legs") else (0, 0)

/-- Routing facts of the record's snapshot. -/
def reconciliationSnapshotEvidence (item : DynValue) : Nat :=
  let snapshot := item.get "position_snapshot"
  if item.isMapping && snapshot.isMapping then
    (["position_id", "symbol", "long_venue", "short_venue"].filter (fun field =>
      (snapshot.get field).truthy)).length
  else 0

/-! ## The stored queue -/

/-- `type(value).__name__`. -/
def typeName : DynValue → String
  | .null => "NoneType"
  | .bool _ => "bool"
  | .int _ => "int"
  | .float _ => "float"
  | .str _ => "str"
  | .list _ => "list"
  | .dict _ => "dict"
  | .obj _ => "object"

def invalidPendingCloseReconciliation (raw : DynValue) (reason : String) : DynValue :=
  .dict [("invalid_pending_close_reconciliation", .bool true), ("reason", .str reason),
    ("raw_type", .str (typeName raw)), ("raw_repr", .str (String.ofList (raw.repr.toList.take 240)))]

def looksLikePendingCloseReconciliation (raw : DynValue) : Bool :=
  ["position_id", "symbol", "kind", "closed_at_ms", "position_snapshot", "long_venue",
    "short_venue", "long_legs", "short_legs"].any raw.hasKey

def normalizeItem (item : DynValue) : DynValue :=
  if item.isMapping then item else invalidPendingCloseReconciliation item "invalid_item"

/-- The records of any stored form of the queue. -/
def normalizePendingCloseReconciliations (raw : DynValue) : List DynValue :=
  match raw with
  | .null => []
  | .list items => items.map normalizeItem
  | .dict entries =>
    if looksLikePendingCloseReconciliation raw then [raw]
    else (entries.map Prod.snd).map normalizeItem
  | _ => [invalidPendingCloseReconciliation raw "invalid_container"]

/-- The newest records, up to the limit. -/
def newest (queue : List DynValue) : List DynValue :=
  queue.drop (queue.length - maxPendingCloseReconciliations)

def setPendingCloseReconciliations (raw : DynValue) : List DynValue :=
  newest (normalizePendingCloseReconciliations raw)

/-! ## Stored queues -/

section Stored

variable {queue : List DynValue}

theorem newest_length (queue : List DynValue) :
    (newest queue).length ≤ maxPendingCloseReconciliations := by
  rw [newest, List.length_drop]
  omega

/-- A short queue is not cut. -/
theorem newest_of_short (short : queue.length ≤ maxPendingCloseReconciliations) :
    newest queue = queue := by
  rw [newest, Nat.sub_eq_zero_of_le short, List.drop_zero]

theorem mem_newest {record : DynValue} (member : record ∈ newest queue) : record ∈ queue :=
  List.mem_of_mem_drop member

theorem normalize_mapping {record : DynValue}
    (member : record ∈ normalizePendingCloseReconciliations (.list queue)) :
    record.isMapping = true := by
  obtain ⟨raw, -, rfl⟩ := List.mem_map.mp member
  rw [normalizeItem]
  split
  · next mapping => exact mapping
  · rfl

theorem set_length (queue : List DynValue) :
    (setPendingCloseReconciliations (.list queue)).length ≤ maxPendingCloseReconciliations :=
  newest_length _

theorem set_mapping {record : DynValue}
    (member : record ∈ setPendingCloseReconciliations (.list queue)) : record.isMapping = true := by
  rw [setPendingCloseReconciliations] at member
  exact normalize_mapping (mem_newest member)

/-- A stored queue reads back as it is. -/
theorem set_stored (short : queue.length ≤ maxPendingCloseReconciliations)
    (mapping : ∀ record ∈ queue, record.isMapping = true) :
    setPendingCloseReconciliations (.list queue) = queue := by
  have normal : queue.map normalizeItem = queue := by
    have same : ∀ record ∈ queue, normalizeItem record = id record :=
      fun record member => if_pos (mapping record member)
    rw [List.map_congr_left same, List.map_id]
  rw [setPendingCloseReconciliations, normalizePendingCloseReconciliations, normal,
    newest_of_short short]

end Stored

/-! ## Enqueueing -/

def reconciliationOwner (item : DynValue) : String × String :=
  (textOf (item.get "position_id"), ((item.get "kind").orElse (.str "final")).text)

/-- No leg of the record carries fewer identities than the owner's. -/
def identityEvidenceNotWeaker (item existing : DynValue) : Bool :=
  (reconciliationIdentityCoverage existing).1 ≤ (reconciliationIdentityCoverage item).1 &&
    (reconciliationIdentityCoverage existing).2 ≤ (reconciliationIdentityCoverage item).2

def requiresExecutionHistory (item : DynValue) : Bool :=
  isText (item.get "reconciliation_mode") "venue_execution_history_required"

def isDebt (item : DynValue) : Bool := isText (item.get "reconciliation_status") "evidence_debt"

def isAuditDebt (item : DynValue) : Bool :=
  isText (item.get "automatic_history_terminal_status") "irrecoverable_audit_debt"

/-- The same identities, whatever their order. -/
def sameIdentities (item existing : DynValue) : Bool :=
  (reconciliationIdentityKeys item).all (reconciliationIdentityKeys existing).contains &&
    (reconciliationIdentityKeys existing).all (reconciliationIdentityKeys item).contains

/-- The record brings stronger evidence, or records a debt, for its owner. -/
def replacesOwner (item existing : DynValue) : Bool :=
  let notWeaker := identityEvidenceNotWeaker item existing
  let strongerMode := requiresExecutionHistory item && !requiresExecutionHistory existing && notWeaker
  let strongerSnapshotEvidence :=
    reconciliationSnapshotEvidence existing < reconciliationSnapshotEvidence item
  let replacesEvidenceDebt := isDebt existing && !isDebt item && notWeaker && strongerSnapshotEvidence
  let recordsEvidenceDebt := isDebt item && !isDebt existing
  let recordsIrrecoverableAuditDebt := isAuditDebt item && !isAuditDebt existing
  (!sameIdentities item existing && notWeaker) || strongerMode || replacesEvidenceDebt ||
    recordsEvidenceDebt || recordsIrrecoverableAuditDebt

/-- A terminal debt gives way to another terminal debt only. -/
def keepsOwner (item existing : DynValue) : Bool :=
  (isTerminalAutomaticHistoryEvidenceDebt existing &&
    !isTerminalAutomaticHistoryEvidenceDebt item) || !replacesOwner item existing

/-- The first record of the item's owner decides; without one the item is appended. -/
def placeReconciliation (item : DynValue) : List DynValue → List DynValue
  | [] => [item]
  | existing :: rest =>
    if reconciliationOwner existing = reconciliationOwner item then
      (if keepsOwner item existing then existing else item) :: rest
    else existing :: placeReconciliation item rest

def enqueuePendingCloseReconciliation (queue : DynValue) (item : DynValue) : List DynValue :=
  newest (placeReconciliation item (setPendingCloseReconciliations queue))

/-! ## What a queue carries -/

/-- Some record of the queue carries the identity. -/
def Carried (queue : List DynValue) (identity : String × String) : Prop :=
  ∃ record ∈ queue, identity ∈ reconciliationIdentityKeys record

/-- The record that decides about an item. -/
def matchedOwner (queue : List DynValue) (item : DynValue) : Option DynValue :=
  queue.find? (fun existing => reconciliationOwner existing = reconciliationOwner item)

/-- Placing keeps every record but an owner that the item replaces. -/
theorem place_keeps {queue : List DynValue} {item record : DynValue} (member : record ∈ queue) :
    record ∈ placeReconciliation item queue ∨
      (matchedOwner queue item = some record ∧ keepsOwner item record = false) := by
  induction queue with
  | nil => exact absurd member List.not_mem_nil
  | cons existing rest ih =>
      by_cases owner : reconciliationOwner existing = reconciliationOwner item
      · rw [placeReconciliation, if_pos owner]
        rcases List.mem_cons.mp member with here | later
        · subst here
          cases kept : keepsOwner item record with
          | true => exact Or.inl (by simp)
          | false => exact Or.inr ⟨by simp [matchedOwner, owner], rfl⟩
        · exact Or.inl (List.mem_cons_of_mem _ later)
      · rw [placeReconciliation, if_neg owner]
        have skipped : matchedOwner (existing :: rest) item = matchedOwner rest item := by
          simp [matchedOwner, owner]
        rw [skipped]
        rcases List.mem_cons.mp member with here | later
        · subst here
          exact Or.inl List.mem_cons_self
        · rcases ih later with inRest | replaced
          · exact Or.inl (List.mem_cons_of_mem _ inRest)
          · exact Or.inr replaced

/-- The item is placed, or its owner stays in the queue. -/
theorem place_item (queue : List DynValue) (item : DynValue) :
    item ∈ placeReconciliation item queue ∨ ∃ owner ∈ placeReconciliation item queue,
      matchedOwner queue item = some owner ∧ keepsOwner item owner = true := by
  induction queue with
  | nil => exact Or.inl List.mem_cons_self
  | cons existing rest ih =>
      by_cases owner : reconciliationOwner existing = reconciliationOwner item
      · rw [placeReconciliation, if_pos owner]
        cases kept : keepsOwner item existing with
        | true => exact Or.inr ⟨existing, by simp, by simp [matchedOwner, owner], kept⟩
        | false => exact Or.inl (by simp)
      · rw [placeReconciliation, if_neg owner]
        have skipped : matchedOwner (existing :: rest) item = matchedOwner rest item := by
          simp [matchedOwner, owner]
        rw [skipped]
        rcases ih with placed | ⟨kept, inRest, matched⟩
        · exact Or.inl (List.mem_cons_of_mem _ placed)
        · exact Or.inr ⟨kept, List.mem_cons_of_mem _ inRest, matched⟩

theorem place_length (queue : List DynValue) (item : DynValue) :
    (placeReconciliation item queue).length ≤ queue.length + 1 := by
  induction queue with
  | nil => exact le_refl _
  | cons existing rest ih =>
      rw [placeReconciliation]
      split
      · simp
      · simp only [List.length_cons]
        omega

theorem enqueue_of_short {queue : DynValue} (item : DynValue)
    (short : (normalizePendingCloseReconciliations queue).length < maxPendingCloseReconciliations) :
    enqueuePendingCloseReconciliation queue item =
      placeReconciliation item (normalizePendingCloseReconciliations queue) := by
  rw [enqueuePendingCloseReconciliation, setPendingCloseReconciliations, newest_of_short short.le]
  apply newest_of_short
  have longer := place_length (normalizePendingCloseReconciliations queue) item
  omega

/-- A kept owner without a terminal debt has the item's identities, unless the item
carries fewer on one leg. -/
theorem kept_owner_carries {item owner : DynValue} (kept : keepsOwner item owner = true)
    {identity : String × String} (carried : identity ∈ reconciliationIdentityKeys item) :
    identity ∈ reconciliationIdentityKeys owner ∨
      (isTerminalAutomaticHistoryEvidenceDebt owner = true ∧
        isTerminalAutomaticHistoryEvidenceDebt item = false) ∨
      (reconciliationIdentityCoverage item).1 < (reconciliationIdentityCoverage owner).1 ∨
      (reconciliationIdentityCoverage item).2 < (reconciliationIdentityCoverage owner).2 := by
  rw [keepsOwner, Bool.or_eq_true, Bool.and_eq_true, Bool.not_eq_true'] at kept
  rcases kept with terminal | unreplaced
  · exact Or.inr (Or.inl terminal)
  · by_cases weaker : identityEvidenceNotWeaker item owner = true
    · have same : sameIdentities item owner = true := by
        by_contra different
        rw [Bool.not_eq_true] at different
        simp [replacesOwner, different, weaker] at unreplaced
      simp only [sameIdentities, Bool.and_eq_true, List.all_eq_true, List.contains_iff_mem] at same
      exact Or.inl (same.1 identity carried)
    · simp only [identityEvidenceNotWeaker, Bool.and_eq_true, decide_eq_true_eq, not_and_or,
        not_le] at weaker
      exact Or.inr (Or.inr weaker)

/-- Enqueueing keeps the identities of every record but a replaced owner, and those of
the item unless its owner is a terminal debt or carries more on one leg. -/
theorem enqueue_keeps_identities (queue item : DynValue)
    (short : (normalizePendingCloseReconciliations queue).length < maxPendingCloseReconciliations) :
    (∀ record ∈ normalizePendingCloseReconciliations queue,
      ¬ (matchedOwner (normalizePendingCloseReconciliations queue) item = some record ∧
        keepsOwner item record = false) →
      ∀ identity ∈ reconciliationIdentityKeys record,
        Carried (enqueuePendingCloseReconciliation queue item) identity) ∧
    (∀ identity ∈ reconciliationIdentityKeys item,
      Carried (enqueuePendingCloseReconciliation queue item) identity ∨
      ∃ owner, matchedOwner (normalizePendingCloseReconciliations queue) item = some owner ∧
        ((isTerminalAutomaticHistoryEvidenceDebt owner = true ∧
            isTerminalAutomaticHistoryEvidenceDebt item = false) ∨
          (reconciliationIdentityCoverage item).1 < (reconciliationIdentityCoverage owner).1 ∨
          (reconciliationIdentityCoverage item).2 < (reconciliationIdentityCoverage owner).2)) := by
  rw [enqueue_of_short item short]
  constructor
  · intro record member unreplaced identity carried
    rcases place_keeps member with placed | replaced
    · exact ⟨record, placed, carried⟩
    · exact absurd replaced unreplaced
  · intro identity carried
    rcases place_item (normalizePendingCloseReconciliations queue) item with
      placed | ⟨owner, placed, matched, kept⟩
    · exact Or.inl ⟨item, placed, carried⟩
    · rcases kept_owner_carries kept carried with ownerCarries | exempt
      · exact Or.inl ⟨owner, placed, ownerCarries⟩
      · exact Or.inr ⟨owner, matched, exempt⟩

/-- A close record whose long leg names the orders. -/
def closeRecord (orders : List String) : DynValue :=
  .dict [("position_id", .str "p1"), ("kind", .str "partial"),
    ("long_legs", .list (orders.map (fun order => .dict [("order_id", .str order)]))),
    ("short_legs", .list [])]

/-- A partial close behind a longer one of its position is dropped; the longer one stays. -/
theorem enqueue_keeps_identities_shorter :
    Carried (enqueuePendingCloseReconciliation (.list [closeRecord ["a", "b"]])
      (closeRecord ["c"])) ("a", "") := by
  have owner := enqueue_keeps_identities (.list [closeRecord ["a", "b"]]) (closeRecord ["c"])
    (by decide)
  have kept : keepsOwner (closeRecord ["c"]) (closeRecord ["a", "b"]) = true := by decide +kernel
  exact owner.1 (closeRecord ["a", "b"]) List.mem_cons_self (by simp [kept]) ("a", "")
    (by decide +kernel)

/-- The dropped order is carried by no record, and its owner is no terminal debt. -/
theorem enqueue_drops_identity :
    ("c", "") ∈ reconciliationIdentityKeys (closeRecord ["c"]) ∧
      isTerminalAutomaticHistoryEvidenceDebt (closeRecord ["a", "b"]) = false ∧
      ¬ Carried (enqueuePendingCloseReconciliation (.list [closeRecord ["a", "b"]])
        (closeRecord ["c"])) ("c", "") := by
  refine ⟨by decide +kernel, by decide +kernel, ?_⟩
  rintro ⟨record, member, carried⟩
  have others : ∀ record ∈ enqueuePendingCloseReconciliation (.list [closeRecord ["a", "b"]])
      (closeRecord ["c"]), ("c", "") ∉ reconciliationIdentityKeys record := by decide +kernel
  exact others record member carried

end LightFee.Engine
