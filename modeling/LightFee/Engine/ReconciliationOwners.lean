import LightFee.Engine.CloseReconciliationQueue

/-!
# Owners of the close reconciliations

A record that is enqueued joins its owner or the end of the queue, and the oldest records
make room when the queue is full. What is left after the cut keeps its owners, and a terminal
debt among it keeps its record.
-/

namespace LightFee.Engine

open DynValue

/-- Some record of the queue belongs to the owner. -/
def Owned (queue : List DynValue) (owner : String × String) : Prop :=
  ∃ record ∈ queue, reconciliationOwner record = owner

/-- Records of one owner. -/
def recordsOf (owner : String × String) (queue : List DynValue) : List DynValue :=
  queue.filter (fun record => reconciliationOwner record = owner)

/-- The records that the capacity leaves when an item is enqueued: the newest ones, of which the
oldest makes room when the queue is full and the item has no owner in it. -/
def withinCapacity (queue item : DynValue) : List DynValue :=
  let kept := setPendingCloseReconciliations queue
  if (recordsOf (reconciliationOwner item) kept).isEmpty then
    kept.drop (kept.length + 1 - maxPendingCloseReconciliations)
  else kept

/-! ## Placing -/

/-- An item without an owner joins the end. -/
theorem place_unowned {queue : List DynValue} {item : DynValue}
    (unowned : ¬ Owned queue (reconciliationOwner item)) :
    placeReconciliation item queue = queue ++ [item] := by
  induction queue with
  | nil => rfl
  | cons existing rest ih =>
    have other : reconciliationOwner existing ≠ reconciliationOwner item :=
      fun same => unowned ⟨existing, List.mem_cons_self, same⟩
    have later : ¬ Owned rest (reconciliationOwner item) := by
      rintro ⟨record, member, same⟩
      exact unowned ⟨record, List.mem_cons_of_mem _ member, same⟩
    rw [placeReconciliation, if_neg other, ih later, List.cons_append]

/-- An item with an owner changes the owner's first record only. -/
theorem place_owned {queue : List DynValue} {item : DynValue}
    (owned : Owned queue (reconciliationOwner item)) :
    (placeReconciliation item queue).map reconciliationOwner =
      queue.map reconciliationOwner := by
  induction queue with
  | nil =>
    obtain ⟨record, member, _⟩ := owned
    exact absurd member List.not_mem_nil
  | cons existing rest ih =>
    by_cases same : reconciliationOwner existing = reconciliationOwner item
    · rw [placeReconciliation, if_pos same]
      split
      · rfl
      · rw [List.map_cons, List.map_cons, same]
    · rw [placeReconciliation, if_neg same, List.map_cons, List.map_cons, ih]
      obtain ⟨record, member, found⟩ := owned
      rcases List.mem_cons.mp member with here | later
      · exact absurd (here ▸ found) same
      · exact ⟨record, later, found⟩

theorem owned_iff (queue : List DynValue) (owner : String × String) :
    Owned queue owner ↔ owner ∈ queue.map reconciliationOwner := by
  rw [Owned, List.mem_map]

theorem recordsOf_length (owner : String × String) (queue : List DynValue) :
    (recordsOf owner queue).length = (queue.map reconciliationOwner).count owner := by
  induction queue with
  | nil => rfl
  | cons record rest ih =>
    rw [recordsOf] at ih ⊢
    by_cases same : reconciliationOwner record = owner
    · rw [List.filter_cons_of_pos (by simpa using same), List.length_cons, List.map_cons, same,
        List.count_cons_self, ih]
    · rw [List.filter_cons_of_neg (by simpa using same), List.map_cons,
        List.count_cons_of_ne same, ih]

theorem recordsOf_isEmpty_iff (owner : String × String) (queue : List DynValue) :
    (recordsOf owner queue).isEmpty = true ↔ ¬ Owned queue owner := by
  rw [List.isEmpty_iff, recordsOf, List.filter_eq_nil_iff]
  simp [Owned]

/-! ## Enqueueing -/

/-- After the cut the item changes its owner's first record, or joins the end. -/
theorem enqueue_cases (queue item : DynValue) :
    (Owned (setPendingCloseReconciliations queue) (reconciliationOwner item) ∧
        withinCapacity queue item = setPendingCloseReconciliations queue ∧
        enqueuePendingCloseReconciliation queue item =
          placeReconciliation item (withinCapacity queue item)) ∨
      (¬ Owned (setPendingCloseReconciliations queue) (reconciliationOwner item) ∧
        enqueuePendingCloseReconciliation queue item = withinCapacity queue item ++ [item]) := by
  have short : (setPendingCloseReconciliations queue).length ≤ maxPendingCloseReconciliations :=
    newest_length _
  by_cases owned : Owned (setPendingCloseReconciliations queue) (reconciliationOwner item)
  · left
    have within : withinCapacity queue item = setPendingCloseReconciliations queue := by
      rw [withinCapacity, if_neg]
      rw [recordsOf_isEmpty_iff]
      exact not_not.mpr owned
    refine ⟨owned, within, ?_⟩
    rw [within, enqueuePendingCloseReconciliation]
    apply newest_of_short
    have same := congrArg List.length (place_owned owned)
    rw [List.length_map, List.length_map] at same
    omega
  · right
    refine ⟨owned, ?_⟩
    rw [enqueuePendingCloseReconciliation, place_unowned owned, newest, withinCapacity,
      if_pos ((recordsOf_isEmpty_iff _ _).mpr owned), List.length_append, List.length_singleton,
      List.drop_append_of_le_length]
    have capacity : maxPendingCloseReconciliations = 256 := rfl
    omega

/-- The owners after the call are those that the capacity leaves, and the item's. -/
theorem enqueue_owned_iff (queue item : DynValue) (owner : String × String) :
    Owned (enqueuePendingCloseReconciliation queue item) owner ↔
      Owned (withinCapacity queue item) owner ∨ owner = reconciliationOwner item := by
  rcases enqueue_cases queue item with ⟨owned, within, placed⟩ | ⟨-, appended⟩
  · rw [placed, owned_iff, within, place_owned owned, ← owned_iff]
    constructor
    · exact .inl
    · rintro (held | rfl)
      · exact held
      · exact owned
  · rw [appended, owned_iff, owned_iff, List.map_append, List.mem_append, List.map_singleton,
      List.mem_singleton]

/-- The capacity only takes records away. -/
theorem withinCapacity_sublist (queue item : DynValue) :
    (withinCapacity queue item).Sublist (normalizePendingCloseReconciliations queue) := by
  have cut : (setPendingCloseReconciliations queue).Sublist
      (normalizePendingCloseReconciliations queue) := List.drop_sublist _ _
  rw [withinCapacity]
  split
  · exact (List.drop_sublist _ _).trans cut
  · exact cut

/-- A queue with room keeps all its records. -/
theorem withinCapacity_of_short {queue : DynValue} (item : DynValue)
    (short : (normalizePendingCloseReconciliations queue).length < maxPendingCloseReconciliations) :
    withinCapacity queue item = normalizePendingCloseReconciliations queue := by
  have kept : setPendingCloseReconciliations queue = normalizePendingCloseReconciliations queue :=
    newest_of_short short.le
  rw [withinCapacity, kept]
  split
  · rw [Nat.sub_eq_zero_of_le short, List.drop_zero]
  · rfl

/-- A single owner stays single. -/
theorem enqueue_single {queue item : DynValue}
    (single : (recordsOf (reconciliationOwner item)
      (normalizePendingCloseReconciliations queue)).length ≤ 1) :
    (recordsOf (reconciliationOwner item)
      (enqueuePendingCloseReconciliation queue item)).length ≤ 1 := by
  have before : ((withinCapacity queue item).map reconciliationOwner).count
      (reconciliationOwner item) ≤ 1 := by
    rw [recordsOf_length] at single
    exact (((withinCapacity_sublist queue item).map _).count_le _).trans single
  rw [recordsOf_length]
  rcases enqueue_cases queue item with ⟨owned, within, placed⟩ | ⟨unowned, appended⟩
  · rw [placed, within, place_owned owned, ← within]
    exact before
  · have none : ((withinCapacity queue item).map reconciliationOwner).count
        (reconciliationOwner item) = 0 := by
      rw [List.count_eq_zero, ← owned_iff]
      rintro ⟨record, member, same⟩
      refine unowned ⟨record, ?_, same⟩
      rw [withinCapacity, if_pos ((recordsOf_isEmpty_iff _ _).mpr unowned)] at member
      exact List.mem_of_mem_drop member
    rw [appended, List.map_append, List.count_append, none, List.map_singleton,
      List.count_singleton_self]

/-- A terminal debt that the capacity leaves keeps its record, unless the item is one too. -/
theorem enqueue_keeps_debt {queue item record : DynValue}
    (member : record ∈ withinCapacity queue item)
    (terminal : isTerminalAutomaticHistoryEvidenceDebt record = true)
    (ordinary : isTerminalAutomaticHistoryEvidenceDebt item = false) :
    record ∈ enqueuePendingCloseReconciliation queue item := by
  rcases enqueue_cases queue item with ⟨-, -, placed⟩ | ⟨-, appended⟩
  · rw [placed]
    rcases @place_keeps _ item _ member with kept | ⟨-, replaced⟩
    · exact kept
    · rw [keepsOwner, terminal, ordinary] at replaced
      cases replaced
  · rw [appended]
    exact List.mem_append_left _ member

/-- All but one of the newest records stay. -/
theorem withinCapacity_newest (queue item : DynValue) :
    (normalizePendingCloseReconciliations queue).drop
        ((normalizePendingCloseReconciliations queue).length + 1 - maxPendingCloseReconciliations) <:+
      withinCapacity queue item := by
  set records := normalizePendingCloseReconciliations queue with known
  have kept : setPendingCloseReconciliations queue =
      records.drop (records.length - maxPendingCloseReconciliations) := rfl
  rw [withinCapacity, kept]
  split
  · rw [List.drop_drop, List.length_drop]
    apply List.drop_suffix_drop_left
    omega
  · apply List.drop_suffix_drop_left
    omega

/-- **Enqueueing loses no owner but to the capacity.** All records stay when the queue has room,
and all but the oldest ones when it is full. -/
theorem enqueue_keeps_owners (queue item : DynValue) :
    let records := normalizePendingCloseReconciliations queue
    let after := enqueuePendingCloseReconciliation queue item
    (∀ record ∈ withinCapacity queue item, Owned after (reconciliationOwner record)) ∧
    (records.length < maxPendingCloseReconciliations → withinCapacity queue item = records) ∧
    records.drop (records.length + 1 - maxPendingCloseReconciliations) <:+
      withinCapacity queue item ∧
    ((recordsOf (reconciliationOwner item) records).length ≤ 1 →
      (recordsOf (reconciliationOwner item) after).length ≤ 1) ∧
    (∀ record ∈ withinCapacity queue item,
      isTerminalAutomaticHistoryEvidenceDebt record = true →
      isTerminalAutomaticHistoryEvidenceDebt item = false → record ∈ after) := by
  refine ⟨?_, withinCapacity_of_short item, withinCapacity_newest queue item, enqueue_single, ?_⟩
  · intro record member
    exact (enqueue_owned_iff queue item _).mpr (.inl ⟨record, member, rfl⟩)
  · intro record member terminal ordinary
    exact enqueue_keeps_debt member terminal ordinary

/-! ## A full queue -/

/-- A terminal debt of a numbered position. -/
def numberedDebt (number : Nat) : DynValue :=
  .dict [("position_id", .str (toString number)), ("reconciliation_status", .str "evidence_debt"),
    ("automatic_history_terminal_status", .str "irrecoverable_audit_debt")]

/-- As many owners as the queue has room for. -/
def fullQueue : DynValue :=
  .list ((List.range maxPendingCloseReconciliations).map numberedDebt)

/-- A new position drops the oldest debt of a full queue. -/
theorem full_queue_drops_owner :
    numberedDebt 0 ∈ normalizePendingCloseReconciliations fullQueue ∧
      isTerminalAutomaticHistoryEvidenceDebt (numberedDebt 0) = true ∧
      ¬ Owned (enqueuePendingCloseReconciliation fullQueue (.dict [("position_id", .str "new")]))
        (reconciliationOwner (numberedDebt 0)) := by
  have absent : (enqueuePendingCloseReconciliation fullQueue
      (.dict [("position_id", .str "new")])).all (fun record =>
        reconciliationOwner record ≠ reconciliationOwner (numberedDebt 0)) = true := by
    decide +kernel
  refine ⟨?_, by decide +kernel, ?_⟩
  · exact List.mem_cons_self
  · rintro ⟨record, member, same⟩
    exact of_decide_eq_true (List.all_eq_true.mp absent record member) same

end LightFee.Engine
