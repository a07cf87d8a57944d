import LightFee.Engine.NormalizeState

/-!
# What normalisation keeps

Every collection is described by its lookups after the run: a position is
repaired, and answered when it is neither dust nor without a matched quantity;
an entry unless it is dropped; a close when it has a position id. A normalised
state is a fixed point of every repair, so a second run finds nothing to do.
-/

namespace LightFee.Engine

/-- A default fills what is missing once. -/
theorem default_twice {Value : Type} (missing : Value → Prop) [DecidablePred missing]
    (default value : Value) :
    (if missing (if missing value then default else value) then default
      else if missing value then default else value) =
      if missing value then default else value := by
  split_ifs <;> rfl

namespace OpenPosition

/-- One of the legs is positive. -/
def isExposed (position : OpenPosition) : Bool :=
  (ExactFloat.finite 0).lt position.longQuantity || (ExactFloat.finite 0).lt position.shortQuantity

/-- What every repair leaves alone. -/
structure Settled (position : OpenPosition) : Prop where
  stamped : position.backfillFundingTimestamp = position
  edged : position.backfillFundingEdge = position
  matched : position.ensureMatchedQuantity = position
  notDust : position.isDust = false
  notZero : position.isZero = false
  peaked : position.raisePeak = position
  typed : position.defaultOpportunityType = position

@[simp] theorem repaired_isDust (position : OpenPosition) :
    position.repaired.isDust = position.isDust := by
  simp only [isDust, repaired, ensureMatchedQuantity, backfillFundingEdge, backfillFundingTimestamp]

@[simp] theorem finished_isDust (position : OpenPosition) :
    position.finished.isDust = position.isDust := by
  simp only [isDust, finished, defaultOpportunityType, raisePeak]

@[simp] theorem finished_isZero (position : OpenPosition) :
    position.finished.isZero = position.isZero := by
  simp only [isZero, finished, defaultOpportunityType, raisePeak]

/-- No repair changes a leg. -/
theorem repaired_legs (position : OpenPosition) :
    position.repaired.finished.longQuantity = position.longQuantity ∧
      position.repaired.finished.shortQuantity = position.shortQuantity := by
  simp only [finished, defaultOpportunityType, raisePeak, repaired, ensureMatchedQuantity,
    backfillFundingEdge, backfillFundingTimestamp, and_self]

theorem repaired_isZero (position : OpenPosition) :
    position.repaired.isZero = position.ensureMatchedQuantity.isZero := by
  simp only [isZero, repaired, ensureMatchedQuantity, backfillFundingEdge, backfillFundingTimestamp]
  rfl

theorem stamp_twice (position : OpenPosition) :
    position.backfillFundingTimestamp.backfillFundingTimestamp =
      position.backfillFundingTimestamp :=
  congrArg (fun value => { position with fundingTimestampMs := value })
    (default_twice (· = 0) position.openedAtMs position.fundingTimestampMs)

theorem edge_twice (position : OpenPosition) :
    position.backfillFundingEdge.backfillFundingEdge = position.backfillFundingEdge :=
  congrArg (fun value => { position with totalFundingEdgeBpsEntry := value })
    (default_twice (fun value => value.eq (.finite 0) = true) position.fundingEdgeBpsEntry
      position.totalFundingEdgeBpsEntry)

theorem match_twice (position : OpenPosition) :
    position.ensureMatchedQuantity.ensureMatchedQuantity = position.ensureMatchedQuantity :=
  congrArg (fun value => { position with matchedQuantity := value })
    (default_twice (fun value => value.eq (.finite 0) = true)
      (position.longQuantity.min position.shortQuantity) position.matchedQuantity)

theorem peak_twice (position : OpenPosition) : position.raisePeak.raisePeak = position.raisePeak := by
  simp only [raisePeak]
  split_ifs with raised <;> simp_all

theorem type_twice (position : OpenPosition) :
    position.defaultOpportunityType.defaultOpportunityType = position.defaultOpportunityType :=
  congrArg (fun value => { position with opportunityType := value })
    (default_twice (· = "") "aligned" position.opportunityType)

/-! The repairs write different fields, so they commute. -/

theorem edged_stamp (position : OpenPosition) :
    position.backfillFundingEdge.backfillFundingTimestamp =
      position.backfillFundingTimestamp.backfillFundingEdge := rfl

theorem matched_stamp (position : OpenPosition) :
    position.ensureMatchedQuantity.backfillFundingTimestamp =
      position.backfillFundingTimestamp.ensureMatchedQuantity := rfl

theorem matched_edge (position : OpenPosition) :
    position.ensureMatchedQuantity.backfillFundingEdge =
      position.backfillFundingEdge.ensureMatchedQuantity := rfl

theorem finished_stamp (position : OpenPosition) :
    position.finished.backfillFundingTimestamp = position.backfillFundingTimestamp.finished := rfl

theorem finished_edge (position : OpenPosition) :
    position.finished.backfillFundingEdge = position.backfillFundingEdge.finished := rfl

theorem finished_match (position : OpenPosition) :
    position.finished.ensureMatchedQuantity = position.ensureMatchedQuantity.finished := rfl

theorem typed_peak (position : OpenPosition) :
    position.defaultOpportunityType.raisePeak = position.raisePeak.defaultOpportunityType := rfl

/-- Each repair is settled by its own run. -/
theorem settled_of_kept {position : OpenPosition} (notDust : position.isDust = false)
    (notZero : position.repaired.isZero = false) : position.repaired.finished.Settled where
  stamped := by rw [finished_stamp, repaired, matched_stamp, edged_stamp, stamp_twice]
  edged := by rw [finished_edge, repaired, matched_edge, edge_twice]
  matched := by rw [finished_match, repaired, match_twice]
  notDust := by rw [finished_isDust, repaired_isDust, notDust]
  notZero := by rw [finished_isZero, notZero]
  peaked := by rw [finished, typed_peak, peak_twice]
  typed := by rw [finished, type_twice]

end OpenPosition

namespace EngineState

/-! ## The stages -/

theorem migrate_fail_closed_same (state : EngineState) : state.migrateFailClosed = state := by
  have named : state.lifecycle.value ≠ "fail_closed" := by
    cases state.lifecycle <;> decide
  simp only [migrateFailClosed, if_neg named]

/-- The collected positions stay as they are, and every later entry is new. -/
theorem dedup_entries (rest : List (String × OpenPosition)) (seen : List String)
    (deduped : OrderedDict String OpenPosition) (known : ∀ id, id ∈ seen ↔ id ∈ deduped.keys)
    (distinct : (deduped.keys ++ rest.map Prod.fst).Nodup) :
    (rest.foldl dedupPosition (seen, deduped)).2.entries = deduped.entries ++ rest := by
  induction rest generalizing seen deduped with
  | nil => simp
  | cons entry rest ih =>
    have absent : entry.1 ∉ deduped.keys := by
      intro member
      rw [List.map_cons, List.nodup_append] at distinct
      exact distinct.2.2 entry.1 member entry.1 List.mem_cons_self rfl
    have fresh : entry.1 ∉ seen := fun member => absent ((known entry.1).mp member)
    have inserted : (deduped.insert entry.1 entry.2).entries = deduped.entries ++ [entry] :=
      OrderedDict.put_absent absent
    have keys : (deduped.insert entry.1 entry.2).keys = deduped.keys ++ [entry.1] := by
      rw [OrderedDict.keys_insert, if_neg absent]
    rw [List.foldl_cons, dedupPosition, if_neg fresh, ih, inserted,
      List.append_assoc, List.singleton_append]
    · intro id
      rw [keys, List.mem_cons, List.mem_append, List.mem_singleton, known id, or_comm]
    · rw [keys, List.append_assoc, List.singleton_append]
      exact distinct

/-- A dictionary has no id twice. -/
theorem dedup_positions_same (state : EngineState) : state.dedupPositions = state := by
  have entries := dedup_entries state.openPositions.entries [] .empty (by simp [OrderedDict.keys,
    OrderedDict.empty]) state.openPositions.distinct
  have same : (state.openPositions.entries.foldl dedupPosition ([], .empty)).2 =
      state.openPositions := OrderedDict.ext_entries entries
  rw [dedupPositions, same]

/-- A residual repair names the position. -/
def HasRepairFor (state : EngineState) (id : String) : Prop :=
  ∃ item ∈ state.pendingResidualRepairs, item.isMapping = true ∧
    item.get "position_id" = .str id

theorem dust_repair_names (position : OpenPosition) (id other : String) :
    (position.dustRepair id).get "position_id" = .str other ↔ id = other := by
  have named : (position.dustRepair id).get "position_id" = .str id := rfl
  rw [named, DynValue.str.injEq]

theorem mem_dustIds (state : EngineState) (id : String) :
    id ∈ state.dustIds ↔ ∃ position, state.openPositions.find? id = some position ∧
      position.isDust = true :=
  OrderedDict.mem_keys_where state.openPositions OpenPosition.isDust id

theorem migrate_step_find (state : EngineState) (first id : String) :
    (state.migrateDustPosition first).openPositions.find? id =
      if first = id then none else state.openPositions.find? id := by
  cases found : state.openPositions.find? first with
  | none =>
    rw [migrateDustPosition, found]
    split_ifs with same
    · rw [← same, found]
    · rfl
  | some position => simp [migrateDustPosition, found]

theorem migrate_step_repairs (state : EngineState) (first id : String) :
    (state.migrateDustPosition first).HasRepairFor id ↔
      state.HasRepairFor id ∨ (first = id ∧ (state.openPositions.find? id).isSome = true) := by
  cases found : state.openPositions.find? first with
  | none =>
    rw [migrateDustPosition, found]
    constructor
    · exact Or.inl
    · rintro (already | ⟨rfl, present⟩)
      · exact already
      · rw [found] at present
        cases present
  | some position =>
    simp only [migrateDustPosition, found, HasRepairFor, List.mem_append, List.mem_singleton]
    constructor
    · rintro ⟨item, earlier | rfl, mapping, named⟩
      · exact Or.inl ⟨item, earlier, mapping, named⟩
      · have same := (dust_repair_names position first id).mp named
        exact Or.inr ⟨same, by rw [← same, found]; rfl⟩
    · rintro (⟨item, earlier, mapping, named⟩ | ⟨same, _⟩)
      · exact ⟨item, Or.inl earlier, mapping, named⟩
      · exact ⟨_, Or.inr rfl, rfl, (dust_repair_names position first id).mpr same⟩

theorem migrate_find (ids : List String) (state : EngineState) (id : String) :
    (ids.foldl migrateDustPosition state).openPositions.find? id =
      if id ∈ ids then none else state.openPositions.find? id := by
  induction ids generalizing state with
  | nil => simp
  | cons first rest ih =>
    rw [List.foldl_cons, ih, migrate_step_find]
    by_cases here : first = id
    · simp [here]
    · simp [here, Ne.symm here]

theorem migrate_repairs (ids : List String) (state : EngineState) (id : String) :
    (ids.foldl migrateDustPosition state).HasRepairFor id ↔
      state.HasRepairFor id ∨ (id ∈ ids ∧ (state.openPositions.find? id).isSome = true) := by
  induction ids generalizing state with
  | nil => simp
  | cons first rest ih =>
    rw [List.foldl_cons, ih, migrate_step_repairs, migrate_step_find,
      List.mem_cons]
    by_cases here : first = id
    · simp [here]
    · simp [here, Ne.symm here]

/-- Migration touches positions and repairs only. -/
theorem migrate_frame (ids : List String) (state : EngineState) :
    (ids.foldl migrateDustPosition state).pendingEntries = state.pendingEntries ∧
      (ids.foldl migrateDustPosition state).pendingCloses = state.pendingCloses := by
  induction ids generalizing state with
  | nil => exact ⟨rfl, rfl⟩
  | cons first rest ih =>
    have step : (state.migrateDustPosition first).pendingEntries = state.pendingEntries ∧
        (state.migrateDustPosition first).pendingCloses = state.pendingCloses := by
      cases found : state.openPositions.find? first with
      | none => simp [migrateDustPosition, found]
      | some position => simp [migrateDustPosition, found]
    rw [List.foldl_cons, (ih _).1, (ih _).2]
    exact step

/-! ## Lookups after the run -/

/-- The positions after the repairs that precede the removal of dust. -/
def repairedPositions (state : EngineState) : EngineState :=
  { state with openPositions := state.openPositions.mapEntries (fun _ position => position.repaired) }

/-- The stages after the removal of dust. -/
def settleRest (clock : ClockReadings) (cleaned : EngineState) : EngineState :=
  let phased := cleaned.dedupReduceOnlyPairs.defaultPassivePhases
  let validated :=
    (phased.removeZeroPositions.validatePendingEntries clock).validatePendingCloses clock
  (validated.sortPositions.mapPositions OpenPosition.raisePeak).mapPositions
    OpenPosition.defaultOpportunityType

/-- The stages before the removal of zero positions repair every position at once. -/
theorem normalize_stages (clock : ClockReadings) (state : EngineState) :
    normalizeEngineState clock state = state.repairedPositions.migrateDust.settleRest clock := by
  have composed :
      ((state.mapPositions OpenPosition.backfillFundingTimestamp).mapPositions
        OpenPosition.backfillFundingEdge).mapPositions OpenPosition.ensureMatchedQuantity =
        state.repairedPositions := by
    have entries : ((state.openPositions.mapEntries (fun _ position =>
        position.backfillFundingTimestamp)).mapEntries (fun _ position =>
          position.backfillFundingEdge)).mapEntries (fun _ position =>
            position.ensureMatchedQuantity) =
        state.openPositions.mapEntries (fun _ position => position.repaired) := by
      apply OrderedDict.ext_entries
      simp [OrderedDict.mapEntries, OpenPosition.repaired]
    rw [mapPositions, mapPositions, mapPositions, repairedPositions]
    exact congrArg (fun positions => { state with openPositions := positions }) entries
  rw [normalizeEngineState, migrate_fail_closed_same, composed, dedup_positions_same, settleRest]

theorem rest_positions (clock : ClockReadings) (cleaned : EngineState) :
    (cleaned.settleRest clock).openPositions =
      ((cleaned.openPositions.filter (fun _ position => !position.isZero)).sortKeys.mapEntries
        (fun _ position => position.raisePeak)).mapEntries
          (fun _ position => position.defaultOpportunityType) := rfl

theorem rest_repairs (clock : ClockReadings) (cleaned : EngineState) :
    (cleaned.settleRest clock).pendingResidualRepairs = cleaned.pendingResidualRepairs := rfl

theorem rest_entries (clock : ClockReadings) (cleaned : EngineState) :
    (cleaned.settleRest clock).pendingEntries =
      cleaned.badEntryIds.foldl OrderedDict.erase
        (cleaned.pendingEntries.mapEntries (fun id pending =>
          pending.validated (clock.atEntry id))) := rfl

theorem rest_closes (clock : ClockReadings) (cleaned : EngineState) :
    (cleaned.settleRest clock).pendingCloses =
      cleaned.badCloseIds.foldl OrderedDict.erase
        (cleaned.pendingCloses.mapEntries (fun id close => close.validated (clock.atClose id))) := rfl

theorem normalized_positions (clock : ClockReadings) (state : EngineState) :
    (normalizeEngineState clock state).openPositions =
      ((state.repairedPositions.migrateDust.openPositions.filter
        (fun _ position => !position.isZero)).sortKeys.mapEntries
          (fun _ position => position.raisePeak)).mapEntries
            (fun _ position => position.defaultOpportunityType) := by
  rw [normalize_stages, rest_positions]

theorem mem_repaired_dustIds (state : EngineState) (id : String) :
    id ∈ state.repairedPositions.dustIds ↔ ∃ position, state.openPositions.find? id = some position ∧
      position.isDust = true := by
  rw [mem_dustIds, repairedPositions, OrderedDict.find_mapEntries]
  constructor
  · rintro ⟨position, found, dust⟩
    obtain ⟨original, known, rfl⟩ := Option.map_eq_some_iff.mp found
    exact ⟨original, known, original.repaired_isDust.symm.trans dust⟩
  · rintro ⟨position, found, dust⟩
    exact ⟨position.repaired, by rw [found]; rfl, position.repaired_isDust.trans dust⟩

/-- A position is found unless it is dust or has no matched quantity. -/
theorem find_normalized_position (clock : ClockReadings) (state : EngineState) (id : String)
    (kept : OpenPosition) :
    (normalizeEngineState clock state).openPositions.find? id = some kept ↔
      ∃ position, state.openPositions.find? id = some position ∧ position.isDust = false ∧
        position.repaired.isZero = false ∧ kept = position.repaired.finished := by
  rw [normalized_positions, OrderedDict.find_mapEntries, OrderedDict.find_mapEntries,
    OrderedDict.find_sortKeys, OrderedDict.find_filter, migrateDust, migrate_find]
  have before : state.repairedPositions.openPositions.find? id =
      (state.openPositions.find? id).map OpenPosition.repaired :=
    OrderedDict.find_mapEntries _ _ _
  cases found : state.openPositions.find? id with
  | none =>
    rw [before, found]
    simp
  | some position =>
    have dusty := mem_repaired_dustIds state id
    rw [found] at dusty
    by_cases dust : position.isDust = true
    · rw [if_pos (dusty.mpr ⟨position, rfl, dust⟩)]
      simp [dust]
    · have clean : id ∉ state.repairedPositions.dustIds := by
        intro member
        obtain ⟨other, same, otherDust⟩ := dusty.mp member
        cases same
        exact dust otherDust
      rw [if_neg clean, before, found]
      by_cases zero : position.repaired.isZero = true
      · simp [zero]
      · simp only [Option.map_some, Option.filter_some, zero, Bool.not_false, if_true]
        constructor
        · rintro same
          exact ⟨position, rfl, by simpa using dust, by simpa using zero, (Option.some.inj same).symm⟩
        · rintro ⟨other, same, _, _, rfl⟩
          cases same
          rfl

theorem normalized_repairs (clock : ClockReadings) (state : EngineState) (id : String) :
    (normalizeEngineState clock state).HasRepairFor id ↔
      state.HasRepairFor id ∨ ∃ position, state.openPositions.find? id = some position ∧
        position.isDust = true := by
  have repairs : (normalizeEngineState clock state).pendingResidualRepairs =
      state.repairedPositions.migrateDust.pendingResidualRepairs := by
    rw [normalize_stages, rest_repairs]
  have migrated := migrate_repairs state.repairedPositions.dustIds state.repairedPositions id
  rw [mem_repaired_dustIds] at migrated
  have before : state.repairedPositions.openPositions.find? id =
      (state.openPositions.find? id).map OpenPosition.repaired :=
    OrderedDict.find_mapEntries _ _ _
  rw [HasRepairFor, repairs]
  refine migrated.trans ?_
  constructor
  · rintro (already | ⟨dust, _⟩)
    · exact Or.inl already
    · exact Or.inr dust
  · rintro (already | ⟨position, found, dust⟩)
    · exact Or.inl already
    · exact Or.inr ⟨⟨position, found, dust⟩, by rw [before, found]; rfl⟩

theorem normalized_entries (clock : ClockReadings) (state : EngineState) :
    (normalizeEngineState clock state).pendingEntries =
      state.badEntryIds.foldl OrderedDict.erase
        (state.pendingEntries.mapEntries (fun id pending =>
          pending.validated (clock.atEntry id))) := by
  have untouched : state.repairedPositions.migrateDust.pendingEntries = state.pendingEntries :=
    (migrate_frame state.repairedPositions.dustIds state.repairedPositions).1
  rw [normalize_stages, rest_entries, badEntryIds, badEntryIds, untouched]

theorem normalized_closes (clock : ClockReadings) (state : EngineState) :
    (normalizeEngineState clock state).pendingCloses =
      state.badCloseIds.foldl OrderedDict.erase
        (state.pendingCloses.mapEntries (fun id close => close.validated (clock.atClose id))) := by
  have untouched : state.repairedPositions.migrateDust.pendingCloses = state.pendingCloses :=
    (migrate_frame state.repairedPositions.dustIds state.repairedPositions).2
  rw [normalize_stages, rest_closes, badCloseIds, badCloseIds, untouched]

theorem find_normalized_entry (clock : ClockReadings) (state : EngineState) (id : String)
    (kept : PendingEntry ExactFloat) :
    (normalizeEngineState clock state).pendingEntries.find? id = some kept ↔
      ∃ pending, state.pendingEntries.find? id = some pending ∧ pending.isDropped = false ∧
        kept = pending.validated (clock.atEntry id) := by
  have bad := OrderedDict.mem_keys_where state.pendingEntries PendingEntry.isDropped id
  rw [normalized_entries, OrderedDict.find_eraseAll, OrderedDict.find_mapEntries, badEntryIds]
  cases found : state.pendingEntries.find? id with
  | none => simp
  | some pending =>
    rw [found] at bad
    by_cases dropped : pending.isDropped = true
    · rw [if_pos (bad.mpr ⟨pending, rfl, dropped⟩)]
      simp [dropped]
    · have good := mt bad.mp (by
        rintro ⟨other, same, otherDropped⟩
        cases same
        exact dropped otherDropped)
      rw [if_neg good, Option.map_some]
      constructor
      · rintro same
        exact ⟨pending, rfl, by simpa using dropped, (Option.some.inj same).symm⟩
      · rintro ⟨other, same, _, rfl⟩
        cases same
        rfl

theorem find_normalized_close (clock : ClockReadings) (state : EngineState) (id : String)
    (kept : PendingClose) :
    (normalizeEngineState clock state).pendingCloses.find? id = some kept ↔
      ∃ close, state.pendingCloses.find? id = some close ∧ close.positionId ≠ "" ∧
        kept = close.validated (clock.atClose id) := by
  have bad := OrderedDict.mem_keys_where state.pendingCloses
    (fun close => decide (close.positionId = "")) id
  rw [normalized_closes, OrderedDict.find_eraseAll, OrderedDict.find_mapEntries, badCloseIds]
  cases found : state.pendingCloses.find? id with
  | none => simp
  | some close =>
    rw [found] at bad
    by_cases unnamed : close.positionId = ""
    · rw [if_pos (bad.mpr ⟨close, rfl, decide_eq_true unnamed⟩)]
      simp [unnamed]
    · have good := mt bad.mp (by
        rintro ⟨other, same, otherUnnamed⟩
        cases same
        exact unnamed (of_decide_eq_true otherUnnamed))
      rw [if_neg good, Option.map_some]
      constructor
      · rintro same
        exact ⟨close, rfl, unnamed, (Option.some.inj same).symm⟩
      · rintro ⟨other, same, _, rfl⟩
        cases same
        rfl

/-! ## A second run -/

/-- The state is a fixed point of every repair of its collections. -/
structure Normalized (state : EngineState) : Prop where
  positions : ∀ entry ∈ state.openPositions.entries, entry.2.Settled
  sorted : state.openPositions.Sorted
  entries : ∀ entry ∈ state.pendingEntries.entries, entry.2.isDropped = false ∧
    ∀ nowMs, entry.2.validated nowMs = entry.2
  closes : ∀ entry ∈ state.pendingCloses.entries, entry.2.positionId ≠ "" ∧
    ∀ nowMs, entry.2.validated nowMs = entry.2

end EngineState

/-- Backfilled timestamps are positive, so they are not backfilled again. -/
theorem PendingEntry.validated_twice (pending : PendingEntry ExactFloat) {nowMs : Int}
    (positive : 0 < nowMs) (laterMs : Int) :
    (pending.validated nowMs).validated laterMs = pending.validated nowMs := by
  by_cases invalid : pending.invalidReason.isSome = true
  · have same : ∀ nowMs, pending.validated nowMs = pending := fun nowMs => if_pos invalid
    rw [same, same]
  · have filled : pending.validated nowMs = pending.backfillTimestamps nowMs := if_neg invalid
    have still : ¬ (pending.backfillTimestamps nowMs).invalidReason.isSome = true := invalid
    rw [filled, validated, if_neg still]
    have created : 0 < (pending.backfillTimestamps nowMs).createdAtMs := by
      simp only [backfillTimestamps]
      split_ifs <;> omega
    have next : 0 < (pending.backfillTimestamps nowMs).reconcileNextAttemptMs := by
      simp only [backfillTimestamps] at created ⊢
      split_ifs at created ⊢ <;> omega
    rw [backfillTimestamps, if_neg (not_le.mpr created), if_neg (not_le.mpr next)]

theorem PendingEntry.dropped_validated (pending : PendingEntry ExactFloat) (nowMs : Int) :
    (pending.validated nowMs).isDropped = pending.isDropped := by
  rw [validated]
  split_ifs <;> rfl

theorem PendingEntry.evidence_validated (pending : PendingEntry ExactFloat) (nowMs : Int) :
    (pending.validated nowMs).hasExchangeEvidence = pending.hasExchangeEvidence := by
  rw [validated]
  split_ifs <;> rfl

theorem PendingClose.validated_twice (close : PendingClose) {nowMs : Int} (positive : 0 < nowMs)
    (laterMs : Int) : (close.validated nowMs).validated laterMs = close.validated nowMs := by
  by_cases unnamed : close.positionId = ""
  · have same : ∀ nowMs, close.validated nowMs = close := fun nowMs => if_pos unnamed
    rw [same, same]
  · have filled : close.validated nowMs = close.backfillTimestamps nowMs := if_neg unnamed
    have still : (close.backfillTimestamps nowMs).positionId ≠ "" := unnamed
    rw [filled, validated, if_neg still]
    have created : 0 < (close.backfillTimestamps nowMs).createdAtMs := by
      simp only [backfillTimestamps]
      split_ifs <;> omega
    have next : 0 < (close.backfillTimestamps nowMs).reconcileNextAttemptMs := by
      simp only [backfillTimestamps] at created ⊢
      split_ifs at created ⊢ <;> omega
    rw [backfillTimestamps, if_neg (not_le.mpr created), if_neg (not_le.mpr next)]

theorem PendingClose.position_validated (close : PendingClose) (nowMs : Int) :
    (close.validated nowMs).positionId = close.positionId := by
  rw [validated]
  split_ifs <;> rfl

namespace EngineState

theorem normalized_of_run (clock : ClockReadings) (state : EngineState) :
    (normalizeEngineState clock state).Normalized := by
  constructor
  · rintro ⟨id, kept⟩ member
    have found := (OrderedDict.mem_entries _ id kept).mp member
    obtain ⟨position, _, notDust, notZero, rfl⟩ :=
      (find_normalized_position clock state id kept).mp found
    exact OpenPosition.settled_of_kept notDust notZero
  · rw [normalized_positions]
    exact OrderedDict.sorted_mapEntries (OrderedDict.sorted_mapEntries
      (OrderedDict.sorted_sortKeys _))
  · rintro ⟨id, kept⟩ member
    have found := (OrderedDict.mem_entries _ id kept).mp member
    obtain ⟨pending, _, stays, rfl⟩ := (find_normalized_entry clock state id kept).mp found
    exact ⟨(pending.dropped_validated _).trans stays,
      pending.validated_twice (clock.atEntry_pos id)⟩
  · rintro ⟨id, kept⟩ member
    have found := (OrderedDict.mem_entries _ id kept).mp member
    obtain ⟨close, _, named, rfl⟩ := (find_normalized_close clock state id kept).mp found
    refine ⟨?_, close.validated_twice (clock.atClose_pos id)⟩
    rw [close.position_validated]
    exact named

/-- The collections that hold exposure and its owners. -/
structure SameCollections (left right : EngineState) : Prop where
  openPositions : left.openPositions = right.openPositions
  pendingResidualRepairs : left.pendingResidualRepairs = right.pendingResidualRepairs
  pendingEntries : left.pendingEntries = right.pendingEntries
  pendingCloses : left.pendingCloses = right.pendingCloses

/-- A run finds nothing to repair in a fixed point. -/
theorem normalized_same {state : EngineState} (normalized : state.Normalized)
    (clock : ClockReadings) : SameCollections (normalizeEngineState clock state) state := by
  have repaired : state.repairedPositions = state := by
    have same : state.openPositions.mapEntries (fun _ position => position.repaired) =
        state.openPositions := by
      apply OrderedDict.mapEntries_same
      intro entry member
      have settled := normalized.positions entry member
      rw [OpenPosition.repaired, settled.stamped, settled.edged, settled.matched]
    rw [repairedPositions, same]
  have noDust : state.dustIds = [] := by
    rw [dustIds, List.map_eq_nil_iff, List.filter_eq_nil_iff]
    intro entry member
    simp [(normalized.positions entry member).notDust]
  have migrated : state.repairedPositions.migrateDust = state := by
    rw [repaired, migrateDust, noDust]
    rfl
  have filtered : state.openPositions.filter (fun _ position => !position.isZero) =
      state.openPositions := by
    apply OrderedDict.filter_same
    intro entry member
    simp [(normalized.positions entry member).notZero]
  have noBadEntries : state.badEntryIds = [] := by
    rw [badEntryIds, List.map_eq_nil_iff, List.filter_eq_nil_iff]
    intro entry member
    simp [(normalized.entries entry member).1]
  have noBadCloses : state.badCloseIds = [] := by
    rw [badCloseIds, List.map_eq_nil_iff, List.filter_eq_nil_iff]
    intro entry member
    simpa using (normalized.closes entry member).1
  constructor
  · rw [normalized_positions, migrated, filtered, OrderedDict.sortKeys_of_sorted normalized.sorted,
      OrderedDict.mapEntries_same (fun entry member => (normalized.positions entry member).peaked),
      OrderedDict.mapEntries_same (fun entry member => (normalized.positions entry member).typed)]
  · rw [normalize_stages, rest_repairs, migrated]
  · rw [normalized_entries, noBadEntries, List.foldl_nil]
    exact OrderedDict.mapEntries_same (fun entry member => (normalized.entries entry member).2 _)
  · rw [normalized_closes, noBadCloses, List.foldl_nil]
    exact OrderedDict.mapEntries_same (fun entry member => (normalized.closes entry member).2 _)

/-! ## Exposure and its owners -/

/-- What held exposure or pointed at an order before is still owned after. -/
structure KeepsExposure (before after : EngineState) : Prop where
  positions : ∀ id position, before.openPositions.find? id = some position →
    position.isExposed = true → (∃ kept, after.openPositions.find? id = some kept ∧
      kept.longQuantity = position.longQuantity ∧ kept.shortQuantity = position.shortQuantity) ∨
      after.HasRepairFor id
  entries : ∀ id pending, before.pendingEntries.find? id = some pending →
    pending.hasExchangeEvidence = true → ∃ kept, after.pendingEntries.find? id = some kept ∧
      kept.hasExchangeEvidence = true
  closes : ∀ id close, before.pendingCloses.find? id = some close → close.carriesOrderId = true →
    ∃ kept, after.pendingCloses.find? id = some kept ∧ kept.longOrderId = close.longOrderId ∧
      kept.shortOrderId = close.shortOrderId

/-- Every exposed position is dust, has a matched quantity (the smaller leg when
none is recorded), or has a repair already; every close with an order id names
its position. -/
structure ExposureIsMatched (state : EngineState) : Prop where
  positions : ∀ id position, state.openPositions.find? id = some position →
    position.isExposed = true → position.isDust = true ∨
      position.ensureMatchedQuantity.isZero = false ∨ state.HasRepairFor id
  closes : ∀ id close, state.pendingCloses.find? id = some close → close.carriesOrderId = true →
    close.positionId ≠ ""

theorem entries_kept (clock : ClockReadings) (state : EngineState) (id : String)
    (pending : PendingEntry ExactFloat) (found : state.pendingEntries.find? id = some pending)
    (evidence : pending.hasExchangeEvidence = true) :
    ∃ kept, (normalizeEngineState clock state).pendingEntries.find? id = some kept ∧
      kept.hasExchangeEvidence = true := by
  have stays : pending.isDropped = false := by
    simp [PendingEntry.isDropped, evidence]
  exact ⟨_, (find_normalized_entry clock state id _).mpr ⟨pending, found, stays, rfl⟩,
    (pending.evidence_validated _).trans evidence⟩

theorem closes_kept_iff (clock : ClockReadings) (state : EngineState) (id : String)
    (close : PendingClose) (found : state.pendingCloses.find? id = some close) :
    (∃ kept, (normalizeEngineState clock state).pendingCloses.find? id = some kept ∧
      kept.longOrderId = close.longOrderId ∧ kept.shortOrderId = close.shortOrderId) ↔
      close.positionId ≠ "" := by
  constructor
  · rintro ⟨kept, known, _⟩
    obtain ⟨other, same, named, _⟩ := (find_normalized_close clock state id kept).mp known
    rw [found] at same
    cases same
    exact named
  · intro named
    refine ⟨_, (find_normalized_close clock state id _).mpr ⟨close, found, named, rfl⟩, ?_⟩
    rw [PendingClose.validated, if_neg named]
    exact ⟨rfl, rfl⟩

theorem position_kept_iff (clock : ClockReadings) (state : EngineState) (id : String)
    (position : OpenPosition) (found : state.openPositions.find? id = some position) :
    ((∃ kept, (normalizeEngineState clock state).openPositions.find? id = some kept ∧
      kept.longQuantity = position.longQuantity ∧ kept.shortQuantity = position.shortQuantity) ∨
      (normalizeEngineState clock state).HasRepairFor id) ↔
      position.isDust = true ∨ position.ensureMatchedQuantity.isZero = false ∨
        state.HasRepairFor id := by
  constructor
  · rintro (⟨kept, known, _⟩ | repair)
    · obtain ⟨other, same, _, notZero, _⟩ := (find_normalized_position clock state id kept).mp known
      rw [found] at same
      cases same
      rw [position.repaired_isZero] at notZero
      exact Or.inr (Or.inl notZero)
    · obtain already | ⟨other, same, dust⟩ := (normalized_repairs clock state id).mp repair
      · exact Or.inr (Or.inr already)
      · rw [found] at same
        cases same
        exact Or.inl dust
  · intro owned
    by_cases dust : position.isDust = true
    · exact Or.inr ((normalized_repairs clock state id).mpr (Or.inr ⟨position, found, dust⟩))
    · obtain isDust | notZero | already := owned
      · exact absurd isDust dust
      · rw [← position.repaired_isZero] at notZero
        have known := (find_normalized_position clock state id _).mpr
          ⟨position, found, by simpa using dust, notZero, rfl⟩
        exact Or.inl ⟨_, known, position.repaired_legs⟩
      · exact Or.inr ((normalized_repairs clock state id).mpr (Or.inl already))

/-- A state whose only position has a long leg and no short one. -/
def oneLegged : EngineState where
  lifecycle := .reconciling
  openPositions := OrderedDict.empty.insert "pos-1"
    { positionId := "pos-1"
      symbol := "BTCUSDT"
      longVenue := .binance
      shortVenue := .okx
      longQuantity := .finite 1
      shortQuantity := .finite 0
      longEntryPrice := .finite 100
      shortEntryPrice := .finite 100
      openedAtMs := 1 }

/-- A clock that stands still. -/
def stoppedClock : ClockReadings where
  atEntry := fun _ => 1
  atClose := fun _ => 1
  atEntry_pos := fun _ => one_pos
  atClose_pos := fun _ => one_pos

end EngineState

end LightFee.Engine
