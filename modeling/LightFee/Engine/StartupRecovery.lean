import LightFee.Engine.NormalizedExposure
import LightFee.Engine.RecoveryObligations
import LightFee.Engine.RollbackReplay
import LightFee.Engine.SnapshotRestore

/-!
# Starting from a snapshot

A start restores the stored state, replays the journal's records after the snapshot's
checkpoint and asks the recovery core, without any exchange truth, what is left to do. The
lifecycle is then set by branches that overlap: a block or an open position makes the engine
reconcile, and an engine that reconciles without work in any queue runs.

The results hold for every replay and for every text of a float, so these are parameters.
What the start journals is read by nobody here and is left out.
-/

namespace LightFee.Engine

open DynValue

/-! ## Records as the recovery core reads them -/

section Attributes

variable (print : ExactFloat → PrintedFloat)

def venueMember (venue : Venues.Venue) : DynValue := .obj [("value", .str venue.value)]

def OpenPosition.attributes (position : OpenPosition) : DynValue :=
  .obj [("position_id", .str position.positionId), ("symbol", .str position.symbol),
    ("long_venue", venueMember position.longVenue),
    ("short_venue", venueMember position.shortVenue),
    ("long_quantity", .float (print position.longQuantity)),
    ("short_quantity", .float (print position.shortQuantity))]

/-- The maker's and the hedge's venue are methods, which the core calls. -/
def PendingEntry.attributes (pending : PendingEntry ExactFloat) : DynValue :=
  let short := pending.makerLeg = "short"
  .obj [("pending_id", .str pending.pendingId), ("symbol", .str pending.symbol),
    ("long_venue", venueMember pending.longVenue), ("short_venue", venueMember pending.shortVenue),
    ("maker_venue", venueMember (if short then pending.shortVenue else pending.longVenue)),
    ("hedge_venue", venueMember (if short then pending.longVenue else pending.shortVenue)),
    ("maker_leg", .str pending.makerLeg), ("maker_order_id", .str pending.makerOrderId),
    ("hedge_order_id", .str pending.hedgeOrderId),
    ("maker_client_order_id", .str pending.makerClientOrderId),
    ("hedge_client_order_id", .str pending.hedgeClientOrderId),
    ("maker_leg_filled", .float (print pending.makerLegFilled)),
    ("hedge_leg_filled", .float (print pending.hedgeLegFilled))]

def PendingPassiveClose.attributes (pending : PendingPassiveClose) : DynValue :=
  .obj [("position_id", .str pending.positionId),
    ("position_snapshot", pending.positionSnapshot.elim .null (OpenPosition.attributes print))]

def RuntimeState.attributes (state : RuntimeState) : DynValue :=
  let engine := state.engine
  .obj [("open_positions", .list (engine.openPositions.values.map (OpenPosition.attributes print))),
    ("pending_entries", .list (engine.pendingEntries.values.map (PendingEntry.attributes print))),
    ("pending_residual_repairs", .list engine.pendingResidualRepairs),
    ("pending_passive_closes",
      .list (engine.pendingPassiveCloses.values.map (PendingPassiveClose.attributes print))),
    ("pending_close_reconciliations", .list state.pendingCloseReconciliations)]

def ExchangeArtifact.attributes (artifact : ExchangeArtifact) : DynValue :=
  .obj [("order_id", .str artifact.orderId), ("client_order_id", .str artifact.clientOrderId)]

def RecoveryWorkItem.attributes (item : RecoveryWorkItem) : DynValue :=
  .obj [("kind", .str item.kind), ("symbol", .str item.symbol),
    ("artifacts", .list (item.artifacts.map ExchangeArtifact.attributes)),
    ("blocking", .bool item.blocking)]

/-- What the core is asked about a restored state. -/
def startupEvidence [TextCase] (state : RuntimeState) : RecoveryEvidenceSnapshot where
  localOpenPositions := (state.attributes print).get "open_positions"
  pendingEntries := (state.attributes print).get "pending_entries"
  residualRepairs := (state.attributes print).get "pending_residual_repairs"
  passiveCloses := (state.attributes print).get "pending_passive_closes"
  exchangeTruth := .null
  priorRecoveryBlockReason := state.engine.recoveryBlockedReason
  operatorFailClosed := state.engine.operator.requestedMode = some .failClosed
  recoveryWorkItems := .list
    ((RecoveryLedger.fromLocalAndExchangeTruth (state.attributes print) .null).workItems.map
      RecoveryWorkItem.attributes)

def startupDecision [TextCase] (state : RuntimeState) : RecoveryDecision :=
  Engine.decide (startupEvidence print state)

end Attributes

/-! ## The start -/

/-- A snapshot file: the fields of the restored records, and the other values it holds. -/
structure StoredSnapshot where
  fields : SnapshotFields
  pendingCloseReconciliations : DynValue := .list []
  tickCount : Int := 0
  journalCheckpoint : DynValue := .null

/-- What the journal's files answer at the start; nothing for a checkpoint that is not among
the retained files. -/
structure StartupJournal where
  readAll : List DynValue := []
  readAfterSnapshotCheckpoint : DynValue → Option (List DynValue) := fun _ => some []

def StoredSnapshot.restore [TextCase] (snapshot : StoredSnapshot) : Option RuntimeState := do
  let engine ← restoreStateFromSnapshotDict snapshot.fields
  return {
    engine := engine
    pendingCloseReconciliations := setPendingCloseReconciliations snapshot.pendingCloseReconciliations
    tickCount := snapshot.tickCount }

/-- Without a snapshot the whole journal is read; a snapshot without a checkpoint, or with one
that is not answered, stands alone. -/
def startupRecords (journal : StartupJournal) : Option StoredSnapshot → List DynValue
  | none => journal.readAll
  | some snapshot =>
    if snapshot.journalCheckpoint.isMapping then
      (journal.readAfterSnapshotCheckpoint snapshot.journalCheckpoint).getD []
    else []

def restoredState [TextCase] : Option StoredSnapshot → Option RuntimeState
  | none => some { engine := {} }
  | some snapshot => snapshot.restore

/-- The lifecycle that the decision leaves. -/
def EngineState.assess (state : EngineState) (decision : RecoveryDecision) (nowMs : Int) :
    EngineState :=
  let blocked := decision.blockReason.any (· ≠ "")
  if blocked && decision.kind = .operatorFailClosedPreserved then
    { state with
      lifecycle := .riskOnly
      recoveryBlockedReason := decision.blockReason
      recoveryBlockedAtMs := nowMs }
  else if blocked || !state.openPositions.isEmpty then { state with lifecycle := .reconciling }
  else state

def EngineState.leaveBooting (state : EngineState) : EngineState :=
  { state with
    lifecycle := if state.lifecycle = .booting then .reconciling else state.lifecycle }

/-- An engine that reconciles without recovery work runs. -/
def EngineState.runWithoutWork (state : EngineState) : EngineState :=
  { state with
    lifecycle := if !needsReconciliation state && state.lifecycle = .reconciling then .running
      else state.lifecycle }

section Start

variable [TextCase] (print : ExactFloat → PrintedFloat)
  (replay : RuntimeState → List DynValue → Option RuntimeState) (clock : ClockReadings)
  (nowMs : Int)

/-- The state that the snapshot and the journal leave, before it is assessed. -/
def loadedState (snapshot : Option StoredSnapshot) (journal : StartupJournal) :
    Option RuntimeState :=
  (restoredState snapshot).bind (fun restored =>
    if (startupRecords journal snapshot).isEmpty then some restored
    else replay restored (startupRecords journal snapshot))

/-- The engine before it is normalised. -/
def RuntimeState.assessed (loaded : RuntimeState) : EngineState :=
  (loaded.engine.assess (startupDecision print loaded) nowMs).leaveBooting.runWithoutWork

def RuntimeState.started (loaded : RuntimeState) : RuntimeState :=
  { loaded with engine := normalizeEngineState clock (loaded.assessed print nowMs) }

/-- `recover_from_snapshot`. -/
def recoverFromSnapshot (snapshot : Option StoredSnapshot) (journal : StartupJournal) :
    Option RuntimeState :=
  (loadedState replay snapshot journal).map (RuntimeState.started print clock nowMs)

end Start

/-! ## What the core decides without exchange truth -/

section Decision

variable (print : ExactFloat → PrintedFloat)

/-- No open position, entry, passive close or residual repair is left. -/
structure EngineState.Idle (state : EngineState) : Prop where
  positions : state.openPositions.entries = []
  entries : state.pendingEntries.entries = []
  passiveCloses : state.pendingPassiveCloses.entries = []
  repairs : state.pendingResidualRepairs = []

/-- An earlier block that account truth alone releases. -/
def EngineState.isLatched (state : EngineState) : Bool :=
  state.recoveryBlockedReason.any accountTruthRequiredBlockReasons.contains

variable {state : RuntimeState}

/-- An idle engine owes the ledger nothing but close reconciliations. -/
def IdleItem (item : RecoveryWorkItem) : Prop :=
  item.kind = "pending_close_reconciliation" ∨
    (item.kind = "ambiguous_exchange_truth" ∧ item.blocking = false)

theorem attributes_positions (default : DynValue) :
    (state.attributes print).get "open_positions" default =
      .list (state.engine.openPositions.values.map (OpenPosition.attributes print)) := rfl

theorem attributes_entries (default : DynValue) :
    (state.attributes print).get "pending_entries" default =
      .list (state.engine.pendingEntries.values.map (PendingEntry.attributes print)) := rfl

theorem attributes_repairs (default : DynValue) :
    (state.attributes print).get "pending_residual_repairs" default =
      .list state.engine.pendingResidualRepairs := rfl

theorem attributes_passiveCloses (default : DynValue) :
    (state.attributes print).get "pending_passive_closes" default =
      .list (state.engine.pendingPassiveCloses.values.map
        (PendingPassiveClose.attributes print)) := rfl

theorem attributes_fills (default : DynValue) :
    (state.attributes print).get "fill_evidence" default = default := rfl

variable [TextCase]

theorem noTruth_incomplete : isCompleteAccountTruth .null = false := by
  simp [isCompleteAccountTruth, exchangeTruthAvailable, isNull]

theorem idle_obligations (idle : state.engine.Idle) :
    ∀ item ∈ obligations (state.attributes print) .null none, IdleItem item := by
  have live : RecoveryLedger.liveObligations
      (RecoveryLedger.indexFor (state.attributes print) none) (state.attributes print) .null =
        [evidenceGapItem] := by
    simp only [RecoveryLedger.liveObligations, attributes_entries, attributes_fills,
      OrderedDict.values, idle.entries, noTruth_incomplete]
    rfl
  intro item member
  rw [obligations, live, List.mem_append] at member
  rcases member with gap | closing
  · rw [List.mem_singleton.mp gap]
    exact .inr ⟨rfl, rfl⟩
  · simp only [RecoveryLedger.closingObligations, attributes_repairs, attributes_passiveCloses,
      OrderedDict.values, idle.repairs, idle.passiveCloses, List.map_nil, DynValue.items,
      List.filterMap_nil, List.nil_append, List.mem_mapIdx] at closing
    obtain ⟨index, inside, rfl⟩ := closing
    exact .inl rfl

theorem idle_items (idle : state.engine.Idle) :
    ∀ item ∈ (RecoveryLedger.fromLocalAndExchangeTruth (state.attributes print) .null).workItems,
      IdleItem item := by
  rw [work_items_eq, addAllWork]
  apply KeyedMerge.forall_addAll
  · exact fun _ _ known => known
  · exact fun _ member => absurd member List.not_mem_nil
  · exact idle_obligations print idle

omit [TextCase] in
theorem attributes_kind (item : RecoveryWorkItem) :
    RecoveryEvidenceSnapshot.itemKind item.attributes = item.kind :=
  textOf_str item.kind

theorem attributes_blocks (item : RecoveryWorkItem) :
    RecoveryEvidenceSnapshot.itemBlocks item.attributes = item.blocking := rfl

theorem evidence_items (idle : state.engine.Idle) :
    ∀ item ∈ (startupEvidence print state).recoveryWorkItems.items,
      ∃ work, IdleItem work ∧ item = work.attributes := by
  intro item member
  obtain ⟨work, listed, rfl⟩ := List.mem_map.mp member
  exact ⟨work, idle_items print idle work listed, rfl⟩

theorem evidence_artifacts (idle : state.engine.Idle) :
    (startupEvidence print state).liveArtifactBlockReason = none := by
  have quiet : (startupEvidence print state).recoveryWorkItems.items.find? (fun item =>
      liveArtifactBlockReasons.contains (RecoveryEvidenceSnapshot.itemKind item) &&
        RecoveryEvidenceSnapshot.itemBlocks item) = none := by
    rw [List.find?_eq_none]
    intro item member
    obtain ⟨work, known, rfl⟩ := evidence_items print idle item member
    have unlisted : liveArtifactBlockReasons.contains work.kind = false := by
      rcases known with kind | ⟨kind, -⟩
      · rw [kind]
        decide
      · rw [kind]
        decide
    rw [attributes_kind, unlisted, Bool.false_and]
    exact Bool.false_ne_true
  have orders : exchangeOpenOrders (startupEvidence print state).exchangeTruth = [] := rfl
  have positions : exchangePositions (startupEvidence print state).exchangeTruth = [] := rfl
  have incomplete : isCompleteAccountTruth (startupEvidence print state).exchangeTruth = false :=
    noTruth_incomplete
  simp only [RecoveryEvidenceSnapshot.liveArtifactBlockReason, quiet, orders, positions, incomplete]
  rfl

theorem evidence_positions (idle : state.engine.Idle) :
    (startupEvidence print state).localOpenPositions.items = [] := by
  simp only [startupEvidence, attributes_positions, OrderedDict.values, idle.positions,
    List.map_nil, DynValue.items]

theorem evidence_queues (idle : state.engine.Idle) :
    hasItems (startupEvidence print state).pendingEntries = false ∧
      hasItems (startupEvidence print state).residualRepairs = false ∧
      hasItems (startupEvidence print state).passiveCloses = false := by
  simp [startupEvidence, attributes_entries, attributes_repairs, attributes_passiveCloses,
    OrderedDict.values, idle.entries, idle.passiveCloses, idle.repairs, hasItems, DynValue.items]

/-- The first blocking work of an idle engine is a close reconciliation, which is managed in the
background. -/
theorem idle_background (idle : state.engine.Idle)
    (blocking : RecoveryEvidenceSnapshot.hasBlockingRecoveryWorkItem
      (startupEvidence print state).recoveryWorkItems = true) :
    (startupEvidence print state).hasOnlyCloseReconciliationWork = true := by
  obtain ⟨entries, repairs, closes⟩ := evidence_queues print idle
  obtain ⟨item, member, blocks⟩ := List.any_eq_true.mp blocking
  have some : (startupEvidence print state).recoveryWorkItems.items.any (fun item =>
      RecoveryEvidenceSnapshot.itemKind item = "pending_close_reconciliation") = true := by
    refine List.any_eq_true.mpr ⟨item, member, ?_⟩
    obtain ⟨work, kind | ⟨-, free⟩, rfl⟩ := evidence_items print idle item member
    · simpa only [attributes_kind, decide_eq_true_eq] using kind
    · exact absurd (free.symm.trans blocks) Bool.false_ne_true
  have all : (startupEvidence print state).recoveryWorkItems.items.all (fun item =>
      RecoveryEvidenceSnapshot.itemKind item = "pending_close_reconciliation" ||
        !RecoveryEvidenceSnapshot.itemBlocks item) = true := by
    refine List.all_eq_true.mpr (fun other listed => ?_)
    obtain ⟨work, kind | ⟨-, free⟩, rfl⟩ := evidence_items print idle other listed
    · simp only [attributes_kind, kind, decide_true, Bool.true_or]
    · simp only [attributes_blocks, free, Bool.not_false, Bool.or_true]
  simp only [RecoveryEvidenceSnapshot.hasOnlyCloseReconciliationWork, evidence_positions print idle,
    entries, repairs, closes, some, all]
  rfl

theorem idle_context (idle : state.engine.Idle) :
    (startupEvidence print state).hasTruthRequiredRecoveryContext = false := by
  have items : RecoveryEvidenceSnapshot.hasTruthRequiredRecoveryWorkItem
      (startupEvidence print state).recoveryWorkItems = false := by
    refine List.any_eq_false.mpr (fun item member => ?_)
    obtain ⟨work, -, rfl⟩ := evidence_items print idle item member
    exact Bool.false_ne_true
  rw [RecoveryEvidenceSnapshot.hasTruthRequiredRecoveryContext, items,
    evidence_positions print idle]
  rfl

/-- An idle engine is blocked by the operator or by a latch, and by nothing else. -/
theorem idle_unblocked (idle : state.engine.Idle)
    (free : state.engine.operator.requestedMode ≠ some .failClosed)
    (unlatched : state.engine.isLatched = false) :
    (startupDecision print state).blockReason = none := by
  have operator : (startupEvidence print state).operatorFailClosed = false :=
    decide_eq_false free
  have latch : (startupEvidence print state).priorRecoveryBlockReason.any
      accountTruthRequiredBlockReasons.contains = false := unlatched
  have unavailable : exchangeTruthAvailable (startupEvidence print state).exchangeTruth = false :=
    rfl
  obtain ⟨entries, repairs, closes⟩ := evidence_queues print idle
  rw [startupDecision, Engine.decide, operator, evidence_artifacts print idle]
  by_cases background : (startupEvidence print state).hasOnlyCloseReconciliationWork = true
  · simp only [background, latch]
    rfl
  · have free : RecoveryEvidenceSnapshot.hasBlockingRecoveryWorkItem
        (startupEvidence print state).recoveryWorkItems = false := by
      by_contra blocking
      exact background (idle_background print idle (by simpa using blocking))
    have without : (startupEvidence print state).hasLocalRecoveryWork = false := by
      rw [RecoveryEvidenceSnapshot.hasLocalRecoveryWork, entries, repairs, closes, free]
      rfl
    simp only [background, latch, without, idle_context print idle, unavailable]
    rfl

theorem operator_blocks (requested : state.engine.operator.requestedMode = some .failClosed) :
    (startupDecision print state).kind = .operatorFailClosedPreserved ∧
      (startupDecision print state).blockReason ≠ none := by
  have operator : (startupEvidence print state).operatorFailClosed = true :=
    decide_eq_true requested
  rw [startupDecision, Engine.decide, operator]
  exact ⟨rfl, Option.some_ne_none _⟩

/-- Entries, repairs and passive closes cannot be proven done without exchange truth. -/
theorem busy_blocked
    (busy : hasItems (startupEvidence print state).pendingEntries = true ∨
      hasItems (startupEvidence print state).residualRepairs = true ∨
      hasItems (startupEvidence print state).passiveCloses = true) :
    (startupDecision print state).blockReason ≠ none := by
  have working : (startupEvidence print state).hasLocalRecoveryWork = true := by
    rw [RecoveryEvidenceSnapshot.hasLocalRecoveryWork]
    rcases busy with entries | repairs | closes
    · rw [entries]
      rfl
    · rw [repairs, Bool.or_true]
      rfl
    · rw [closes, Bool.or_true]
      rfl
  have foreground : (startupEvidence print state).hasOnlyCloseReconciliationWork = false := by
    rw [RecoveryEvidenceSnapshot.hasOnlyCloseReconciliationWork]
    rcases busy with entries | repairs | closes
    · simp [entries]
    · simp [repairs]
    · simp [closes]
  have unavailable : exchangeTruthAvailable (startupEvidence print state).exchangeTruth = false :=
    rfl
  rw [startupDecision, Engine.decide]
  split_ifs
  · exact Option.some_ne_none _
  · cases (startupEvidence print state).liveArtifactBlockReason with
    | some reason => exact Option.some_ne_none _
    | none =>
      simp only [working, foreground, unavailable]
      simp [blockingDecision]

omit [TextCase] in
theorem artifactReason_named {reason : String}
    (listed : liveArtifactBlockReasons.contains reason = true) : reason ≠ "" := by
  rintro rfl
  exact absurd listed (by decide)

theorem artifact_named {snapshot : RecoveryEvidenceSnapshot} {reason : String}
    (blocked : snapshot.liveArtifactBlockReason = some reason) : reason ≠ "" := by
  rw [RecoveryEvidenceSnapshot.liveArtifactBlockReason] at blocked
  split at blocked
  · next item found =>
    cases blocked
    have held := List.find?_some found
    rw [Bool.and_eq_true] at held
    exact artifactReason_named held.1
  · split at blocked
    · next order found =>
      cases blocked
      split_ifs <;> decide
    · dsimp only at blocked
      split_ifs at blocked
      · cases blocked
        decide
      · cases blocked
        decide

omit [TextCase] in
theorem nonEmpty_named {text named : String} (kept : nonEmpty? text = some named) :
    named ≠ "" := by
  rw [nonEmpty?] at kept
  split_ifs at kept with empty
  cases kept
  exact empty

omit [TextCase] in
theorem operatorReason_named {first named : String} {prior : Option String}
    (chosen : (nonEmpty? first).or (prior.bind nonEmpty?) = some named) : named ≠ "" := by
  rcases Option.or_eq_some_iff.mp chosen with given | ⟨-, stored⟩
  · exact nonEmpty_named given
  · obtain ⟨reason, -, kept⟩ := Option.bind_eq_some_iff.mp stored
    exact nonEmpty_named kept

omit [TextCase] in
theorem latched_named {prior : Option String}
    (latched : prior.any accountTruthRequiredBlockReasons.contains = true) :
    prior.getD "" ≠ "" := by
  obtain ⟨reason, rfl, listed⟩ := (Option.any_eq_true ..).mp latched
  rintro rfl
  exact absurd listed (by decide)

/-- A block has a name. -/
theorem block_named {snapshot : RecoveryEvidenceSnapshot} {reason : String}
    (blocked : (Engine.decide snapshot).blockReason = some reason) : reason ≠ "" := by
  rw [Engine.decide] at blocked
  split_ifs at blocked
  · cases blocked
    cases prior : (nonEmpty? snapshot.operatorFailClosedReason).or
        (snapshot.priorRecoveryBlockReason.bind nonEmpty?) with
    | none => decide
    | some named => exact operatorReason_named prior
  · cases artifact : snapshot.liveArtifactBlockReason with
    | some found =>
      rw [artifact] at blocked
      cases blocked
      exact artifact_named artifact
    | none =>
      rw [artifact] at blocked
      dsimp only at blocked
      split_ifs at blocked with background waiting latched
      · cases blocked
      · cases blocked
        rw [Bool.and_eq_true] at latched
        exact latched_named latched.1
      all_goals
        cases blocked
        try decide

theorem unblocked_queues (unblocked : (startupDecision print state).blockReason = none) :
    state.engine.pendingEntries.entries = [] ∧
      state.engine.pendingPassiveCloses.entries = [] ∧
      state.engine.pendingResidualRepairs = [] := by
  have calm := mt (busy_blocked print) (not_not.mpr unblocked)
  simpa [startupEvidence, attributes_entries, attributes_repairs, attributes_passiveCloses,
    OrderedDict.values, hasItems, DynValue.items, and_comm, and_left_comm] using calm

end Decision

/-! ## What normalising leaves of an idle engine -/

namespace EngineState

/-- Migration leaves the controls alone. -/
theorem migrate_controls (ids : List String) (state : EngineState) :
    (ids.foldl migrateDustPosition state).lifecycle = state.lifecycle ∧
      (ids.foldl migrateDustPosition state).operator = state.operator := by
  induction ids generalizing state with
  | nil => exact ⟨rfl, rfl⟩
  | cons first rest ih =>
    have step : (state.migrateDustPosition first).lifecycle = state.lifecycle ∧
        (state.migrateDustPosition first).operator = state.operator := by
      cases found : state.openPositions.find? first with
      | none => simp [migrateDustPosition, found]
      | some position => simp [migrateDustPosition, found]
    rw [List.foldl_cons, (ih _).1, (ih _).2]
    exact step

theorem normalized_operator (clock : ClockReadings) (state : EngineState) :
    (normalizeEngineState clock state).operator = state.operator := by
  rw [normalize_stages]
  exact (migrate_controls _ state.repairedPositions).2

theorem rest_lifecycle (clock : ClockReadings) (cleaned : EngineState) :
    (cleaned.settleRest clock).lifecycle =
      if (cleaned.pendingEntries.entries.filter (fun entry => entry.2.isRetained)).isEmpty then
        cleaned.lifecycle
      else .riskOnly := rfl

/-- Normalising may block an engine, and never starts one. -/
theorem normalized_running {clock : ClockReadings} {state : EngineState}
    (running : (normalizeEngineState clock state).lifecycle = .running) :
    state.lifecycle = .running := by
  have same : state.repairedPositions.migrateDust.lifecycle = state.lifecycle :=
    (migrate_controls _ state.repairedPositions).1
  rw [normalize_stages, rest_lifecycle] at running
  split_ifs at running
  rw [← same, running]

/-- Without positions there is no dust to migrate. -/
theorem nothing_migrated {state : EngineState} (without : state.openPositions.entries = []) :
    state.repairedPositions.migrateDust = state.repairedPositions := by
  have noDust : state.repairedPositions.dustIds = [] := by
    simp only [dustIds, repairedPositions, OrderedDict.mapEntries, without, List.map_nil,
      List.filter_nil]
  rw [migrateDust, noDust, List.foldl_nil]

theorem normalized_idle (clock : ClockReadings) {state : EngineState} (idle : state.Idle) :
    (normalizeEngineState clock state).Idle := by
  rw [normalize_stages, nothing_migrated idle.positions]
  constructor
  · simp only [rest_positions, repairedPositions, OrderedDict.mapEntries, OrderedDict.filter,
      OrderedDict.sortKeys, idle.positions, List.map_nil, List.filter_nil, List.insertionSort_nil]
  · have noneBad : state.repairedPositions.badEntryIds = [] := by
      simp only [badEntryIds, repairedPositions, idle.entries, List.filter_nil, List.map_nil]
    rw [rest_entries, noneBad, List.foldl_nil]
    simp only [OrderedDict.mapEntries, repairedPositions, idle.entries, List.map_nil]
  · change ((state.repairedPositions.pendingPassiveCloses).mapEntries _).entries = []
    simp only [OrderedDict.mapEntries, repairedPositions, idle.passiveCloses, List.map_nil]
  · rw [rest_repairs]
    exact idle.repairs

theorem normalized_without_closes (clock : ClockReadings) {state : EngineState}
    (positions : state.openPositions.entries = []) (closes : state.pendingCloses.entries = []) :
    (normalizeEngineState clock state).pendingCloses.entries = [] := by
  have noneBad : state.repairedPositions.badCloseIds = [] := by
    simp only [badCloseIds, repairedPositions, closes, List.filter_nil, List.map_nil]
  rw [normalize_stages, nothing_migrated positions, rest_closes, noneBad, List.foldl_nil]
  simp only [OrderedDict.mapEntries, repairedPositions, closes, List.map_nil]

end EngineState

/-! ## The lifecycle after a start -/

section Lifecycle

variable [TextCase] (print : ExactFloat → PrintedFloat)

section Assessed

variable (loaded : RuntimeState) (nowMs : Int)

/-- Assessing changes the lifecycle and the block. -/
theorem assessed_frame : (loaded.assessed print nowMs).operator = loaded.engine.operator ∧
    (loaded.assessed print nowMs).openPositions = loaded.engine.openPositions ∧
    (loaded.assessed print nowMs).pendingEntries = loaded.engine.pendingEntries ∧
    (loaded.assessed print nowMs).pendingCloses = loaded.engine.pendingCloses ∧
    (loaded.assessed print nowMs).pendingPassiveCloses = loaded.engine.pendingPassiveCloses ∧
    (loaded.assessed print nowMs).pendingResidualRepairs =
      loaded.engine.pendingResidualRepairs := by
  rw [RuntimeState.assessed, EngineState.runWithoutWork, EngineState.leaveBooting,
    EngineState.assess]
  dsimp only
  split_ifs <;> exact ⟨rfl, rfl, rfl, rfl, rfl, rfl⟩

end Assessed

variable {loaded : RuntimeState} {nowMs : Int}

theorem assessed_idle (idle : loaded.engine.Idle) : (loaded.assessed print nowMs).Idle := by
  obtain ⟨-, positions, entries, -, passiveCloses, repairs⟩ := assessed_frame print loaded nowMs
  exact ⟨by rw [positions, idle.positions], by rw [entries, idle.entries],
    by rw [passiveCloses, idle.passiveCloses], by rw [repairs, idle.repairs]⟩

theorem startup_blocked_iff :
    (startupDecision print loaded).blockReason.any (· ≠ "") = true ↔
      (startupDecision print loaded).blockReason ≠ none := by
  cases blocked : (startupDecision print loaded).blockReason with
  | none => simp
  | some reason => simp [block_named blocked]

omit [TextCase] in
theorem resolved_idle {engine : EngineState} (resolved : needsReconciliation engine = false) :
    engine.Idle ∧ engine.pendingCloses.entries = [] := by
  simp only [needsReconciliation, OrderedDict.isEmpty, Bool.or_eq_false_iff, Bool.not_eq_false',
    List.isEmpty_iff] at resolved
  obtain ⟨⟨⟨⟨positions, entries⟩, closes⟩, passiveCloses⟩, repairs⟩ := resolved
  exact ⟨⟨positions, entries, passiveCloses, repairs⟩, closes⟩

omit [TextCase] in
theorem idle_resolved {engine : EngineState} (idle : engine.Idle)
    (closes : engine.pendingCloses.entries = []) : needsReconciliation engine = false := by
  simp [needsReconciliation, OrderedDict.isEmpty, idle.positions, idle.entries,
    idle.passiveCloses, idle.repairs, closes]

omit [TextCase] in
theorem assess_work (engine : EngineState) (decision : RecoveryDecision) :
    needsReconciliation (engine.assess decision nowMs).leaveBooting = needsReconciliation engine := by
  rw [EngineState.leaveBooting, EngineState.assess]
  split_ifs <;> rfl

theorem assess_operator (nowMs : Int)
    (requested : loaded.engine.operator.requestedMode = some .failClosed) :
    (loaded.engine.assess (startupDecision print loaded) nowMs).lifecycle = .riskOnly := by
  obtain ⟨kind, blocked⟩ := operator_blocks print requested
  have named := (startup_blocked_iff print).mpr blocked
  rw [EngineState.assess]
  rw [named, kind]
  rfl

theorem assess_running
    (running : (loaded.engine.assess (startupDecision print loaded) nowMs).lifecycle = .running) :
    (startupDecision print loaded).blockReason = none ∧
      loaded.engine.openPositions.entries = [] ∧ loaded.engine.lifecycle = .running := by
  rw [EngineState.assess] at running
  split_ifs at running with operator blocked
  rw [Bool.not_eq_true, Bool.or_eq_false_iff, Bool.not_eq_false', OrderedDict.isEmpty,
    List.isEmpty_iff] at blocked
  obtain ⟨unblocked, positions⟩ := blocked
  refine ⟨?_, positions, running⟩
  by_contra reason
  exact Bool.false_ne_true (unblocked.symm.trans ((startup_blocked_iff print).mpr reason))

/-- What an engine that comes up running has left, by whether any queue held work: without work
it runs from any lifecycle that reconciles, with work only from one that ran before. -/
theorem assessed_running (running : (loaded.assessed print nowMs).lifecycle = .running) :
    loaded.engine.operator.requestedMode ≠ some .failClosed ∧ loaded.engine.Idle ∧
      (loaded.engine.lifecycle ≠ .running → loaded.engine.pendingCloses.entries = []) := by
  have free : loaded.engine.operator.requestedMode ≠ some .failClosed := by
    intro requested
    have risky := assess_operator print nowMs requested
    simp [RuntimeState.assessed, EngineState.runWithoutWork, EngineState.leaveBooting,
      risky] at running
  cases work : needsReconciliation loaded.engine with
  | false =>
    obtain ⟨idle, closes⟩ := resolved_idle work
    exact ⟨free, idle, fun _ => closes⟩
  | true =>
    have assessed : (loaded.engine.assess (startupDecision print loaded) nowMs).lifecycle =
        .running := by
      rw [RuntimeState.assessed, EngineState.runWithoutWork, assess_work, work] at running
      simp only [Bool.not_true, Bool.false_and, Bool.false_eq_true, if_false,
        EngineState.leaveBooting] at running
      split_ifs at running
      exact running
    obtain ⟨unblocked, positions, ran⟩ := assess_running print assessed
    obtain ⟨entries, passiveCloses, repairs⟩ := unblocked_queues print unblocked
    exact ⟨free, ⟨positions, entries, passiveCloses, repairs⟩, fun stopped => absurd ran stopped⟩

variable (replay : RuntimeState → List DynValue → Option RuntimeState) (clock : ClockReadings)

/-- What holds of an engine that comes up running from a loaded state. -/
structure RunsClean (snapshot : Option StoredSnapshot) (journal : StartupJournal)
    (restored loaded recovered : RuntimeState) : Prop where
  operator : recovered.engine.operator.requestedMode ≠ some .failClosed
  idle : recovered.engine.Idle
  resolved : loaded.engine.lifecycle ≠ .running → needsReconciliation recovered.engine = false
  unblocked : loaded.engine.isLatched = false → (startupDecision print loaded).blockReason = none
  replayed : startupRecords journal snapshot ≠ [] →
    replay restored (startupRecords journal snapshot) = some loaded
  answered : ∀ stored, snapshot = some stored → stored.journalCheckpoint.isMapping = true →
    ∀ records, journal.readAfterSnapshotCheckpoint stored.journalCheckpoint = some records →
      startupRecords journal snapshot = records
  alone : ∀ stored, snapshot = some stored → stored.journalCheckpoint.isMapping = true →
    journal.readAfterSnapshotCheckpoint stored.journalCheckpoint = none → loaded = restored

/-- An engine that comes up running has no position, entry, passive close or residual repair and
no operator's block. It has no pending close either unless it ran already, and no other block
unless it was latched. -/
theorem start_runs_clean (snapshot : Option StoredSnapshot) (journal : StartupJournal)
    {recovered : RuntimeState}
    (recovers : recoverFromSnapshot print replay clock nowMs snapshot journal = some recovered)
    (running : recovered.engine.lifecycle = .running) :
    ∃ restored loaded, restoredState snapshot = some restored ∧
      loadedState replay snapshot journal = some loaded ∧
      RunsClean print replay snapshot journal restored loaded recovered := by
  obtain ⟨loaded, loads, rfl⟩ := Option.map_eq_some_iff.mp recovers
  obtain ⟨restored, restores, replays⟩ := Option.bind_eq_some_iff.mp loads
  have before := EngineState.normalized_running running
  obtain ⟨free, idle, closes⟩ := assessed_running print before
  refine ⟨restored, loaded, restores, loads, ?_, ?_, ?_, idle_unblocked print idle free,
    ?_, ?_, ?_⟩
  · rw [RuntimeState.started, EngineState.normalized_operator]
    exact (assessed_frame print loaded nowMs).1 ▸ free
  · exact EngineState.normalized_idle clock (assessed_idle print idle)
  · intro stopped
    have assessed : (loaded.assessed print nowMs).Idle := assessed_idle print idle
    apply idle_resolved (EngineState.normalized_idle clock assessed)
    apply EngineState.normalized_without_closes clock assessed.positions
    rw [(assessed_frame print loaded nowMs).2.2.2.1, closes stopped]
  · intro some
    rwa [List.isEmpty_eq_false_iff.mpr some] at replays
  · rintro stored rfl mapping records answered
    rw [startupRecords, if_pos mapping, answered, Option.getD_some]
  · rintro stored rfl mapping unanswered
    have none : startupRecords journal (some stored) = [] := by
      rw [startupRecords, if_pos mapping, unanswered, Option.getD_none]
    rw [none] at replays
    exact (Option.some.inj replays).symm

end Lifecycle

/-! ## Starts that come up running -/

section Runs

local instance plainTexts : TextCase := TextCase.ascii

def printZero (_ : ExactFloat) : PrintedFloat := ⟨"0", .finite 0, by decide +kernel⟩

def keepState (state : RuntimeState) (_ : List DynValue) : Option RuntimeState := some state

def firstTick : ClockReadings where
  atEntry _ := 1
  atClose _ := 1
  atEntry_pos _ := Int.one_pos
  atClose_pos _ := Int.one_pos

/-- A snapshot of a running engine without work. -/
def quietSnapshot : StoredSnapshot where
  fields
    | .lifecycle => some (.str "running")
    | _ => none

def startOf (snapshot : StoredSnapshot) (journal : StartupJournal) : Option RuntimeState :=
  recoverFromSnapshot printZero keepState firstTick 1 (some snapshot) journal

/-- The snapshot with a checkpoint. -/
def checkedSnapshot : StoredSnapshot :=
  { quietSnapshot with journalCheckpoint := .dict [("version", .int 1), ("offset", .int 0)] }

/-- A journal with a record after the checkpoint that the replay passes over. -/
def answeringJournal : StartupJournal where
  readAfterSnapshotCheckpoint _ := some [.dict [("kind", .str "scan.completed")]]

theorem quiet_start_runs : ∃ recovered, startOf checkedSnapshot answeringJournal = some recovered ∧
    ∃ restored loaded, restoredState (some checkedSnapshot) = some restored ∧
      loadedState keepState (some checkedSnapshot) answeringJournal = some loaded ∧
      RunsClean printZero keepState (some checkedSnapshot) answeringJournal restored loaded
        recovered := by
  have up : (startOf checkedSnapshot answeringJournal).map (fun state => state.engine.lifecycle) =
      some .running := by
    decide +kernel
  obtain ⟨recovered, recovers, running⟩ := Option.map_eq_some_iff.mp up
  exact ⟨recovered, recovers, start_runs_clean printZero keepState firstTick
    (some checkedSnapshot) answeringJournal recovers running⟩

/-- A stored block that account truth alone releases. -/
def latchedSnapshot : StoredSnapshot where
  fields
    | .lifecycle => some (.str "risk_only")
    | .recoveryBlockedReason => some (.str "unpaired_live_position")
    | _ => none

/-- A running engine with a pending close. -/
def closingSnapshot : StoredSnapshot where
  fields
    | .lifecycle => some (.str "running")
    | .pendingCloses => some (.table [("c", .fields (fun
      | .positionId => some (.str "p")
      | _ => none))])
    | _ => none

/-- An unanswered checkpoint, a latch and a pending close each come up running. -/
theorem starts_run_with_work :
    ((startOf checkedSnapshot { readAfterSnapshotCheckpoint := fun _ => none }).map
        (fun state => state.engine.lifecycle) = some .running ∧
      checkedSnapshot.journalCheckpoint.isMapping = true) ∧
    ((startOf latchedSnapshot {}).map (fun state => state.engine.lifecycle) = some .running ∧
      (loadedState keepState (some latchedSnapshot) {}).bind
        (fun loaded => (startupDecision printZero loaded).blockReason) =
          some "unpaired_live_position") ∧
    (startOf closingSnapshot {}).map
      (fun state => (state.engine.lifecycle, needsReconciliation state.engine)) =
        some (.running, true) := by
  decide +kernel

end Runs

end LightFee.Engine
