import LightFee.Persistence.JournalReplay

/-!
# A replay composes

What a record does to the positions, the lifecycle and the risk mode does not
depend on the pending work beside them, and a seed restores exactly these. So a
replay may stop anywhere and go on from the state it reached.
-/

namespace LightFee.Persistence

/-- What the next replay is seeded with. -/
def ReplayResult.seed (result : ReplayResult) : SeedState where
  lifecycle := some result.finalLifecycle
  riskMode := some result.finalRiskMode
  openPositions := result.positions.entries.map (fun entry => (entry.1, some entry.2.toFields))

/-- The part of a result that a split of the records does not change. -/
structure ReplayView where
  positions : OrderedDict DictKey ReplayPosition
  openPositionIds : List DictKey
  finalLifecycle : String
  finalRiskMode : String

def ReplayResult.view (result : ReplayResult) : ReplayView where
  positions := result.positions
  openPositionIds := result.openPositionIds
  finalLifecycle := result.finalLifecycle
  finalRiskMode := result.finalRiskMode

/-- The view of a core, when its ids can be sorted. -/
def ReplayCore.view (core : ReplayCore) : Option ReplayView := do
  return {
    positions := core.positions
    openPositionIds := ← DictKey.sorted core.openIds
    finalLifecycle := core.lifecycle
    finalRiskMode := core.riskMode }

theorem result_view (state : ReplayState) : state.result.map ReplayResult.view = state.core.view := by
  unfold ReplayState.result ReplayCore.view
  cases DictKey.sorted state.core.openIds <;> rfl

/-! ## The core does not look at the work -/

namespace ReplayState

section Core

variable {left right : ReplayState} (same : left.core = right.core) (record : JournalRecord)

include same

theorem opened_core : (left.opened record).map core = (right.opened record).map core := by
  unfold opened
  by_cases named : (record.get "position_id" (.str "")).truthy = true
  · simp [named, same, Option.map_bind]
  · simp [named, same]

theorem closed_core : (left.closed record).map core = (right.closed record).map core := by
  simp [closed, same, Option.map_bind]

theorem patch_core (change : ReplayPosition → Option ReplayPosition) :
    (left.patch record change).map core = (right.patch record change).map core := by
  unfold patch
  dsimp only
  split_ifs
  · cases dictKey (record.get "position_id" (.str "")) with
    | none => rfl
    | some key =>
        simp only [same, Option.bind_eq_bind, Option.bind_some]
        cases right.core.positions.find? key with
        | none => exact congrArg some same
        | some position => simp [Option.map_bind]
  · exact congrArg some same

theorem pending_registered_core :
    (left.pendingRegistered record).map core = (right.pendingRegistered record).map core := by
  unfold pendingRegistered
  dsimp only
  split_ifs <;> simp [same, Option.map_bind]

theorem pending_close_registered_core :
    (left.pendingCloseRegistered record).map core =
      (right.pendingCloseRegistered record).map core := by
  unfold pendingCloseRegistered
  dsimp only
  split_ifs <;> simp [same, Option.map_bind]

theorem close_reconciliation_core :
    (left.closeReconciliationRegistered record).core =
      (right.closeReconciliationRegistered record).core := by
  unfold closeReconciliationRegistered
  dsimp only
  split_ifs <;> simp [same]

theorem reclassified_core : (left.reclassified record).core = (right.reclassified record).core := by
  unfold reclassified
  dsimp only
  split_ifs <;> exact same

theorem scan_completed_core :
    (left.scanCompleted record).map core = (right.scanCompleted record).map core := by
  simp [scanCompleted, same, Option.map_bind]

omit same in
@[simp] theorem note_timeline_core (state : ReplayState) :
    (state.noteTimeline record).core = state.core := by
  unfold noteTimeline
  split_ifs <;> rfl

/-- One record takes equal cores to equal cores, or raises on both. -/
theorem replay_core : (left.replay record).map core = (right.replay record).map core := by
  have noted : (left.noteTimeline record).core = (right.noteTimeline record).core := by
    simpa using same
  unfold replay
  cases roleOf record.kind with
  | opened => exact opened_core noted record
  | closed => exact closed_core noted record
  | partialClosed => exact patch_core noted record _
  | partialReconciled => exact patch_core noted record _
  | pendingEntry => exact pending_registered_core noted record
  | pendingClose => exact pending_close_registered_core noted record
  | closeReconciliation => exact congrArg some (close_reconciliation_core noted record)
  | reclassified => exact congrArg some (reclassified_core noted record)
  | lifecycle =>
      dsimp only
      split_ifs <;> simp [same]
  | riskMode =>
      dsimp only
      split_ifs <;> simp [same]
  | scan => exact scan_completed_core noted record
  | recovery => exact congrArg some noted
  | risk => exact congrArg some noted
  | other => exact congrArg some noted

end Core

/-- A run of records depends on the core it starts from only. -/
theorem replay_all_core (records : List JournalRecord) {left right : ReplayState}
    (same : left.core = right.core) :
    (records.foldlM replay left).map core = (records.foldlM replay right).map core := by
  induction records generalizing left right with
  | nil => exact congrArg some same
  | cons record rest ih =>
      have step := replay_core same record
      simp only [List.foldlM_cons, Option.bind_eq_bind]
      cases first : left.replay record with
      | none =>
          cases second : right.replay record with
          | none => rfl
          | some after => simp [first, second] at step
      | some after =>
          cases second : right.replay record with
          | none => simp [first, second] at step
          | some other =>
              rw [first, second] at step
              exact ih (Option.some.inj step)

/-! ## The ids are the positions' keys -/

/-- The open ids are the keys of the positions, in their order. -/
def Indexed (core : ReplayCore) : Prop := core.openIds = core.positions.keys

theorem put_indexed {core : ReplayCore} (indexed : Indexed core) (key : DictKey)
    (position : ReplayPosition) : Indexed (core.put key position) := by
  rw [Indexed, ReplayCore.put, OrderedDict.keys_insert, setAdd, indexed]

theorem drop_indexed {core : ReplayCore} (indexed : Indexed core) (key : DictKey) :
    Indexed (core.drop key) := by
  rw [Indexed, ReplayCore.drop, OrderedDict.keys_erase, setDiscard, indexed]

/-- What one record can do to the core. -/
inductive CoreStep (before : ReplayCore) : ReplayCore → Prop where
  | put (key : DictKey) (position : ReplayPosition) : CoreStep before (before.put key position)
  | drop (key : DictKey) : CoreStep before (before.drop key)
  | patch (key : DictKey) (position changed : ReplayPosition)
      (found : before.positions.find? key = some position) :
      CoreStep before { before with positions := before.positions.insert key changed }
  | mode (lifecycle riskMode : String) :
      CoreStep before { before with lifecycle := lifecycle, riskMode := riskMode }

theorem CoreStep.stay (core : ReplayCore) : CoreStep core core :=
  .mode core.lifecycle core.riskMode

theorem patch_step {state after : ReplayState} {record : JournalRecord}
    {change : ReplayPosition → Option ReplayPosition}
    (patched : state.patch record change = some after) : CoreStep state.core after.core := by
  unfold patch at patched
  dsimp only at patched
  split_ifs at patched
  · cases keyed : dictKey (record.get "position_id" (.str "")) with
    | none => simp [keyed] at patched
    | some key =>
        simp only [keyed, Option.bind_eq_bind, Option.bind_some] at patched
        cases found : state.core.positions.find? key with
        | none =>
            rw [found] at patched
            cases patched
            exact .stay _
        | some position =>
            simp only [found, Option.bind_eq_some_iff] at patched
            obtain ⟨changed, -, patched⟩ := patched
            cases patched
            exact .patch key position changed found
  · cases patched
    exact .stay _

theorem opened_step {state after : ReplayState} {record : JournalRecord}
    (replayed : state.opened record = some after) : CoreStep state.core after.core := by
  unfold opened at replayed
  by_cases named : (record.get "position_id" (.str "")).truthy = true
  · simp only [named, if_true, Option.bind_eq_bind, Option.bind_eq_some_iff, Option.pure_def,
      Option.some.injEq] at replayed
    obtain ⟨position, -, key, -, rfl⟩ := replayed
    exact .put key position
  · simp only [named, Bool.false_eq_true, if_false, Option.pure_def, Option.some.injEq] at replayed
    obtain rfl := replayed
    exact .stay _

theorem closed_step {state after : ReplayState} {record : JournalRecord}
    (replayed : state.closed record = some after) : CoreStep state.core after.core := by
  simp only [closed, Option.bind_eq_bind, Option.bind_eq_some_iff, Option.pure_def,
    Option.some.injEq] at replayed
  obtain ⟨key, -, rfl⟩ := replayed
  dsimp only
  split_ifs
  · exact .drop key
  · exact .stay _

theorem pending_registered_keeps {state after : ReplayState} {record : JournalRecord}
    (replayed : state.pendingRegistered record = some after) : after.core = state.core := by
  unfold pendingRegistered at replayed
  dsimp only at replayed
  split_ifs at replayed
  · obtain ⟨key, -, replayed⟩ := Option.bind_eq_some_iff.mp replayed
    cases replayed
    rfl
  · cases replayed
    rfl

theorem pending_close_registered_keeps {state after : ReplayState} {record : JournalRecord}
    (replayed : state.pendingCloseRegistered record = some after) : after.core = state.core := by
  unfold pendingCloseRegistered at replayed
  dsimp only at replayed
  split_ifs at replayed
  · obtain ⟨key, -, replayed⟩ := Option.bind_eq_some_iff.mp replayed
    cases replayed
    rfl
  · obtain ⟨key, -, replayed⟩ := Option.bind_eq_some_iff.mp replayed
    cases replayed
    rfl
  · cases replayed
    rfl

theorem scan_completed_keeps {state after : ReplayState} {record : JournalRecord}
    (replayed : state.scanCompleted record = some after) : after.core = state.core := by
  simp only [scanCompleted, Option.bind_eq_bind, Option.bind_eq_some_iff, Option.pure_def,
    Option.some.injEq] at replayed
  obtain ⟨candidates, -, blocked, -, accepted, -, rfl⟩ := replayed
  rfl

theorem close_reconciliation_step (state : ReplayState) (record : JournalRecord) :
    CoreStep state.core (state.closeReconciliationRegistered record).core := by
  unfold closeReconciliationRegistered
  dsimp only
  split_ifs
  · exact .drop _
  · exact .stay _
  · exact .drop _
  · exact .stay _

/-- One record takes one step of the core. -/
theorem replay_step {state after : ReplayState} {record : JournalRecord}
    (replayed : state.replay record = some after) : CoreStep state.core after.core := by
  rw [← note_timeline_core record state]
  unfold replay at replayed
  generalize state.noteTimeline record = start at replayed ⊢
  dsimp only at replayed
  cases role : roleOf record.kind with
  | opened =>
      rw [role] at replayed
      exact opened_step replayed
  | closed =>
      rw [role] at replayed
      exact closed_step replayed
  | partialClosed =>
      rw [role] at replayed
      exact patch_step replayed
  | partialReconciled =>
      rw [role] at replayed
      exact patch_step replayed
  | pendingEntry =>
      rw [role] at replayed
      rw [pending_registered_keeps replayed]
      exact .stay _
  | pendingClose =>
      rw [role] at replayed
      rw [pending_close_registered_keeps replayed]
      exact .stay _
  | closeReconciliation =>
      rw [role] at replayed
      cases replayed
      exact close_reconciliation_step start record
  | reclassified =>
      rw [role] at replayed
      cases replayed
      rw [reclassified]
      split_ifs <;> exact .stay _
  | lifecycle =>
      rw [role] at replayed
      cases replayed
      split_ifs
      · exact .mode _ start.core.riskMode
      · exact .stay _
  | riskMode =>
      rw [role] at replayed
      cases replayed
      split_ifs
      · exact .mode start.core.lifecycle _
      · exact .stay _
  | scan =>
      rw [role] at replayed
      rw [scan_completed_keeps replayed]
      exact .stay _
  | recovery =>
      rw [role] at replayed
      cases replayed
      exact .stay _
  | risk =>
      rw [role] at replayed
      cases replayed
      exact .stay _
  | other =>
      rw [role] at replayed
      cases replayed
      exact .stay _

theorem step_indexed {before after : ReplayCore} (step : CoreStep before after)
    (indexed : Indexed before) : Indexed after := by
  cases step with
  | put key position => exact put_indexed indexed key position
  | drop key => exact drop_indexed indexed key
  | patch key position changed found =>
      have listed : key ∈ before.positions.keys :=
        (OrderedDict.mem_keys _ _).mpr ⟨position, found⟩
      rw [Indexed, OrderedDict.keys_insert, if_pos listed]
      exact indexed
  | mode lifecycle riskMode => exact indexed

theorem replay_all_indexed (records : List JournalRecord) {state after : ReplayState}
    (replayed : records.foldlM replay state = some after) (indexed : Indexed state.core) :
    Indexed after.core := by
  induction records generalizing state with
  | nil =>
      cases replayed
      exact indexed
  | cons record rest ih =>
      rw [List.foldlM_cons] at replayed
      obtain ⟨next, first, later⟩ := Option.bind_eq_some_iff.mp replayed
      exact ih later (step_indexed (replay_step first) indexed)

end ReplayState

/-! ## Sorted ids -/

theorem sorted_perm {keys listed : List DictKey} (sorted : DictKey.sorted keys = some listed) :
    listed.Perm keys := by
  unfold DictKey.sorted at sorted
  split_ifs at sorted
  · cases sorted
    exact List.mergeSort_perm keys _

/-! ## Seeds -/

open ReplayState

theorem seed_position_indexed {before after : ReplayCore} {entry : DictKey × Option Fields}
    (seeded : seedPosition before entry = some after) (indexed : Indexed before) :
    Indexed after := by
  unfold seedPosition at seeded
  cases fields : entry.2 with
  | none =>
      rw [fields] at seeded
      cases seeded
      exact indexed
  | some pdata =>
      rw [fields] at seeded
      obtain ⟨position, -, rfl⟩ := Option.map_eq_some_iff.mp seeded
      exact put_indexed indexed _ _

theorem seed_all_indexed (entries : List (DictKey × Option Fields)) {before after : ReplayCore}
    (seeded : entries.foldlM seedPosition before = some after) (indexed : Indexed before) :
    Indexed after := by
  induction entries generalizing before with
  | nil =>
      cases seeded
      exact indexed
  | cons entry rest ih =>
      rw [List.foldlM_cons] at seeded
      obtain ⟨next, first, later⟩ := Option.bind_eq_some_iff.mp seeded
      exact ih later (seed_position_indexed first indexed)

theorem seeded_indexed {seed : Option SeedState} {state : ReplayState}
    (seeded : seededState seed = some state) : Indexed state.core := by
  cases seed with
  | none =>
      cases seeded
      rfl
  | some seed =>
      obtain ⟨core, folded, seeded⟩ := Option.bind_eq_some_iff.mp seeded
      cases seeded
      exact seed_all_indexed _ folded rfl

/-- Seeding with positions puts them back in their order. -/
theorem seed_positions (entries : List (DictKey × ReplayPosition)) (core : ReplayCore)
    (indexed : Indexed core)
    (distinct : ((core.positions.entries ++ entries).map Prod.fst).Nodup) :
    ∃ after, (entries.map (fun entry => (entry.1, some entry.2.toFields))).foldlM
        seedPosition core = some after ∧
      after.positions.entries = core.positions.entries ++ entries ∧ Indexed after ∧
      after.lifecycle = core.lifecycle ∧ after.riskMode = core.riskMode := by
  induction entries generalizing core with
  | nil => exact ⟨core, rfl, (List.append_nil _).symm, indexed, rfl, rfl⟩
  | cons entry rest ih =>
      have absent : entry.1 ∉ core.positions.entries.map Prod.fst := by
        intro listed
        rw [List.map_append, List.nodup_append] at distinct
        exact distinct.2.2 _ listed _ List.mem_cons_self rfl
      have placed : (core.put entry.1 entry.2).positions.entries =
          core.positions.entries ++ [entry] := OrderedDict.put_absent absent
      obtain ⟨after, folded, whole, rest⟩ := ih (core.put entry.1 entry.2)
        (put_indexed indexed _ _) (by rw [placed, List.append_assoc]; exact distinct)
      refine ⟨after, ?_, ?_, rest⟩
      · rw [List.map_cons, List.foldlM_cons]
        simp only [seedPosition, normalize_to_fields, Option.map_some]
        exact folded
      · rw [whole, placed, List.append_assoc]
        rfl

theorem finished_core {state : ReplayState} {result : ReplayResult}
    (finished : state.result = some result) :
    result.positions = state.core.positions ∧
      DictKey.sorted state.core.openIds = some result.openPositionIds ∧
      result.openPositionCount = state.core.openIds.length ∧
      result.finalLifecycle = state.core.lifecycle ∧
      result.finalRiskMode = state.core.riskMode := by
  unfold ReplayState.result at finished
  obtain ⟨ids, sorted, finished⟩ := Option.bind_eq_some_iff.mp finished
  cases finished
  exact ⟨rfl, sorted, rfl, rfl, rfl⟩

/-- The seed of a result restores the core it was taken from. -/
theorem seed_restores {state : ReplayState} {result : ReplayResult}
    (finished : state.result = some result) (indexed : Indexed state.core) :
    seededState (some result.seed) = some { core := state.core } := by
  obtain ⟨positions, -, -, lifecycle, riskMode⟩ := finished_core finished
  obtain ⟨after, folded, entries, indexedAfter, sameLifecycle, sameRiskMode⟩ :=
    seed_positions state.core.positions.entries
      { lifecycle := state.core.lifecycle, riskMode := state.core.riskMode } rfl
      state.core.positions.distinct
  have restored : after = state.core := by
    have same : after.positions = state.core.positions := OrderedDict.ext_entries entries
    have ids : after.openIds = state.core.openIds := by
      rw [indexedAfter, indexed, same]
    cases after
    cases core : state.core
    simp_all
  rw [← restored]
  simp only [seededState, ReplayResult.seed, lifecycle, riskMode, positions, Option.getD_some,
    folded]
  rfl

/-- The view of a run from some state. -/
theorem run_view (records : List JournalRecord) (state : ReplayState) :
    ((records.foldlM replay state).bind ReplayState.result).map ReplayResult.view =
      ((records.foldlM replay state).map core).bind ReplayCore.view := by
  cases records.foldlM replay state with
  | none => rfl
  | some final => exact result_view final

/-- Replaying a list of records is replaying a first part, and the rest from the
seed that the first part leaves. Every result lists the keys of its positions. -/
theorem replay_composes (seed : Option SeedState) (first second : List JournalRecord)
    (result : ReplayResult) (replayed : replayJournalRecords first seed = some result) :
    (replayJournalRecords (first ++ second) seed).map ReplayResult.view =
        (replayJournalRecords second (some result.seed)).map ReplayResult.view ∧
      result.openPositionIds.Perm result.positions.keys ∧
      result.openPositionCount = result.positions.keys.length := by
  unfold replayJournalRecords at replayed
  obtain ⟨start, seeded, replayed⟩ := Option.bind_eq_some_iff.mp replayed
  obtain ⟨final, ran, finished⟩ := Option.bind_eq_some_iff.mp replayed
  have indexed : Indexed final.core := replay_all_indexed first ran (seeded_indexed seeded)
  obtain ⟨positions, sorted, count, -, -⟩ := finished_core finished
  refine ⟨?_, ?_, ?_⟩
  · have whole : (first ++ second).foldlM replay start = second.foldlM replay final := by
      rw [List.foldlM_append, ran]
      rfl
    have restored := seed_restores finished indexed
    simp only [replayJournalRecords, seeded, restored, Option.bind_eq_bind, Option.bind_some, whole]
    have same : (second.foldlM replay final).map core =
        (second.foldlM replay { core := final.core }).map core := replay_all_core second rfl
    rw [run_view, run_view, same]
  · rw [positions, ← indexed]
    exact sorted_perm sorted
  · rw [count, positions, indexed]

/-- An opened position, and its partial close. -/
def openedRecord : JournalRecord where
  kind := "entry.opened"
  payload := [("position_id", .str "p1"), ("symbol", .str "BTCUSDT"), ("quantity", .int 2)]

def partialRecord : JournalRecord where
  kind := "exit.partial_closed"
  payload := [("position_id", .str "p1"), ("quantity", .int 1)]

theorem replay_composes_opened :
    ∃ result, replayJournalRecords [openedRecord] none = some result ∧
      result.positions.keys = [.text "p1"] ∧
      (replayJournalRecords ([openedRecord] ++ [partialRecord]) none).map ReplayResult.view =
        (replayJournalRecords [partialRecord] (some result.seed)).map ReplayResult.view ∧
      result.openPositionIds.Perm result.positions.keys ∧
      result.openPositionCount = result.positions.keys.length := by
  have keyed : (replayJournalRecords [openedRecord] none).map (fun result => result.positions.keys) =
      some [.text "p1"] := by decide +kernel
  obtain ⟨result, replayed, keys⟩ := Option.map_eq_some_iff.mp keyed
  exact ⟨result, replayed, keys, replay_composes none [openedRecord] [partialRecord] result replayed⟩

end LightFee.Persistence
