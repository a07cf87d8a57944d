import LightFee.Persistence.ProjectionStatements
import Mathlib.Algebra.BigOperators.Group.Finset.Basic
import Mathlib.Algebra.BigOperators.Group.Finset.Piecewise
import Mathlib.Algebra.Order.BigOperators.Group.Finset
import Mathlib.Data.List.Induction

/-!
# Facts over many runs

Each run of the process numbers its records from one. The fact tables know a record by its
number and kind alone, so two runs that have a record of one kind under one number share a row,
and the later record is dropped. A position's row has the state of the last record that opens or
closes it.
-/

namespace LightFee.Persistence

open UpsertTable

/-! ## The journal of many runs -/

/-- What a run appends; the journal numbers it. -/
structure JournalEvent where
  tsMs : Int
  kind : String
  payload : List (String × DynValue)

structure ProcessRun where
  runId : String
  events : List JournalEvent

/-- `Journal.append` of events, after a number of records. -/
def appendEvents (runId : String) : Int → List JournalEvent → List ProjectionRecord
  | _, [] => []
  | seq, event :: rest =>
    { seq := seq + 1, runId, tsMs := event.tsMs, kind := event.kind, payload := event.payload } ::
      appendEvents runId (seq + 1) rest

def ProcessRun.records (run : ProcessRun) : List ProjectionRecord :=
  appendEvents run.runId 0 run.events

def journalHistory (runs : List ProcessRun) : List ProjectionRecord :=
  runs.flatMap ProcessRun.records

namespace ProjectionRecord

/-- A record of the journal by its run and number. -/
def identity (record : ProjectionRecord) : String × Int := (record.runId, record.seq)

/-- What a fact table knows a record by. -/
def anchor (record : ProjectionRecord) : Int × String := (record.seq, record.kind)

def isFact (record : ProjectionRecord) : Bool := record.factTable.isSome

theorem factTable_anchor {first second : ProjectionRecord}
    (same : first.anchor = second.anchor) : first.factTable = second.factTable := by
  obtain ⟨_, _, _, kind, _⟩ := first
  obtain ⟨_, _, _, otherKind, _⟩ := second
  obtain rfl : kind = otherKind := congrArg Prod.snd same
  rfl

end ProjectionRecord

theorem appendEvents_run {runId : String} {seq : Int} {events : List JournalEvent}
    {record : ProjectionRecord} (written : record ∈ appendEvents runId seq events) :
    record.runId = runId ∧ seq < record.seq := by
  induction events generalizing seq with
  | nil => exact absurd written List.not_mem_nil
  | cons event rest ih =>
    rcases List.mem_cons.mp written with rfl | later
    · exact ⟨rfl, by simp⟩
    · obtain ⟨sameRun, above⟩ := ih later
      exact ⟨sameRun, by omega⟩

theorem appendEvents_identities (runId : String) (seq : Int) (events : List JournalEvent) :
    ((appendEvents runId seq events).map ProjectionRecord.identity).Nodup := by
  induction events generalizing seq with
  | nil => exact List.nodup_nil
  | cons event rest ih =>
    refine List.nodup_cons.mpr ⟨?_, ih (seq + 1)⟩
    intro repeated
    obtain ⟨record, written, same⟩ := List.mem_map.mp repeated
    have above := (appendEvents_run written).2
    have number : record.seq = seq + 1 := congrArg Prod.snd same
    omega

/-- The records of runs are told apart by their run and number. -/
theorem journalHistory_identities {runs : List ProcessRun}
    (distinct : (runs.map ProcessRun.runId).Nodup) :
    ((journalHistory runs).map ProjectionRecord.identity).Nodup := by
  induction runs with
  | nil => exact List.nodup_nil
  | cons run rest ih =>
    obtain ⟨fresh, restDistinct⟩ := List.nodup_cons.mp distinct
    rw [journalHistory, List.flatMap_cons, List.map_append, List.nodup_append]
    refine ⟨appendEvents_identities _ _ _, ih restDistinct, ?_⟩
    rintro first here second there rfl
    obtain ⟨record, written, rfl⟩ := List.mem_map.mp here
    obtain ⟨other, listed, same⟩ := List.mem_map.mp there
    obtain ⟨otherRun, known, otherWritten⟩ := List.mem_flatMap.mp listed
    apply fresh
    have names : other.runId = record.runId := congrArg Prod.fst same
    rw [← (appendEvents_run written).1, ← names, (appendEvents_run otherWritten).1]
    exact List.mem_map_of_mem known

/-- Projecting in batches is projecting the records one after another. -/
theorem projectBatches (store : ProjectionStore) (batches : List (List ProjectionRecord)) :
    batches.foldl projectRecords store = projectRecords store batches.flatten := by
  induction batches generalizing store with
  | nil => rfl
  | cons batch rest ih =>
    rw [List.foldl_cons, ih, List.flatten_cons, projectRecords_append]

/-! ## Fact tables -/

def factTables : Finset ProjectionTable :=
  {.orderFacts, .entryExitFacts, .riskCounterFacts, .localL2HealthFacts, .diagnosticFacts}

theorem mem_factTables {table : ProjectionTable} :
    table ∈ factTables ↔ table.isFactTable = true := by
  cases table <;> decide

theorem factTable_isFact {record : ProjectionRecord} {table : ProjectionTable}
    (kind : record.factTable = some table) : table ∈ factTables := by
  unfold ProjectionRecord.factTable at kind
  split_ifs at kind <;> simp only [Option.some.injEq] at kind <;> subst kind <;> decide

def emptyStore : ProjectionStore := fun _ => []

/-- The records of one fact table. -/
def factsOf (table : ProjectionTable) (records : List ProjectionRecord) :
    List ProjectionRecord :=
  records.filter (fun record => record.factTable = some table)

section History

variable {history : List ProjectionRecord} (wellFormed : ∀ record ∈ history, record.WellFormed)

include wellFormed

/-- The rows that are written to a fact table, record by record. -/
theorem fact_rows_history {table : ProjectionTable} (fact : table ∈ factTables) :
    (Schema.rowsOf table (history.flatMap ProjectionRecord.writes)).map
        (fun row => (row "seq", row "kind", row "ts_ms", row "payload_json")) =
      (factsOf table history).map (fun record => (.integer record.seq, .text record.kind,
        .integer record.tsMs, .text record.payloadJson)) := by
  induction history with
  | nil => rfl
  | cons record rest ih =>
    have own := (wellFormed record List.mem_cons_self).fact_rows (mem_factTables.mp fact)
    have others := ih fun other listed =>
      wellFormed other (List.mem_cons_of_mem _ listed)
    rw [List.flatMap_cons, Schema.rowsOf_append, List.map_append, own, others]
    by_cases here : record.factTable = some table
    · simp [factsOf, here]
    · simp [factsOf, here]

theorem fact_rows_length {table : ProjectionTable} (fact : table ∈ factTables) :
    (Schema.rowsOf table (history.flatMap ProjectionRecord.writes)).length =
      (factsOf table history).length := by
  have same := congrArg List.length (fact_rows_history wellFormed fact)
  simpa using same

/-- The keys of a fact table are the anchors of its records. -/
theorem fact_keys_iff {table : ProjectionTable} (fact : table ∈ factTables) :
    ((Schema.rowsOf table (history.flatMap ProjectionRecord.writes)).map
        (projectionSchema.key table)).Nodup ↔
      ((factsOf table history).map ProjectionRecord.anchor).Nodup := by
  have rows := congrArg (List.map (fun shape => [shape.1, shape.2.1]))
    (fact_rows_history wellFormed fact)
  rw [List.map_map, List.map_map] at rows
  have keyed : projectionSchema.key table = (fun shape => [shape.1, shape.2.1]) ∘
      (fun row : SqlRow => (row "seq", row "kind", row "ts_ms", row "payload_json")) := by
    have among := mem_factTables.mp fact
    cases table <;> first | rfl | exact absurd among (by decide)
  have anchored : (fun shape : SqlValue × SqlValue × SqlValue × SqlValue =>
        [shape.1, shape.2.1]) ∘ (fun record : ProjectionRecord => (SqlValue.integer record.seq,
          SqlValue.text record.kind, SqlValue.integer record.tsMs,
            SqlValue.text record.payloadJson)) =
      (fun anchor => [SqlValue.integer anchor.1, SqlValue.text anchor.2]) ∘
        ProjectionRecord.anchor := rfl
  rw [keyed, rows, anchored, ← List.map_map]
  refine List.nodup_map_iff ?_
  rintro ⟨seq, kind⟩ ⟨otherSeq, otherKind⟩ same
  simpa using same

theorem table_length_le {table : ProjectionTable} (fact : table ∈ factTables) :
    (projectRecords emptyStore history table).length ≤ (factsOf table history).length := by
  rw [projectRecords_writes, ← fact_rows_length wellFormed fact]
  exact Schema.length_le_rows _ _ _

theorem table_length_iff {table : ProjectionTable} (fact : table ∈ factTables) :
    (projectRecords emptyStore history table).length = (factsOf table history).length ↔
      ((factsOf table history).map ProjectionRecord.anchor).Nodup := by
  rw [projectRecords_writes, ← fact_rows_length wellFormed fact,
    ← fact_keys_iff wellFormed fact]
  exact Schema.length_eq_rows_iff _ _ _

/-- With distinct anchors a fact table has the row of each of its records. -/
theorem fact_row_present {table : ProjectionTable}
    (distinct : ((factsOf table history).map ProjectionRecord.anchor).Nodup)
    {record : ProjectionRecord} (listed : record ∈ history)
    (kind : record.factTable = some table) :
    ∃ row ∈ projectRecords emptyStore history table, row "kind" = .text record.kind ∧
      row "ts_ms" = .integer record.tsMs ∧ row "payload_json" = .text record.payloadJson := by
  have fact := factTable_isFact kind
  have stored : projectRecords emptyStore history table =
      Schema.rowsOf table (history.flatMap ProjectionRecord.writes) := by
    rw [projectRecords_writes]
    exact Schema.fresh_rows _ ((fact_keys_iff wellFormed fact).mpr distinct)
  have shaped : (SqlValue.integer record.seq, SqlValue.text record.kind,
      SqlValue.integer record.tsMs, SqlValue.text record.payloadJson) ∈
      (Schema.rowsOf table (history.flatMap ProjectionRecord.writes)).map
        (fun row => (row "seq", row "kind", row "ts_ms", row "payload_json")) := by
    rw [fact_rows_history wellFormed fact]
    exact List.mem_map_of_mem (List.mem_filter.mpr ⟨listed, by simpa using kind⟩)
  obtain ⟨row, present, same⟩ := List.mem_map.mp shaped
  simp only [Prod.mk.injEq] at same
  rw [stored]
  exact ⟨row, present, same.2⟩

end History

/-- Distinct anchors can be looked for table by table. -/
theorem anchors_by_table (history : List ProjectionRecord) :
    ((history.filter ProjectionRecord.isFact).map ProjectionRecord.anchor).Nodup ↔
      ∀ table ∈ factTables, ((factsOf table history).map ProjectionRecord.anchor).Nodup := by
  induction history with
  | nil => simp [factsOf]
  | cons record rest ih =>
    cases kind : record.factTable with
    | none =>
      have others : ∀ table, factsOf table (record :: rest) = factsOf table rest := by
        intro table
        simp [factsOf, kind]
      simp only [others, List.filter_cons, ProjectionRecord.isFact, kind]
      exact ih
    | some own =>
      have fact := factTable_isFact kind
      -- a record of the same anchor is a record of the same table
      have met : record.anchor ∈ (rest.filter ProjectionRecord.isFact).map
          ProjectionRecord.anchor ↔
          record.anchor ∈ (factsOf own rest).map ProjectionRecord.anchor := by
        simp only [factsOf, List.mem_map, List.mem_filter, decide_eq_true_eq]
        constructor
        · rintro ⟨other, ⟨listed, _⟩, same⟩
          exact ⟨other, ⟨listed, (ProjectionRecord.factTable_anchor same).trans kind⟩, same⟩
        · rintro ⟨other, ⟨listed, table⟩, same⟩
          exact ⟨other, ⟨listed, by rw [ProjectionRecord.isFact, table]; rfl⟩, same⟩
      have counted : (record :: rest).filter ProjectionRecord.isFact =
          record :: rest.filter ProjectionRecord.isFact := by
        simp [ProjectionRecord.isFact, kind]
      have here : factsOf own (record :: rest) = record :: factsOf own rest := by
        simp [factsOf, kind]
      have elsewhere : ∀ table, table ≠ own →
          factsOf table (record :: rest) = factsOf table rest := by
        intro table other
        simp [factsOf, kind, Ne.symm other]
      rw [counted, List.map_cons, List.nodup_cons, met, ih]
      constructor
      · rintro ⟨fresh, distinct⟩ table among
        by_cases same : table = own
        · rw [same, here, List.map_cons, List.nodup_cons]
          exact ⟨fresh, distinct own fact⟩
        · rw [elsewhere table same]
          exact distinct table among
      · intro distinct
        have ownDistinct := distinct own fact
        rw [here, List.map_cons, List.nodup_cons] at ownDistinct
        refine ⟨ownDistinct.1, fun table among => ?_⟩
        by_cases same : table = own
        · rw [same]
          exact ownDistinct.2
        · rw [← elsewhere table same]
          exact distinct table among

/-- Every fact record is a record of one of the tables. -/
theorem sum_factsOf (history : List ProjectionRecord) :
    ∑ table ∈ factTables, (factsOf table history).length =
      (history.filter ProjectionRecord.isFact).length := by
  induction history with
  | nil => simp [factsOf]
  | cons record rest ih =>
    have counted : ∀ table, (factsOf table (record :: rest)).length =
        (if record.factTable = some table then 1 else 0) + (factsOf table rest).length := by
      intro table
      by_cases here : record.factTable = some table
      · simp [factsOf, here, Nat.add_comm]
      · simp [factsOf, here]
    simp only [counted, Finset.sum_add_distrib, ih]
    cases kind : record.factTable with
    | none => simp [ProjectionRecord.isFact, kind]
    | some own =>
      have fact := factTable_isFact kind
      simp [ProjectionRecord.isFact, kind, fact, Nat.add_comm]

/-- The fact tables have as many rows as there are fact records exactly when no two of these
share number and kind. -/
theorem fact_count_iff {history : List ProjectionRecord}
    (wellFormed : ∀ record ∈ history, record.WellFormed) :
    ∑ table ∈ factTables, (projectRecords emptyStore history table).length =
        (history.filter ProjectionRecord.isFact).length ↔
      ((history.filter ProjectionRecord.isFact).map ProjectionRecord.anchor).Nodup := by
  rw [anchors_by_table, ← sum_factsOf,
    Finset.sum_eq_sum_iff_of_le (fun table fact => table_length_le wellFormed fact)]
  exact forall₂_congr fun table fact => table_length_iff wellFormed fact

/-! ## Positions -/

namespace ProjectionRecord

variable (record : ProjectionRecord) (positionId : String)

def OpensPosition : Prop :=
  positionId ≠ "" ∧ record.strField "position_id" = positionId ∧
    record.kind ∈ ledgerPositionOpenKinds

def ClosesPosition : Prop :=
  positionId ≠ "" ∧ record.strField "position_id" = positionId ∧
    record.kind ∈ ledgerPositionCloseKinds

instance : Decidable (record.OpensPosition positionId) := inferInstanceAs (Decidable (_ ∧ _))

instance : Decidable (record.ClosesPosition positionId) := inferInstanceAs (Decidable (_ ∧ _))

/-- The states that a record writes to a position. -/
def positionStates : List SqlValue :=
  if record.OpensPosition positionId then [.text "open"]
  else if record.ClosesPosition positionId then [.text "closed"] else []

variable {record positionId}

theorem closes_not_opens (closes : record.ClosesPosition positionId) :
    ¬ record.OpensPosition positionId := by
  intro opens
  have apart : ∀ kind ∈ ledgerPositionOpenKinds, kind ∉ ledgerPositionCloseKinds := by decide
  exact apart record.kind opens.2.2 closes.2.2

theorem positionStates_entry :
    ((record.positionEntry.filter (fun entry => entry.1 = .text positionId)).map Prod.snd) =
      record.positionStates positionId := by
  by_cases named : record.strField "position_id" = positionId
  · by_cases empty : positionId = ""
    · simp [positionEntry, positionStates, OpensPosition, ClosesPosition, named, empty]
    · by_cases opens : record.kind ∈ ledgerPositionOpenKinds
      · simp [positionEntry, positionStates, OpensPosition, named, empty, opens]
      · by_cases closes : record.kind ∈ ledgerPositionCloseKinds
        · simp [positionEntry, positionStates, OpensPosition, ClosesPosition, named, empty, opens,
            closes]
        · simp [positionEntry, positionStates, OpensPosition, ClosesPosition, named, empty, opens,
            closes]
  · have none : record.positionStates positionId = [] := by
      simp [positionStates, OpensPosition, ClosesPosition, named]
    rw [none]
    unfold positionEntry
    split_ifs <;> simp [named]

end ProjectionRecord

theorem cell_replaced (values : List SqlValue) : cell replaced none values = values.getLast? := by
  have everything : lastGiven (fun _ : SqlValue => true) values = values.getLast? := by
    simp [lastGiven]
  cases last : values.getLast? with
  | none => rw [List.getLast?_eq_none_iff.mp last]; rfl
  | some value => exact cell_take (everything.trans last)

section Positions

variable {history : List ProjectionRecord} (wellFormed : ∀ record ∈ history, record.WellFormed)

include wellFormed

/-- A position's state is the last that a record writes to it. -/
theorem positionState_last (positionId : String) :
    positionState (projectRecords emptyStore history) positionId =
      (history.flatMap (fun record => record.positionStates positionId)).getLast? := by
  have entries : ∀ records : List ProjectionRecord, (∀ record ∈ records, record.WellFormed) →
      (Schema.rowsOf .positionLedger (records.flatMap ProjectionRecord.writes)).map
          (fun row => (row "position_id", row "state")) =
        records.flatMap ProjectionRecord.positionEntry := by
    intro records fine
    induction records with
    | nil => rfl
    | cons record rest ih =>
      rw [List.flatMap_cons, Schema.rowsOf_append, List.map_append, List.flatMap_cons,
        (fine record List.mem_cons_self).position_rows,
        ih fun other listed => fine other (List.mem_cons_of_mem _ listed)]
  have cells : projectionSchema.cellsOf .positionLedger [.text positionId] "state"
      (history.flatMap ProjectionRecord.writes) =
        history.flatMap (fun record => record.positionStates positionId) := by
    have keyed : projectionSchema.key .positionLedger = fun row => [row "position_id"] := rfl
    have split : projectionSchema.cellsOf .positionLedger [.text positionId] "state"
        (history.flatMap ProjectionRecord.writes) =
          (((Schema.rowsOf .positionLedger (history.flatMap ProjectionRecord.writes)).map
            (fun row => (row "position_id", row "state"))).filter
              (fun entry => entry.1 = .text positionId)).map Prod.snd := by
      rw [Schema.cellsOf, KeyedMerge.group, List.filter_map, List.map_map, keyed]
      simp only [List.cons.injEq, and_true]
      rfl
    rw [split, entries history wellFormed, List.filter_flatMap, List.map_flatMap]
    congr 1
    funext record
    exact ProjectionRecord.positionStates_entry
  rw [positionState, projectRecords_writes, Schema.rowAt_column, cells]
  exact cell_replaced _

end Positions

/-- The last record that opens or closes a position closes it. -/
def ClosedLast (positionId : String) (history : List ProjectionRecord) : Prop :=
  ∃ before closing after, history = before ++ closing :: after ∧
    closing.ClosesPosition positionId ∧
    ∀ later ∈ after, ¬ later.OpensPosition positionId

theorem closedLast_iff (positionId : String) (history : List ProjectionRecord) :
    (history.flatMap (fun record => record.positionStates positionId)).getLast? =
        some (.text "closed") ↔ ClosedLast positionId history := by
  constructor
  · intro last
    induction history using List.reverseRecOn with
    | nil => simp at last
    | append_singleton earlier record ih =>
      rw [List.flatMap_append, List.flatMap_singleton] at last
      by_cases opens : record.OpensPosition positionId
      · simp [ProjectionRecord.positionStates, opens] at last
      by_cases closes : record.ClosesPosition positionId
      · exact ⟨earlier, record, [], rfl, closes, by simp⟩
      · simp only [ProjectionRecord.positionStates, if_neg opens, if_neg closes,
          List.append_nil] at last
        obtain ⟨before, closing, after, split, closed, none⟩ := ih last
        refine ⟨before, closing, after ++ [record], by simp [split], closed, ?_⟩
        intro later listed
        rcases List.mem_append.mp listed with known | single
        · exact none later known
        · rw [List.mem_singleton.mp single]
          exact opens
  · rintro ⟨before, closing, after, rfl, closes, none⟩
    have states : closing.positionStates positionId = [.text "closed"] := by
      rw [ProjectionRecord.positionStates, if_neg (ProjectionRecord.closes_not_opens closes),
        if_pos closes]
    rw [List.flatMap_append, List.flatMap_cons, states, List.getLast?_append,
      List.getLast?_append]
    cases last : (after.flatMap (fun record => record.positionStates positionId)).getLast? with
    | none => rfl
    | some state =>
      obtain ⟨later, listed, written⟩ := List.mem_flatMap.mp (List.mem_of_getLast? last)
      have closed : state = .text "closed" := by
        rw [ProjectionRecord.positionStates, if_neg (none later listed)] at written
        split_ifs at written
        · exact List.mem_singleton.mp written
        · exact absurd written List.not_mem_nil
      rw [closed]
      rfl

/-! ## What the projection keeps -/

/-- The position has a record that opens it and a later one that closes it. -/
def OpenedThenClosed (positionId : String) (history : List ProjectionRecord) : Prop :=
  ∃ opening closing : ProjectionRecord, opening.OpensPosition positionId ∧
    closing.ClosesPosition positionId ∧ [opening, closing].Sublist history

/-- Every fact record has its row, there are as many rows as distinct fact records, and every
position that was opened and later closed is closed. -/
structure KeepsEveryFact (store : ProjectionStore) (history : List ProjectionRecord) : Prop where
  rows : ∀ record ∈ history, ∀ table, record.factTable = some table →
    ∃ row ∈ store table, row "kind" = .text record.kind ∧ row "ts_ms" = .integer record.tsMs ∧
      row "payload_json" = .text record.payloadJson
  count : ∑ table ∈ factTables, (store table).length =
    ((history.filter ProjectionRecord.isFact).map ProjectionRecord.identity).dedup.length
  closed : ∀ positionId, OpenedThenClosed positionId history →
    positionState store positionId = some (.text "closed")

/-- The facts of all runs are kept exactly when no two fact records share number and kind and
no position is opened again after its last close. -/
theorem keeps_every_fact_iff (runs : List ProcessRun)
    (distinct : (runs.map ProcessRun.runId).Nodup)
    (wellFormed : ∀ record ∈ journalHistory runs, record.WellFormed)
    (batches : List (List ProjectionRecord)) (fed : batches.flatten = journalHistory runs) :
    KeepsEveryFact (batches.foldl projectRecords emptyStore) (journalHistory runs) ↔
      (((journalHistory runs).filter ProjectionRecord.isFact).map
          ProjectionRecord.anchor).Nodup ∧
        ∀ positionId, OpenedThenClosed positionId (journalHistory runs) →
          ClosedLast positionId (journalHistory runs) := by
  have facts : (((journalHistory runs).filter ProjectionRecord.isFact).map
      ProjectionRecord.identity).dedup.length =
        ((journalHistory runs).filter ProjectionRecord.isFact).length := by
    have identities : (((journalHistory runs).filter ProjectionRecord.isFact).map
        ProjectionRecord.identity).Nodup :=
      (journalHistory_identities distinct).sublist
        (List.filter_sublist.map ProjectionRecord.identity)
    rw [List.dedup_eq_self.mpr identities, List.length_map]
  have state : ∀ positionId, positionState (projectRecords emptyStore (journalHistory runs))
      positionId = some (.text "closed") ↔ ClosedLast positionId (journalHistory runs) := by
    intro positionId
    rw [positionState_last wellFormed]
    exact closedLast_iff positionId _
  rw [projectBatches, fed]
  constructor
  · intro keeps
    refine ⟨(fact_count_iff wellFormed).mp (keeps.count.trans facts), ?_⟩
    intro positionId closed
    exact (state positionId).mp (keeps.closed positionId closed)
  · rintro ⟨anchors, closed⟩
    refine ⟨?_, ((fact_count_iff wellFormed).mpr anchors).trans facts.symm, ?_⟩
    · intro record listed table kind
      exact fact_row_present wellFormed
        ((anchors_by_table _).mp anchors table (factTable_isFact kind)) listed kind
    · intro positionId both
      exact (state positionId).mpr (closed positionId both)

/-! ## Two runs with one number -/

def submittedEvent (tsMs : Int) (clientOrderId : String) : JournalEvent where
  tsMs
  kind := "order.submitted"
  payload := [("venue", .str "binance"), ("symbol", .str "BTC"),
    ("client_order_id", .str clientOrderId)]

def earlierRun : ProcessRun where
  runId := "run-a"
  events := [submittedEvent 1000 "c1"]

def laterRun : ProcessRun where
  runId := "run-b"
  events := [submittedEvent 9000 "c2"]

theorem submitted_wellFormed :
    ∀ record ∈ journalHistory [earlierRun, laterRun], record.WellFormed := by
  intro record listed
  have texts : ∀ clientOrderId : String, ∀ entry ∈ (submittedEvent 0 clientOrderId).payload,
      ∃ text, entry.2 = .str text := by
    intro clientOrderId entry known
    simp only [submittedEvent, List.mem_cons, List.not_mem_nil, or_false] at known
    rcases known with rfl | rfl | rfl
    · exact ⟨_, rfl⟩
    · exact ⟨_, rfl⟩
    · exact ⟨_, rfl⟩
  simp only [journalHistory, ProcessRun.records, earlierRun, laterRun, appendEvents,
    List.flatMap_cons, List.flatMap_nil, List.append_nil, List.cons_append, List.nil_append,
    List.mem_cons, List.not_mem_nil, or_false] at listed
  rcases listed with rfl | rfl
  · exact ProjectionRecord.wellFormed_texts (by decide) (by decide) (by decide) (texts "c1")
  · exact ProjectionRecord.wellFormed_texts (by decide) (by decide) (by decide) (texts "c2")

/-- The later run's order has no row of its own. -/
theorem facts_of_runs_collide :
    ¬ ∀ (runs : List ProcessRun) (batches : List (List ProjectionRecord)),
      (runs.map ProcessRun.runId).Nodup →
      (∀ record ∈ journalHistory runs, record.WellFormed) →
      batches.flatten = journalHistory runs →
      KeepsEveryFact (batches.foldl projectRecords emptyStore) (journalHistory runs) := by
  intro keeps
  have kept := keeps [earlierRun, laterRun] [journalHistory [earlierRun, laterRun]] (by decide)
    submitted_wellFormed (by simp)
  have collided : ¬ ∑ table ∈ factTables,
      ([journalHistory [earlierRun, laterRun]].foldl projectRecords emptyStore table).length =
        (((journalHistory [earlierRun, laterRun]).filter ProjectionRecord.isFact).map
          ProjectionRecord.identity).dedup.length := by
    decide +kernel
  exact collided kept.count

def openingRun : ProcessRun where
  runId := "run-a"
  events := [{ tsMs := 1000, kind := "entry.opened", payload := [("position_id", .str "p1")] }]

def closingRun : ProcessRun where
  runId := "run-b"
  events := [{ tsMs := 2000, kind := "runtime.booting", payload := [] },
    { tsMs := 3000, kind := "exit.closed", payload := [("position_id", .str "p1")] }]

/-- Two runs that share no anchor: both facts are there and the position is closed. -/
theorem keeps_every_fact_two_runs :
    KeepsEveryFact ([journalHistory [openingRun, closingRun]].foldl projectRecords emptyStore)
      (journalHistory [openingRun, closingRun]) := by
  have written : journalHistory [openingRun, closingRun] =
      openingRun.records ++ closingRun.records := rfl
  refine (keeps_every_fact_iff [openingRun, closingRun] (by decide) ?_
    [journalHistory [openingRun, closingRun]] (by simp)).mpr ⟨by decide +kernel, ?_⟩
  · intro record listed
    rw [written] at listed
    simp only [ProcessRun.records, openingRun, closingRun, appendEvents,
      List.cons_append, List.nil_append, List.mem_cons, List.not_mem_nil, or_false] at listed
    rcases listed with rfl | rfl | rfl
    · exact ProjectionRecord.wellFormed_texts (by decide) (by decide) (by decide) (by simp)
    · exact ProjectionRecord.wellFormed_texts (by decide) (by decide) (by decide) (by simp)
    · exact ProjectionRecord.wellFormed_texts (by decide) (by decide) (by decide) (by simp)
  · rintro positionId ⟨opening, closing, -, closes, both⟩
    have listed := both.subset (List.mem_cons_of_mem _ List.mem_cons_self)
    rw [written] at listed
    simp only [ProcessRun.records, openingRun, closingRun, appendEvents,
      List.cons_append, List.nil_append, List.mem_cons, List.not_mem_nil, or_false] at listed
    rcases listed with rfl | rfl | rfl
    · exact absurd closes.2.2 (by decide)
    · exact absurd closes.2.2 (by decide)
    · exact ⟨(journalHistory [openingRun, closingRun]).take 2, _, [], rfl, closes, by simp⟩

end LightFee.Persistence
