import LightFee.Persistence.ProjectionWriter

/-!
# Projecting a range again

A range of records that was projected before is projected once more. Fact tables and the event
table keep their first row, and the columns that combine absorb a repeated value. The columns
of the ledgers that are overwritten, and those that take every value that is there, hold the
last value written: the range leaves them alone exactly when it writes that value last itself.
-/

namespace LightFee.Persistence

open UpsertTable

/-! ## The rules -/

namespace SqlValue

theorem least_assoc (first second third : SqlValue) :
    least (least first second) third = least first (least second third) := by
  cases first <;> cases second <;> cases third <;> simp only [least] <;> grind [least]

theorem least_comm (first second : SqlValue) : least first second = least second first := by
  cases first <;> cases second <;> simp only [least] <;> grind

theorem least_self (value : SqlValue) : least value value = value := by
  cases value <;> simp [least]

theorem greatest_assoc (first second third : SqlValue) :
    greatest (greatest first second) third = greatest first (greatest second third) := by
  cases first <;> cases second <;> cases third <;> simp only [greatest] <;> grind [greatest]

theorem greatest_comm (first second : SqlValue) :
    greatest first second = greatest second first := by
  cases first <;> cases second <;> simp only [greatest] <;> grind

theorem greatest_self (value : SqlValue) : greatest value value = value := by
  cases value <;> simp [greatest]

end SqlValue

theorem least_lawful : (Rule.combine SqlValue.least).Lawful :=
  ⟨⟨SqlValue.least_assoc⟩, ⟨SqlValue.least_comm⟩, ⟨SqlValue.least_self⟩⟩

theorem greatest_lawful : (Rule.combine SqlValue.greatest).Lawful :=
  ⟨⟨SqlValue.greatest_assoc⟩, ⟨SqlValue.greatest_comm⟩, ⟨SqlValue.greatest_self⟩⟩

theorem positionLedgerRule_lawful (column : String) : (positionLedgerRule column).Lawful := by
  unfold positionLedgerRule
  split_ifs
  · trivial
  · trivial
  · trivial
  · exact least_lawful
  · exact greatest_lawful
  · trivial

theorem orderLedgerRule_lawful (column : String) : (orderLedgerRule column).Lawful := by
  unfold orderLedgerRule
  split_ifs <;> trivial

theorem replaceRule_lawful (keyColumn column : String) :
    (replaceRule keyColumn column).Lawful := by
  unfold replaceRule
  split_ifs <;> trivial

theorem columnRule_lawful (table : ProjectionTable) (column : String) :
    (columnRule table column).Lawful := by
  cases table with
  | positionLedger => exact positionLedgerRule_lawful column
  | positionPnlFacts => exact replaceRule_lawful _ column
  | orderLedger => exact orderLedgerRule_lawful column
  | fillLedger => exact replaceRule_lawful _ column
  | _ => trivial

/-! ## A range once more -/

/-- The values that records write to one cell, in order. -/
def cellValues (table : ProjectionTable) (key : List SqlValue) (column : String)
    (records : List ProjectionRecord) : List SqlValue :=
  projectionSchema.cellsOf table key column (records.flatMap ProjectionRecord.writes)

/-- In every cell that holds the last value given to it, the part gives none or gives last what
the whole list gives last. -/
def GivesLast (part whole : List ProjectionRecord) : Prop :=
  ∀ table key column given, columnRule table column = .take given →
    lastGiven given (cellValues table key column part) = none ∨
      lastGiven given (cellValues table key column part) =
        lastGiven given (cellValues table key column whole)

/-- A range projected again leaves every row as it is exactly when it gives every such cell its
last value. -/
theorem projected_again_iff (store : ProjectionStore) (before part after : List ProjectionRecord) :
    (∀ table key,
        projectionSchema.rowAt
            (projectRecords (projectRecords store (before ++ part ++ after)) part) table key =
          projectionSchema.rowAt (projectRecords store (before ++ part ++ after)) table key) ↔
      GivesLast part (before ++ part ++ after) := by
  have written := projectionSchema.rewrite_iff columnRule_lawful store
    (before.flatMap ProjectionRecord.writes) (part.flatMap ProjectionRecord.writes)
    (after.flatMap ProjectionRecord.writes)
  rw [← List.flatMap_append, ← List.flatMap_append] at written
  rw [projectRecords_writes store, projectRecords_writes _ part]
  exact written

/-! ## A closed position opens again -/

/-- Records of one run in the order they were written. -/
def OneRun (records : List ProjectionRecord) : Prop :=
  records.Pairwise (fun first second => first.runId = second.runId ∧ first.seq < second.seq)

def positionOpened : ProjectionRecord where
  seq := 1
  runId := "run-a"
  tsMs := 1000
  kind := "entry.opened"
  payload := [("position_id", .str "p1"), ("symbol", .str "BTC")]

def positionClosed : ProjectionRecord where
  seq := 2
  runId := "run-a"
  tsMs := 2000
  kind := "exit.closed"
  payload := [("position_id", .str "p1"), ("symbol", .str "BTC")]

theorem opened_again_state :
    positionState (projectRecords (fun _ => []) [positionOpened, positionClosed]) "p1" =
        some (.text "closed") ∧
      positionState (projectRecords (projectRecords (fun _ => []) [positionOpened, positionClosed])
        [positionOpened]) "p1" = some (.text "open") := by
  decide +kernel

theorem projecting_again_reopens :
    ¬ ∀ before part after : List ProjectionRecord, OneRun (before ++ part ++ after) →
      ∀ table key,
        projectionSchema.rowAt
            (projectRecords (projectRecords (fun _ => []) (before ++ part ++ after)) part)
            table key =
          projectionSchema.rowAt (projectRecords (fun _ => []) (before ++ part ++ after))
            table key := by
  intro harmless
  have ordered : OneRun ([] ++ [positionOpened] ++ [positionClosed]) := by
    simp [OneRun, positionOpened, positionClosed]
  have same := harmless [] [positionOpened] [positionClosed] ordered .positionLedger [.text "p1"]
  obtain ⟨closed, reopened⟩ := opened_again_state
  rw [positionState] at closed reopened
  have both := congrArg (Option.map (fun row => row "state")) same
  rw [List.nil_append, List.singleton_append, closed, reopened] at both
  exact absurd both (by decide)

end LightFee.Persistence
