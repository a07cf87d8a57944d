import LightFee.Library.KeyedMerge
import Mathlib.Data.List.Lemmas
import Mathlib.Logic.Function.Basic

/-!
# Tables whose columns merge by rule

Rows are written to tables. A row under a new key is added; under a known key each column
merges its value into the row that is there: it keeps what it has, takes what is given, or
combines both. A write that is repeated is absorbed by a column that keeps or combines; a column
that takes has the last value given to it, so repeating a part of the writes is harmless exactly
when the part gives no value or gives the last one.
-/

namespace UpsertTable

universe u v w x

/-! ## Columns -/

/-- How a column takes a value into a row that is there. -/
inductive Rule (V : Type u) where
  | keep
  /-- Only some values are given at all. -/
  | take (given : V → Bool)
  | combine (operation : V → V → V)

variable {V : Type u}

def Rule.merge : Rule V → V → V → V
  | .keep, old, _ => old
  | .take given, old, new => if given new then new else old
  | .combine operation, old, new => operation old new

/-- A combination that does not depend on order or repetition. -/
def Rule.Lawful : Rule V → Prop
  | .combine operation => Std.Associative operation ∧ Std.Commutative operation ∧
      Std.IdempotentOp operation
  | _ => True

/-- What a column holds after writes; it may hold nothing before the first. -/
def cell (rule : Rule V) (start : Option V) (writes : List V) : Option V :=
  writes.foldl (KeyedMerge.collect rule.merge) start

/-- The last value that is given. -/
def lastGiven (given : V → Bool) (writes : List V) : Option V := (writes.filter given).getLast?

theorem cell_append (rule : Rule V) (start : Option V) (first second : List V) :
    cell rule start (first ++ second) = cell rule (cell rule start first) second :=
  List.foldl_append

theorem cell_some (rule : Rule V) (start : V) (writes : List V) :
    cell rule (some start) writes = some (writes.foldl rule.merge start) :=
  KeyedMerge.collect_fold start writes

theorem lastGiven_append (given : V → Bool) (first second : List V) :
    lastGiven given (first ++ second) = (lastGiven given second).or (lastGiven given first) := by
  rw [lastGiven, List.filter_append, List.getLast?_append, lastGiven, lastGiven]

/-- A column that takes holds the last value given to it. -/
theorem fold_take (given : V → Bool) (start : V) (writes : List V) :
    writes.foldl (Rule.take given).merge start = (lastGiven given writes).getD start := by
  induction writes generalizing start with
  | nil => rfl
  | cons value rest ih =>
    rw [List.foldl_cons, ih,
      show value :: rest = [value] ++ rest from rfl, lastGiven_append]
    by_cases taken : given value = true
    · cases later : lastGiven given rest with
      | none => simp [Rule.merge, lastGiven, taken]
      | some last => simp
    · cases later : lastGiven given rest with
      | none => simp [Rule.merge, lastGiven, taken]
      | some last => simp

theorem cell_take {given : V → Bool} {start : Option V} {writes : List V} {last : V}
    (gives : lastGiven given writes = some last) :
    cell (.take given) start writes = some last := by
  cases start with
  | some start => rw [cell_some, fold_take, gives, Option.getD_some]
  | none =>
    cases writes with
    | nil => simp [lastGiven] at gives
    | cons first rest =>
      change cell (.take given) (some first) rest = some last
      rw [cell_some, fold_take]
      rw [show first :: rest = [first] ++ rest from rfl, lastGiven_append] at gives
      cases later : lastGiven given rest with
      | some value => simpa [later] using gives
      | none =>
        rw [later, Option.none_or] at gives
        have listed := List.mem_of_getLast? gives
        obtain rfl : last = first := by simpa using List.mem_of_mem_filter listed
        rfl

/-- A column that combines absorbs what it combined before. -/
theorem fold_absorbs {operation : V → V → V} (lawful : (Rule.combine operation).Lawful)
    (writes : List V) {start value : V}
    (known : operation start value = start ∨ value ∈ writes) :
    operation (writes.foldl operation start) value = writes.foldl operation start := by
  obtain ⟨associative, commutative, idempotent⟩ := lawful
  induction writes generalizing start with
  | nil => exact known.resolve_right List.not_mem_nil
  | cons first rest ih =>
    rw [List.foldl_cons]
    refine ih ?_
    rcases known with absorbed | listed
    · left
      rw [associative.assoc, commutative.comm first value, ← associative.assoc, absorbed]
    · rcases List.mem_cons.mp listed with rfl | later
      · left
        rw [associative.assoc, idempotent.idempotent]
      · exact .inr later

theorem cell_absorbs {operation : V → V → V} (lawful : (Rule.combine operation).Lawful)
    {start : Option V} {writes : List V} {final value : V}
    (held : cell (.combine operation) start writes = some final) (listed : value ∈ writes) :
    operation final value = final := by
  cases start with
  | some start =>
    rw [cell_some] at held
    obtain rfl := Option.some.inj held
    exact fold_absorbs lawful writes (.inr listed)
  | none =>
    cases writes with
    | nil => exact absurd listed List.not_mem_nil
    | cons first rest =>
      change cell (.combine operation) (some first) rest = some final at held
      rw [cell_some] at held
      obtain rfl := Option.some.inj held
      rcases List.mem_cons.mp listed with rfl | later
      · exact fold_absorbs lawful rest (.inl (lawful.2.2.idempotent _))
      · exact fold_absorbs lawful rest (.inr later)

/-- Repeating a part of the writes changes nothing exactly when a column that takes is given
nothing by the part, or the last value of all. -/
theorem cell_repeat_iff {rule : Rule V} (lawful : rule.Lawful) (start : Option V)
    (before part after : List V) :
    cell rule (cell rule start (before ++ part ++ after)) part =
        cell rule start (before ++ part ++ after) ↔
      ∀ given, rule = .take given → lastGiven given part = none ∨
        lastGiven given part = lastGiven given (before ++ part ++ after) := by
  cases part with
  | nil => simp [cell, lastGiven]
  | cons first rest =>
    obtain ⟨final, held⟩ : ∃ final, cell rule start (before ++ first :: rest ++ after) =
        some final := by
      rw [List.append_assoc, cell_append, List.cons_append]
      exact ⟨_, cell_some rule _ (rest ++ after)⟩
    rw [held, cell_some, Option.some.injEq]
    cases rule with
    | keep =>
      have kept : ∀ writes : List V, writes.foldl (Rule.keep).merge final = final := by
        intro writes
        induction writes with
        | nil => rfl
        | cons _ rest ih => exact ih
      simp [kept]
    | combine operation =>
      have absorbs : ∀ value ∈ first :: rest, operation final value = final :=
        fun value listed => cell_absorbs lawful held
          (List.mem_append_left _ (List.mem_append_right _ listed))
      have kept : ∀ writes : List V, (∀ value ∈ writes, operation final value = final) →
          writes.foldl (Rule.combine operation).merge final = final := by
        intro writes absorbed
        induction writes with
        | nil => rfl
        | cons value rest ih =>
          rw [List.foldl_cons, Rule.merge, absorbed value List.mem_cons_self]
          exact ih fun other listed =>
            absorbed other (List.mem_cons_of_mem _ listed)
      simp [kept _ absorbs]
    | take given =>
      rw [fold_take]
      simp only [Rule.take.injEq, forall_eq']
      cases gives : lastGiven given (first :: rest) with
      | none => simp
      | some value =>
        have whole : ∃ last, lastGiven given (before ++ first :: rest ++ after) = some last := by
          rw [lastGiven_append, lastGiven_append, gives]
          cases lastGiven given after with
          | none => exact ⟨value, rfl⟩
          | some last => exact ⟨last, rfl⟩
        obtain ⟨last, lastOfAll⟩ := whole
        obtain rfl : last = final := Option.some.inj ((cell_take lastOfAll).symm.trans held)
        rw [lastOfAll]
        simp

/-! ## Rows and tables -/

section Tables

variable {τ : Type v} {κ : Type w} {γ : Type x}

def mergeRow (rules : γ → Rule V) (old new : γ → V) : γ → V :=
  fun column => (rules column).merge (old column) (new column)

/-- What each table keys its rows by, and how its columns merge. -/
structure Schema (τ : Type v) (κ : Type w) (γ : Type x) (V : Type u) where
  key : τ → (γ → V) → κ
  rules : τ → γ → Rule V
  keeps : ∀ table old new, key table (mergeRow (rules table) old new) = key table old

abbrev Store (τ : Type v) (γ : Type x) (V : Type u) := τ → List (γ → V)

variable [DecidableEq τ] [DecidableEq κ] (schema : Schema τ κ γ V)

namespace Schema

def write (store : Store τ γ V) (written : τ × (γ → V)) : Store τ γ V :=
  Function.update store written.1
    (KeyedMerge.add (schema.key written.1) (mergeRow (schema.rules written.1)) (store written.1)
      written.2)

def writeAll (store : Store τ γ V) (writes : List (τ × (γ → V))) : Store τ γ V :=
  writes.foldl schema.write store

/-- The row of a key. -/
def rowAt (store : Store τ γ V) (table : τ) (key : κ) : Option (γ → V) :=
  KeyedMerge.find? (schema.key table) (store table) key

/-- The rows that are written to a table. -/
def rowsOf (table : τ) (writes : List (τ × (γ → V))) : List (γ → V) :=
  (writes.filter (fun written => written.1 = table)).map Prod.snd

/-- The values that are written to one cell. -/
def cellsOf (table : τ) (key : κ) (column : γ) (writes : List (τ × (γ → V))) : List V :=
  (KeyedMerge.group (schema.key table) (rowsOf table writes) key).map (fun row => row column)

omit [DecidableEq κ] in
theorem rowsOf_append (table : τ) (first second : List (τ × (γ → V))) :
    rowsOf table (first ++ second) = rowsOf table first ++ rowsOf table second := by
  simp [rowsOf]

theorem cellsOf_append (table : τ) (key : κ) (column : γ) (first second : List (τ × (γ → V))) :
    schema.cellsOf table key column (first ++ second) =
      schema.cellsOf table key column first ++ schema.cellsOf table key column second := by
  simp [cellsOf, rowsOf_append, KeyedMerge.group]

/-- A table takes its own rows. -/
theorem writeAll_table (store : Store τ γ V) (writes : List (τ × (γ → V))) (table : τ) :
    schema.writeAll store writes table =
      KeyedMerge.addAll (schema.key table) (mergeRow (schema.rules table)) (store table)
        (rowsOf table writes) := by
  induction writes generalizing store with
  | nil => rfl
  | cons written rest ih =>
    rw [writeAll, List.foldl_cons]
    refine (ih (schema.write store written)).trans ?_
    by_cases here : written.1 = table
    · subst here
      simp [rowsOf, write, KeyedMerge.addAll]
    · simp [rowsOf, write, here, Function.update_of_ne (Ne.symm here)]

theorem writeAll_append (store : Store τ γ V) (first second : List (τ × (γ → V))) :
    schema.writeAll store (first ++ second) =
      schema.writeAll (schema.writeAll store first) second := List.foldl_append

/-! Tables that are filled from nothing. -/

theorem length_le_rows (writes : List (τ × (γ → V))) (table : τ) :
    (schema.writeAll (fun _ => []) writes table).length ≤ (rowsOf table writes).length := by
  rw [writeAll_table]
  exact KeyedMerge.length_addAll_le (schema.keeps table) _

theorem length_eq_rows_iff (writes : List (τ × (γ → V))) (table : τ) :
    (schema.writeAll (fun _ => []) writes table).length = (rowsOf table writes).length ↔
      ((rowsOf table writes).map (schema.key table)).Nodup := by
  rw [writeAll_table]
  exact KeyedMerge.length_addAll_iff (schema.keeps table) _

theorem fresh_rows {writes : List (τ × (γ → V))} {table : τ}
    (distinct : ((rowsOf table writes).map (schema.key table)).Nodup) :
    schema.writeAll (fun _ => []) writes table = rowsOf table writes := by
  rw [writeAll_table, KeyedMerge.addAll_fresh distinct, List.nil_append]

omit [DecidableEq τ] [DecidableEq κ] in
theorem collect_column (table : τ) (column : γ) (start : Option (γ → V)) (rows : List (γ → V)) :
    (rows.foldl (KeyedMerge.collect (mergeRow (schema.rules table))) start).map
        (fun row => row column) =
      cell (schema.rules table column) (start.map (fun row => row column))
        (rows.map (fun row => row column)) := by
  induction rows generalizing start with
  | nil => rfl
  | cons row rest ih =>
    rw [List.foldl_cons, ih, List.map_cons, cell, cell, List.foldl_cons]
    congr 1
    cases start <;> rfl

/-- A cell is the merge of what is written to it. -/
theorem rowAt_column (store : Store τ γ V) (writes : List (τ × (γ → V))) (table : τ) (key : κ)
    (column : γ) :
    (schema.rowAt (schema.writeAll store writes) table key).map (fun row => row column) =
      cell (schema.rules table column)
        ((schema.rowAt store table key).map (fun row => row column))
        (schema.cellsOf table key column writes) := by
  rw [rowAt, writeAll_table, KeyedMerge.find_addAll (schema.keeps table), collect_column]
  rfl

theorem rowAt_same {left right : Option (γ → V)}
    (columns : ∀ column, left.map (fun row => row column) = right.map (fun row => row column))
    (both : left.isSome = right.isSome) : left = right := by
  cases left with
  | none =>
    cases right with
    | none => rfl
    | some _ => simp at both
  | some left =>
    cases right with
    | none => simp at both
    | some right =>
      congr 1
      funext column
      simpa using columns column

/-- Writing a part of the writes again leaves every row as it is exactly when, in every cell
that takes, the part gives nothing or the last value of all. -/
theorem rewrite_iff [Nonempty γ] (lawful : ∀ table column, (schema.rules table column).Lawful)
    (store : Store τ γ V) (before part after : List (τ × (γ → V))) :
    (∀ table key,
        schema.rowAt (schema.writeAll (schema.writeAll store (before ++ part ++ after)) part)
            table key =
          schema.rowAt (schema.writeAll store (before ++ part ++ after)) table key) ↔
      ∀ table key column given, schema.rules table column = .take given →
        lastGiven given (schema.cellsOf table key column part) = none ∨
          lastGiven given (schema.cellsOf table key column part) =
            lastGiven given (schema.cellsOf table key column (before ++ part ++ after)) := by
  have cells : ∀ table key column,
      ((schema.rowAt (schema.writeAll (schema.writeAll store (before ++ part ++ after)) part)
            table key).map (fun row => row column) =
          (schema.rowAt (schema.writeAll store (before ++ part ++ after)) table key).map
            (fun row => row column)) ↔
        ∀ given, schema.rules table column = .take given →
          lastGiven given (schema.cellsOf table key column part) = none ∨
            lastGiven given (schema.cellsOf table key column part) =
              lastGiven given (schema.cellsOf table key column (before ++ part ++ after)) := by
    intro table key column
    rw [rowAt_column, rowAt_column, cellsOf_append, cellsOf_append]
    exact cell_repeat_iff (lawful table column) _ _ _ _
  constructor
  · intro same table key column
    exact (cells table key column).mp (by rw [same])
  · intro repeats table key
    refine rowAt_same (fun column => (cells table key column).mpr (repeats table key column)) ?_
    obtain ⟨column⟩ := ‹Nonempty γ›
    have shown := (cells table key column).mpr (repeats table key column)
    have known := congrArg Option.isSome shown
    simpa using known

end Schema

end Tables

end UpsertTable
