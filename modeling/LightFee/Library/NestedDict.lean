import LightFee.Library.OrderedDict
import Mathlib.Algebra.BigOperators.Group.List.Basic
import Mathlib.Algebra.Order.Group.Multiset
import Mathlib.Data.List.Induction
import Mathlib.Tactic.Abel

/-!
# Dictionaries of dictionaries

Rows filed under two keys. What all rows weigh together changes with one update by
what the new row weighs and what the row before it weighed. With the rows themselves
as weights this counts what is kept: a row under new keys is added, one under known
keys takes the place of the row before it.
-/

universe u v w

variable {κ : Type u} {κ' : Type v} {ν : Type w} [DecidableEq κ] [DecidableEq κ']
variable {M : Type*} [AddCancelCommMonoid M]

namespace OrderedDict

/-- The weight of all entries. -/
def weigh (weight : κ → ν → M) (dict : OrderedDict κ ν) : M :=
  (dict.entries.map (fun entry => weight entry.1 entry.2)).sum

/-- The weight that is taken away when a key gets another value. -/
def replaced (weight : κ → ν → M) (dict : OrderedDict κ ν) (key : κ) : M :=
  (dict.find? key).elim 0 (weight key)

theorem weigh_put (weight : κ → ν → M) (key : κ) (value : ν) (entries : List (κ × ν)) :
    ((putEntries key value entries).map (fun entry => weight entry.1 entry.2)).sum +
        (lookupEntries key entries).elim 0 (weight key) =
      (entries.map (fun entry => weight entry.1 entry.2)).sum + weight key value := by
  induction entries with
  | nil => simp [putEntries, lookupEntries]
  | cons entry rest ih =>
    obtain ⟨known, old⟩ := entry
    by_cases same : known = key
    · subst same
      simp only [putEntries, lookupEntries, if_true, List.map_cons, List.sum_cons, Option.elim_some]
      abel
    · simp only [putEntries, lookupEntries, if_neg same, List.map_cons, List.sum_cons]
      rw [add_assoc, ih, add_assoc]

theorem weigh_insert (weight : κ → ν → M) (dict : OrderedDict κ ν) (key : κ) (value : ν) :
    (dict.insert key value).weigh weight + dict.replaced weight key =
      dict.weigh weight + weight key value :=
  weigh_put weight key value dict.entries

end OrderedDict

abbrev NestedDict (κ : Type u) (κ' : Type v) (ν : Type w) [DecidableEq κ] [DecidableEq κ'] :=
  OrderedDict κ (OrderedDict κ' ν)

namespace NestedDict

open OrderedDict

/-- The rows under a first key. -/
def inner (dict : NestedDict κ κ' ν) (first : κ) : OrderedDict κ' ν := (dict.find? first).getD .empty

/-- The row under two keys. -/
def row? (dict : NestedDict κ κ' ν) (first : κ) (second : κ') : Option ν :=
  (inner dict first).find? second

/-- `dict.setdefault(first, {})[second] = value`. -/
def put (dict : NestedDict κ κ' ν) (first : κ) (second : κ') (value : ν) : NestedDict κ κ' ν :=
  dict.insert first ((inner dict first).insert second value)

/-- The weight of all rows. -/
def total (weight : κ → κ' → ν → M) (dict : NestedDict κ κ' ν) : M :=
  dict.weigh (fun first rows => rows.weigh (weight first))

theorem row_put (dict : NestedDict κ κ' ν) (first other : κ) (second another : κ') (value : ν) :
    row? (put dict first second value) other another =
      if first = other ∧ second = another then some value else row? dict other another := by
  unfold row? inner put
  rw [find_insert]
  by_cases same : first = other
  · subst same
    simp only [if_true, Option.getD_some, find_insert, true_and, inner]
  · simp [same]

/-- One update of a nested dictionary: the new row's weight comes, the old one's goes. -/
theorem total_put (weight : κ → κ' → ν → M) (dict : NestedDict κ κ' ν) (first : κ) (second : κ')
    (value : ν) :
    total weight (put dict first second value) +
        (row? dict first second).elim 0 (weight first second) =
      total weight dict + weight first second value := by
  have outer := weigh_insert (fun first rows => rows.weigh (weight first)) dict first
    ((inner dict first).insert second value)
  have within := weigh_insert (weight first) (inner dict first) second value
  have before : dict.replaced (fun first rows => rows.weigh (weight first)) first =
      (inner dict first).weigh (weight first) := by
    unfold replaced inner
    cases dict.find? first with
    | none => rfl
    | some rows => rfl
  rw [before] at outer
  apply add_right_cancel (b := (inner dict first).weigh (weight first))
  calc
    total weight (put dict first second value) +
          (row? dict first second).elim 0 (weight first second) +
          (inner dict first).weigh (weight first) =
        (total weight (put dict first second value) + (inner dict first).weigh (weight first)) +
          (inner dict first).replaced (weight first) second := by
      rw [replaced, ← row?]
      abel
    _ = total weight dict + (((inner dict first).insert second value).weigh (weight first) +
          (inner dict first).replaced (weight first) second) := by
      rw [← add_assoc]
      exact congrArg (· + _) outer
    _ = total weight dict + weight first second value +
          (inner dict first).weigh (weight first) := by
      rw [within]
      abel

/-- Everything that the rows give, one first key after the other. -/
def rows {β : Type*} (part : κ → κ' → ν → List β) (dict : NestedDict κ κ' ν) : List β :=
  dict.entries.flatMap (fun entry =>
    entry.2.entries.flatMap (fun inside => part entry.1 inside.1 inside.2))

omit [DecidableEq κ] [DecidableEq κ'] in
theorem coe_flatMap {α β : Type*} (items : List α) (part : α → List β) :
    (↑(items.flatMap part) : Multiset β) = (items.map (fun item => (↑(part item) : Multiset β))).sum := by
  induction items with
  | nil => rfl
  | cons item rest ih =>
    rw [List.flatMap_cons, ← Multiset.coe_add, ih, List.map_cons, List.sum_cons]

theorem coe_rows {β : Type*} (part : κ → κ' → ν → List β) (dict : NestedDict κ κ' ν) :
    (↑(rows part dict) : Multiset β) =
      total (fun first second value => (↑(part first second value) : Multiset β)) dict := by
  unfold rows total weigh
  rw [coe_flatMap]
  apply congrArg List.sum
  apply List.map_congr_left
  intro entry _
  exact coe_flatMap _ _

/-! ## Filing a list of rows -/

section File

variable {α : Type*} (first : α → κ) (second : α → κ') (combine : Option ν → α → ν)

/-- File each item under its keys, given what stands there. -/
def file (dict : NestedDict κ κ' ν) (item : α) : NestedDict κ κ' ν :=
  put dict (first item) (second item) (combine (row? dict (first item) (second item)) item)

def fileAll (items : List α) : NestedDict κ κ' ν := items.foldl (file first second combine) .empty

theorem fileAll_append (items : List α) (item : α) :
    fileAll first second combine (items ++ [item]) =
      file first second combine (fileAll first second combine items) item := by
  simp [fileAll]

/-- Something is filed under two keys exactly when an item has them. -/
theorem row_fileAll (items : List α) (one : κ) (two : κ') :
    (row? (fileAll first second combine items) one two).isSome = true ↔
      ∃ item ∈ items, first item = one ∧ second item = two := by
  induction items using List.reverseRecOn with
  | nil => simp [fileAll, row?, inner]
  | append_singleton items item ih =>
    rw [fileAll_append, file, row_put]
    by_cases here : first item = one ∧ second item = two
    · simp [here]
    · rw [if_neg here, ih]
      constructor
      · rintro ⟨old, member, keys⟩
        exact ⟨old, List.mem_append_left _ member, keys⟩
      · rintro ⟨old, member, keys⟩
        obtain before | same := List.mem_append.mp member
        · exact ⟨old, before, keys⟩
        · rw [List.mem_singleton.mp same] at keys
          exact absurd keys here

/-- Weights that a filed item adds to what stands under its keys add up. -/
theorem total_collected (weight : κ → κ' → ν → M) (own : α → M)
    (adds : ∀ item old, weight (first item) (second item) (combine old item) =
      old.elim 0 (weight (first item) (second item)) + own item) (items : List α) :
    total weight (fileAll first second combine items) = (items.map own).sum := by
  induction items using List.reverseRecOn with
  | nil => rfl
  | append_singleton items item ih =>
    have step := total_put weight (fileAll first second combine items) (first item) (second item)
      (combine (row? (fileAll first second combine items) (first item) (second item)) item)
    rw [adds, ih] at step
    rw [fileAll_append, file, List.map_append, List.sum_append, List.map_singleton,
      List.sum_singleton]
    apply add_right_cancel (step.trans _)
    abel

/-- Without a repeated pair of keys every item is kept. -/
theorem total_distinct (weight : κ → κ' → ν → M) (own : α → M)
    (stands : ∀ item, weight (first item) (second item) (combine none item) = own item)
    (items : List α) (distinct : (items.map (fun item => (first item, second item))).Nodup) :
    total weight (fileAll first second combine items) = (items.map own).sum := by
  induction items using List.reverseRecOn with
  | nil => rfl
  | append_singleton items item ih =>
    rw [List.map_append, List.map_singleton, List.nodup_append] at distinct
    have unknown : row? (fileAll first second combine items) (first item) (second item) = none := by
      rw [← Option.not_isSome_iff_eq_none, row_fileAll]
      rintro ⟨old, member, firsts, seconds⟩
      refine distinct.2.2 (first old, second old) (List.mem_map_of_mem member) _
        (List.mem_singleton_self _) ?_
      rw [firsts, seconds]
    have step := total_put weight (fileAll first second combine items) (first item) (second item)
      (combine none item)
    rw [unknown, Option.elim_none, add_zero, stands, ih distinct.1] at step
    rw [fileAll_append, file, unknown, List.map_append, List.sum_append, List.map_singleton,
      List.sum_singleton]
    exact step

end File

/-! ## Counting -/

section Count

variable {α : Type*} (first : α → κ) (second : α → κ') (combine : Option ν → α → ν)

/-- How many rows there are. -/
def count (dict : NestedDict κ κ' ν) : ℕ := total (fun _ _ _ => 1) dict

/-- One thing for each row makes as many things as rows. -/
theorem length_rows {β : Type*} (part : κ → κ' → ν → β) (dict : NestedDict κ κ' ν) :
    (rows (fun first second value => [part first second value]) dict).length = count dict := by
  simp [rows, count, total, weigh, List.length_flatMap]

theorem count_file (dict : NestedDict κ κ' ν) (item : α) :
    count (file first second combine dict item) +
        (if (row? dict (first item) (second item)).isSome then 1 else 0) = count dict + 1 := by
  have step := total_put (fun _ _ _ => 1) dict (first item) (second item)
    (combine (row? dict (first item) (second item)) item)
  unfold count file
  cases found : row? dict (first item) (second item) with
  | none =>
    rw [found] at step
    simpa using step
  | some old =>
    rw [found] at step
    simpa using step

theorem count_le (items : List α) :
    count (fileAll first second combine items) ≤ items.length := by
  induction items using List.reverseRecOn with
  | nil => exact Nat.zero_le _
  | append_singleton items item ih =>
    have step := count_file first second combine (fileAll first second combine items) item
    rw [fileAll_append, List.length_append, List.length_singleton]
    omega

/-- As many rows as items means that no pair of keys was repeated. -/
theorem distinct_of_count {items : List α}
    (all : count (fileAll first second combine items) = items.length) :
    (items.map (fun item => (first item, second item))).Nodup := by
  induction items using List.reverseRecOn with
  | nil => exact List.nodup_nil
  | append_singleton items item ih =>
    have step := count_file first second combine (fileAll first second combine items) item
    have bound := count_le first second combine items
    rw [fileAll_append, List.length_append, List.length_singleton] at all
    have unknown : ¬ (row? (fileAll first second combine items) (first item)
        (second item)).isSome = true := by
      intro known
      rw [if_pos known] at step
      omega
    rw [if_neg unknown] at step
    rw [List.map_append, List.map_singleton, List.nodup_append]
    refine ⟨ih (by omega), List.nodup_singleton _, ?_⟩
    rintro keys member other single rfl
    obtain ⟨old, inItems, same⟩ := List.mem_map.mp member
    rw [List.mem_singleton] at single
    rw [single, Prod.mk.injEq] at same
    exact unknown ((row_fileAll first second combine items _ _).mpr ⟨old, inItems, same⟩)

end Count

end NestedDict
