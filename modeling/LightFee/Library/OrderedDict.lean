import Mathlib.Algebra.BigOperators.Group.List.Basic
import Mathlib.Data.List.Nodup
import Mathlib.Data.List.Perm.Basic
import Mathlib.Data.List.Sort

/-!
# Insertion-ordered dictionaries

A finite map that remembers the order in which its keys first arrived. Writing
an existing key keeps its place and replaces its value; a new key goes to the
end; erasing a key forgets its place. Distinctness of the keys is carried by
the structure, so a lookup never has to choose between two entries.

Reasoning goes through `find?`: one equation for each operation, and a
dictionary's entries are determined by its lookups up to order.
-/

universe u v w

/-- A finite map with a place for every key. -/
structure OrderedDict (κ : Type u) (ν : Type v) where
  entries : List (κ × ν)
  distinct : (entries.map Prod.fst).Nodup

namespace OrderedDict

variable {κ : Type u} {ν : Type v} {ω : Type w} [DecidableEq κ]

/-- The value of the first entry with this key. -/
def lookupEntries (key : κ) : List (κ × ν) → Option ν
  | [] => none
  | (other, value) :: rest => if other = key then some value else lookupEntries key rest

/-- Replace the value at a known key, or append an entry for a new one. -/
def putEntries (key : κ) (value : ν) : List (κ × ν) → List (κ × ν)
  | [] => [(key, value)]
  | (other, old) :: rest =>
    if other = key then (other, value) :: rest else (other, old) :: putEntries key value rest

theorem mem_keys_put (key : κ) (value : ν) (entries : List (κ × ν)) (tested : κ) :
    tested ∈ (putEntries key value entries).map Prod.fst ↔
      tested = key ∨ tested ∈ entries.map Prod.fst := by
  induction entries with
  | nil => simp [putEntries]
  | cons entry rest ih =>
    obtain ⟨other, old⟩ := entry
    by_cases same : other = key
    · subst same
      simp [putEntries]
    · have step : tested ∈ (putEntries key value ((other, old) :: rest)).map Prod.fst ↔
          tested = other ∨ tested ∈ (putEntries key value rest).map Prod.fst := by
        simp [putEntries, same]
      rw [step, ih, List.map_cons, List.mem_cons]
      exact or_left_comm

theorem put_distinct (key : κ) (value : ν) (entries : List (κ × ν))
    (distinct : (entries.map Prod.fst).Nodup) :
    ((putEntries key value entries).map Prod.fst).Nodup := by
  induction entries with
  | nil => simp [putEntries]
  | cons entry rest ih =>
    obtain ⟨other, old⟩ := entry
    obtain ⟨absent, restDistinct⟩ := List.nodup_cons.mp distinct
    by_cases same : other = key
    · simpa [putEntries, same] using distinct
    · have stillAbsent : other ∉ (putEntries key value rest).map Prod.fst := by
        rw [mem_keys_put]
        rintro (equal | member)
        · exact same equal
        · exact absent member
      simpa [putEntries, same] using And.intro stillAbsent (ih restDistinct)

theorem lookup_put (key : κ) (value : ν) (entries : List (κ × ν)) (tested : κ) :
    lookupEntries tested (putEntries key value entries) =
      if key = tested then some value else lookupEntries tested entries := by
  induction entries with
  | nil => rfl
  | cons entry rest ih =>
    obtain ⟨other, old⟩ := entry
    by_cases same : other = key
    · subst same
      by_cases hit : other = tested <;> simp [putEntries, lookupEntries, hit]
    · by_cases hit : other = tested
      · subst hit
        simp [putEntries, lookupEntries, same, Ne.symm same]
      · simp [putEntries, lookupEntries, same, hit, ih]

theorem lookup_eq_none (entries : List (κ × ν)) (key : κ) :
    lookupEntries key entries = none ↔ key ∉ entries.map Prod.fst := by
  induction entries with
  | nil => simp [lookupEntries]
  | cons entry rest ih =>
    obtain ⟨other, old⟩ := entry
    by_cases same : other = key
    · simp [lookupEntries, same]
    · simp [lookupEntries, same, Ne.symm same, ih]

/-- With distinct keys a lookup returns exactly the stored entry. -/
theorem mem_iff_lookup (entries : List (κ × ν)) (distinct : (entries.map Prod.fst).Nodup)
    (key : κ) (value : ν) : (key, value) ∈ entries ↔ lookupEntries key entries = some value := by
  induction entries with
  | nil => simp [lookupEntries]
  | cons entry rest ih =>
    obtain ⟨other, old⟩ := entry
    obtain ⟨absent, restDistinct⟩ := List.nodup_cons.mp distinct
    by_cases same : other = key
    · subst same
      have notBelow : (other, value) ∉ rest := fun member =>
        absent (List.mem_map.mpr ⟨_, member, rfl⟩)
      simp [lookupEntries, notBelow, eq_comm]
    · have notHead : (key, value) ≠ (other, old) := fun equal =>
        same (congrArg Prod.fst equal).symm
      simp [lookupEntries, same, notHead, ih restDistinct]

/-- No keys. -/
def empty : OrderedDict κ ν := ⟨[], List.nodup_nil⟩

/-- `dict.get(key)`. -/
def find? (dict : OrderedDict κ ν) (key : κ) : Option ν := lookupEntries key dict.entries

/-- `dict[key] = value`. -/
def insert (dict : OrderedDict κ ν) (key : κ) (value : ν) : OrderedDict κ ν :=
  ⟨putEntries key value dict.entries, put_distinct key value dict.entries dict.distinct⟩

/-- `dict.pop(key, None)`. -/
def erase (dict : OrderedDict κ ν) (key : κ) : OrderedDict κ ν where
  entries := dict.entries.filter (fun entry => decide (entry.1 ≠ key))
  distinct := dict.distinct.sublist (List.filter_sublist.map Prod.fst)

/-- `key in dict`. -/
def contains (dict : OrderedDict κ ν) (key : κ) : Bool := (dict.find? key).isSome

/-- `not dict`. -/
def isEmpty (dict : OrderedDict κ ν) : Bool := dict.entries.isEmpty

/-- Keys in order of arrival. -/
def keys (dict : OrderedDict κ ν) : List κ := dict.entries.map Prod.fst

/-- Values in order of their keys' arrival. -/
def values (dict : OrderedDict κ ν) : List ν := dict.entries.map Prod.snd

/-- Write a list of entries one after another. -/
def insertAll (dict : OrderedDict κ ν) (entries : List (κ × ν)) : OrderedDict κ ν :=
  entries.foldl (fun current entry => current.insert entry.1 entry.2) dict

theorem keys_put (key : κ) (value : ν) (entries : List (κ × ν)) :
    (putEntries key value entries).map Prod.fst =
      if key ∈ entries.map Prod.fst then entries.map Prod.fst
      else entries.map Prod.fst ++ [key] := by
  induction entries with
  | nil => rfl
  | cons entry rest ih =>
      by_cases here : entry.1 = key
      · simp [putEntries, here]
      · have other : key ≠ entry.1 := fun same => here same.symm
        simp only [putEntries, if_neg here, List.map_cons, ih, List.mem_cons, other,
          false_or]
        split_ifs <;> rfl

theorem put_absent {key : κ} {value : ν} {entries : List (κ × ν)}
    (absent : key ∉ entries.map Prod.fst) :
    putEntries key value entries = entries ++ [(key, value)] := by
  induction entries with
  | nil => rfl
  | cons entry rest ih =>
      rw [List.map_cons, List.mem_cons, not_or] at absent
      rw [putEntries, if_neg (fun same => absent.1 same.symm), ih absent.2]
      rfl

/-- A key arrives last, and keeps its place when it is written again. -/
theorem keys_insert (dict : OrderedDict κ ν) (key : κ) (value : ν) :
    (dict.insert key value).keys = if key ∈ dict.keys then dict.keys else dict.keys ++ [key] :=
  keys_put key value dict.entries

theorem mem_keys_insert (dict : OrderedDict κ ν) (key : κ) (value : ν) (tested : κ) :
    tested ∈ (dict.insert key value).keys ↔ tested = key ∨ tested ∈ dict.keys :=
  mem_keys_put key value dict.entries tested

theorem keys_erase (dict : OrderedDict κ ν) (key : κ) :
    (dict.erase key).keys = dict.keys.filter (fun other => decide (other ≠ key)) := by
  rw [keys, keys, erase, List.filter_map]
  rfl

omit [DecidableEq κ] in
theorem ext_entries {left right : OrderedDict κ ν} (same : left.entries = right.entries) :
    left = right := by
  cases left
  cases right
  cases same
  rfl

@[simp] theorem find_empty (key : κ) : (empty : OrderedDict κ ν).find? key = none := rfl

@[simp] theorem find_insert (dict : OrderedDict κ ν) (key : κ) (value : ν) (tested : κ) :
    (dict.insert key value).find? tested = if key = tested then some value else dict.find? tested :=
  lookup_put key value dict.entries tested

theorem mem_entries (dict : OrderedDict κ ν) (key : κ) (value : ν) :
    (key, value) ∈ dict.entries ↔ dict.find? key = some value :=
  mem_iff_lookup dict.entries dict.distinct key value

theorem find_none (dict : OrderedDict κ ν) (key : κ) :
    dict.find? key = none ↔ key ∉ dict.keys :=
  lookup_eq_none dict.entries key

theorem mem_keys (dict : OrderedDict κ ν) (key : κ) :
    key ∈ dict.keys ↔ ∃ value, dict.find? key = some value := by
  have absent : dict.find? key ≠ none ↔ key ∈ dict.keys := by
    rw [ne_eq, find_none, not_not]
  rw [← absent, Option.ne_none_iff_exists']

/-- Erasing answers `none` at its key and leaves every other lookup alone. -/
@[simp] theorem find_erase (dict : OrderedDict κ ν) (key tested : κ) :
    (dict.erase key).find? tested = if key = tested then none else dict.find? tested := by
  by_cases same : key = tested
  · subst same
    rw [if_pos rfl, find_none]
    simp [keys, erase]
  · rw [if_neg same]
    apply Option.ext
    intro value
    rw [← mem_entries, ← mem_entries]
    simp [erase, Ne.symm same]

/-- Writing entries with distinct keys answers from them before the old map. -/
theorem find_insertAll (dict : OrderedDict κ ν) (entries : List (κ × ν))
    (distinct : (entries.map Prod.fst).Nodup) (key : κ) :
    (dict.insertAll entries).find? key = (lookupEntries key entries).or (dict.find? key) := by
  induction entries generalizing dict with
  | nil => simp [insertAll, lookupEntries]
  | cons entry rest ih =>
    obtain ⟨other, value⟩ := entry
    obtain ⟨absent, restDistinct⟩ := List.nodup_cons.mp distinct
    have later : (dict.insertAll ((other, value) :: rest)).find? key =
        (lookupEntries key rest).or ((dict.insert other value).find? key) :=
      ih (dict.insert other value) restDistinct
    rw [later, find_insert]
    by_cases same : other = key
    · subst same
      have none : lookupEntries other rest = none := (lookup_eq_none rest other).mpr absent
      simp [lookupEntries, none]
    · simp [lookupEntries, same]

/-- New entries go to the end. -/
theorem entries_insertAll (dict : OrderedDict κ ν) (entries : List (κ × ν))
    (distinct : ((dict.entries ++ entries).map Prod.fst).Nodup) :
    (dict.insertAll entries).entries = dict.entries ++ entries := by
  induction entries generalizing dict with
  | nil => simp [insertAll]
  | cons entry rest ih =>
    obtain ⟨other, value⟩ := entry
    have absent : other ∉ dict.entries.map Prod.fst := by
      intro member
      rw [List.map_append, List.nodup_append] at distinct
      exact distinct.2.2 other member other (by simp) rfl
    have grown : (dict.insert other value).entries = dict.entries ++ [(other, value)] :=
      put_absent absent
    have step := ih (dict.insert other value)
      (by simpa [grown] using distinct)
    have first : dict.insertAll ((other, value) :: rest) =
        (dict.insert other value).insertAll rest := rfl
    rw [first, step, grown, List.append_assoc, List.singleton_append]

/-- One change of a batch: `none` erases its key, `some value` writes it. -/
def change (dict : OrderedDict κ ν) (entry : κ × Option ν) : OrderedDict κ ν :=
  match entry.2 with
  | none => dict.erase entry.1
  | some value => dict.insert entry.1 value

/-- The batch applied from left to right. -/
def changeAll (dict : OrderedDict κ ν) (changes : List (κ × Option ν)) : OrderedDict κ ν :=
  changes.foldl change dict

/-- The last change that a batch makes at a key, if it names the key at all. -/
def lastChange (key : κ) : List (κ × Option ν) → Option (Option ν)
  | [] => none
  | entry :: rest => (lastChange key rest).or (if entry.1 = key then some entry.2 else none)

@[simp] theorem find_change (dict : OrderedDict κ ν) (entry : κ × Option ν) (key : κ) :
    (dict.change entry).find? key = if entry.1 = key then entry.2 else dict.find? key := by
  obtain ⟨other, value⟩ := entry
  cases value <;> simp [change]

/-- After a batch, a key holds what the last change at it left there; a key the
batch does not name is untouched. Two maps changed by one batch therefore still
agree wherever they agreed before. -/
theorem find_changeAll (dict : OrderedDict κ ν) (changes : List (κ × Option ν)) (key : κ) :
    (dict.changeAll changes).find? key = (lastChange key changes).getD (dict.find? key) := by
  induction changes generalizing dict with
  | nil => rfl
  | cons entry rest ih =>
    have later : (dict.changeAll (entry :: rest)).find? key =
        (lastChange key rest).getD ((dict.change entry).find? key) :=
      ih (dict.change entry)
    rw [later, find_change]
    cases last : lastChange key rest <;> by_cases same : entry.1 = key <;>
      simp [lastChange, last, same]

theorem lastChange_none (key : κ) (changes : List (κ × Option ν)) :
    lastChange key changes = none ↔ key ∉ changes.map Prod.fst := by
  induction changes with
  | nil => simp [lastChange]
  | cons entry rest ih =>
    by_cases same : entry.1 = key
    · simp [lastChange, same]
    · simp [lastChange, same, Ne.symm same, ih]

/-- The last change at a key is one of the batch's changes. -/
theorem lastChange_mem (key : κ) (changes : List (κ × Option ν)) (value : Option ν)
    (last : lastChange key changes = some value) : (key, value) ∈ changes := by
  induction changes with
  | nil => simp [lastChange] at last
  | cons entry rest ih =>
    cases later : lastChange key rest with
    | some found =>
      have same : found = value := by simpa [lastChange, later] using last
      exact List.mem_cons_of_mem entry (ih (by rw [later, same]))
    | none =>
      by_cases here : entry.1 = key
      · have same : entry.2 = value := by simpa [lastChange, later, here] using last
        have whole : (key, value) = entry := by rw [← here, ← same]
        exact whole ▸ List.mem_cons_self
      · simp [lastChange, later, here] at last

/-- Changes at other keys do not matter. -/
theorem lastChange_filter (key : κ) (changes : List (κ × Option ν)) (keep : κ × Option ν → Bool)
    (kept : ∀ entry ∈ changes, entry.1 = key → keep entry = true) :
    lastChange key (changes.filter keep) = lastChange key changes := by
  induction changes with
  | nil => rfl
  | cons entry rest ih =>
    have later := ih (fun other member => kept other (List.mem_cons_of_mem _ member))
    by_cases here : keep entry = true
    · rw [List.filter_cons_of_pos here, lastChange, lastChange, later]
    · have different : entry.1 ≠ key := fun same => here (kept entry List.mem_cons_self same)
      rw [List.filter_cons_of_neg here, later, lastChange, if_neg different, Option.or_none]

/-- Writing entries is a batch without erasures. -/
theorem insertAll_eq_changeAll (dict : OrderedDict κ ν) (entries : List (κ × ν)) :
    dict.insertAll entries = dict.changeAll (entries.map (fun entry => (entry.1, some entry.2))) := by
  rw [changeAll, List.foldl_map]
  rfl

/-- What holds of every written value and of the old map holds of the new one. -/
theorem forall_changeAll (holds : κ → ν → Prop) (dict : OrderedDict κ ν)
    (changes : List (κ × Option ν))
    (before : ∀ key value, dict.find? key = some value → holds key value)
    (written : ∀ key value, (key, some value) ∈ changes → holds key value) (key : κ) (value : ν)
    (found : (dict.changeAll changes).find? key = some value) : holds key value := by
  rw [find_changeAll] at found
  cases last : lastChange key changes with
  | none => exact before key value (by simpa [last] using found)
  | some change =>
    have isWrite : change = some value := by simpa [last] using found
    exact written key value (isWrite ▸ lastChange_mem key changes change last)

/-! ## Mapping values -/

/-- The same keys in the same order with their values mapped. -/
def mapValues (f : ν → ω) (dict : OrderedDict κ ν) : OrderedDict κ ω where
  entries := dict.entries.map (fun entry => (entry.1, f entry.2))
  distinct := by simpa [List.map_map, Function.comp_def] using dict.distinct

theorem map_put (f : ν → ω) (key : κ) (value : ν) (entries : List (κ × ν)) :
    (putEntries key value entries).map (fun entry => (entry.1, f entry.2)) =
      putEntries key (f value) (entries.map (fun entry => (entry.1, f entry.2))) := by
  induction entries with
  | nil => rfl
  | cons entry rest ih =>
    by_cases same : entry.1 = key
    · simp [putEntries, same]
    · simp [putEntries, same, ih]

theorem mapValues_change (f : ν → ω) (dict : OrderedDict κ ν) (entry : κ × Option ν) :
    (dict.change entry).mapValues f = (dict.mapValues f).change (entry.1, entry.2.map f) := by
  obtain ⟨key, value⟩ := entry
  cases value with
  | none => simp [change, erase, mapValues, List.filter_map, Function.comp_def]
  | some value => simp [change, insert, mapValues, map_put]

/-- Mapping commutes with a batch of changes. -/
theorem mapValues_changeAll (f : ν → ω) (dict : OrderedDict κ ν) (changes : List (κ × Option ν)) :
    (dict.changeAll changes).mapValues f =
      (dict.mapValues f).changeAll (changes.map (fun entry => (entry.1, entry.2.map f))) := by
  induction changes generalizing dict with
  | nil => rfl
  | cons entry rest ih =>
    have step := ih (dict.change entry)
    rw [mapValues_change] at step
    exact step

/-! ## Rewriting, filtering and sorting entries -/

/-- Rewrite every value in its place. -/
def mapEntries (f : κ → ν → ω) (dict : OrderedDict κ ν) : OrderedDict κ ω where
  entries := dict.entries.map (fun entry => (entry.1, f entry.1 entry.2))
  distinct := by simpa [List.map_map, Function.comp_def] using dict.distinct

/-- The entries that a test keeps. -/
def filter (keep : κ → ν → Bool) (dict : OrderedDict κ ν) : OrderedDict κ ν where
  entries := dict.entries.filter (fun entry => keep entry.1 entry.2)
  distinct := dict.distinct.sublist (List.filter_sublist.map Prod.fst)

/-- `dict(sorted(dict.items()))`: entries in the order of their keys. -/
def sortKeys [LinearOrder κ] (dict : OrderedDict κ ν) : OrderedDict κ ν where
  entries := dict.entries.insertionSort (fun left right => left.1 ≤ right.1)
  distinct := ((List.perm_insertionSort _ dict.entries).map Prod.fst).nodup_iff.mpr dict.distinct

theorem lookup_map (f : κ → ν → ω) (entries : List (κ × ν)) (key : κ) :
    lookupEntries key (entries.map (fun entry => (entry.1, f entry.1 entry.2))) =
      (lookupEntries key entries).map (f key) := by
  induction entries with
  | nil => rfl
  | cons entry rest ih =>
    by_cases here : entry.1 = key
    · subst here
      simp [lookupEntries]
    · simpa [lookupEntries, here] using ih

@[simp] theorem find_mapEntries (f : κ → ν → ω) (dict : OrderedDict κ ν) (key : κ) :
    (dict.mapEntries f).find? key = (dict.find? key).map (f key) :=
  lookup_map f dict.entries key

@[simp] theorem find_filter (keep : κ → ν → Bool) (dict : OrderedDict κ ν) (key : κ) :
    (dict.filter keep).find? key = (dict.find? key).filter (keep key) := by
  apply Option.ext
  intro value
  rw [← mem_entries, filter, List.mem_filter, mem_entries, Option.filter_eq_some_iff]

@[simp] theorem find_sortKeys [LinearOrder κ] (dict : OrderedDict κ ν) (key : κ) :
    dict.sortKeys.find? key = dict.find? key := by
  apply Option.ext
  intro value
  rw [← mem_entries, ← mem_entries]
  exact (List.perm_insertionSort _ dict.entries).mem_iff

omit [DecidableEq κ] in
theorem mapEntries_same {f : κ → ν → ν} {dict : OrderedDict κ ν}
    (fixed : ∀ entry ∈ dict.entries, f entry.1 entry.2 = entry.2) : dict.mapEntries f = dict := by
  apply ext_entries
  have same : ∀ entry ∈ dict.entries, (entry.1, f entry.1 entry.2) = entry := by
    intro entry member
    rw [fixed entry member]
  exact (List.map_congr_left same).trans (List.map_id' dict.entries)

omit [DecidableEq κ] in
/-- Two rewritings agree when they agree on every entry. -/
theorem mapEntries_inj {f g : κ → ν → ω} {dict : OrderedDict κ ν} :
    dict.mapEntries f = dict.mapEntries g ↔
      ∀ entry ∈ dict.entries, f entry.1 entry.2 = g entry.1 entry.2 := by
  constructor
  · intro same entry member
    have entries := List.map_inj_left.mp (congrArg OrderedDict.entries same) entry member
    exact congrArg Prod.snd entries
  · intro same
    apply ext_entries
    exact List.map_congr_left (fun entry member => by rw [same entry member])

omit [DecidableEq κ] in
theorem mapEntries_eq_self {f : κ → ν → ν} {dict : OrderedDict κ ν} :
    dict.mapEntries f = dict ↔ ∀ entry ∈ dict.entries, f entry.1 entry.2 = entry.2 := by
  constructor
  · intro same
    have unchanged : dict.mapEntries (fun _ value => value) = dict :=
      mapEntries_same (fun _ _ => rfl)
    exact mapEntries_inj.mp (same.trans unchanged.symm)
  · intro fixed
    exact mapEntries_same fixed

omit [DecidableEq κ] in
theorem filter_same {keep : κ → ν → Bool} {dict : OrderedDict κ ν}
    (kept : ∀ entry ∈ dict.entries, keep entry.1 entry.2 = true) : dict.filter keep = dict :=
  ext_entries (List.filter_eq_self.mpr kept)

/-- Erasing a list of keys hides exactly them. -/
theorem find_eraseAll (dict : OrderedDict κ ν) (gone : List κ) (key : κ) :
    (gone.foldl erase dict).find? key = if key ∈ gone then none else dict.find? key := by
  induction gone generalizing dict with
  | nil => simp
  | cons first rest ih =>
    rw [List.foldl_cons, ih, find_erase]
    by_cases here : first = key
    · simp [here]
    · simp [here, Ne.symm here]

/-- The keys of the entries with a tested value. -/
theorem mem_keys_where (dict : OrderedDict κ ν) (test : ν → Bool) (key : κ) :
    key ∈ (dict.entries.filter (fun entry => test entry.2)).map Prod.fst ↔
      ∃ value, dict.find? key = some value ∧ test value = true := by
  simp only [List.mem_map, List.mem_filter]
  constructor
  · rintro ⟨entry, ⟨member, tested⟩, rfl⟩
    exact ⟨entry.2, (mem_entries dict entry.1 entry.2).mp member, tested⟩
  · rintro ⟨value, found, tested⟩
    exact ⟨(key, value), ⟨(mem_entries dict key value).mpr found, tested⟩, rfl⟩

/-- Entries stand in the order of their keys. -/
def Sorted [LinearOrder κ] (dict : OrderedDict κ ν) : Prop :=
  dict.entries.Pairwise (fun left right => left.1 ≤ right.1)

omit [DecidableEq κ] in
theorem sorted_sortKeys [LinearOrder κ] (dict : OrderedDict κ ν) : dict.sortKeys.Sorted :=
  List.pairwise_insertionSort _ dict.entries

omit [DecidableEq κ] in
theorem sorted_mapEntries [LinearOrder κ] {f : κ → ν → ω} {dict : OrderedDict κ ν}
    (sorted : dict.Sorted) : (dict.mapEntries f).Sorted :=
  List.pairwise_map.mpr sorted

omit [DecidableEq κ] in
theorem sortKeys_of_sorted [LinearOrder κ] {dict : OrderedDict κ ν} (sorted : dict.Sorted) :
    dict.sortKeys = dict :=
  ext_entries sorted.insertionSort_eq

/-! ## Totals by key -/

variable [AddMonoid ν]

/-- What the parts of one key add up to. -/
def total (parts : List (κ × ν)) (key : κ) : ν :=
  ((parts.filter (fun part => part.1 = key)).map Prod.snd).sum

theorem total_absent {parts : List (κ × ν)} {key : κ} (absent : key ∉ parts.map Prod.fst) :
    total parts key = 0 := by
  have none : parts.filter (fun part => part.1 = key) = [] := by
    rw [List.filter_eq_nil_iff]
    intro part member same
    apply absent
    rw [← of_decide_eq_true same]
    exact List.mem_map_of_mem member
  simp [total, none]

/-- Add each part to the running total of its key. -/
def tallyOnto (totals : OrderedDict κ ν) (parts : List (κ × ν)) : OrderedDict κ ν :=
  parts.foldl (fun current part =>
    current.insert part.1 ((current.find? part.1).getD 0 + part.2)) totals

def tally (parts : List (κ × ν)) : OrderedDict κ ν := tallyOnto empty parts

theorem find_tallyOnto (totals : OrderedDict κ ν) (parts : List (κ × ν)) (key : κ) :
    (totals.tallyOnto parts).find? key =
      if key ∈ parts.map Prod.fst then some ((totals.find? key).getD 0 + total parts key)
      else totals.find? key := by
  induction parts generalizing totals with
  | nil => simp [tallyOnto]
  | cons part rest ih =>
    have step := ih (totals.insert part.1 ((totals.find? part.1).getD 0 + part.2))
    rw [find_insert] at step
    refine step.trans ?_
    by_cases here : part.1 = key
    · subst here
      by_cases again : part.1 ∈ rest.map Prod.fst
      · simp [again, total, add_assoc]
      · have nothing := total_absent again
        rw [total] at nothing
        simp [again, total, nothing]
    · by_cases later : key ∈ rest.map Prod.fst
      · simp [here, later, total]
      · simp [here, later, Ne.symm here]

/-- A tally knows the keys of its parts and their totals. -/
theorem find_tally (parts : List (κ × ν)) (key : κ) :
    (tally parts).find? key =
      if key ∈ parts.map Prod.fst then some (total parts key) else none := by
  rw [tally, find_tallyOnto]
  simp

theorem mem_tally_keys (parts : List (κ × ν)) (key : κ) :
    key ∈ (tally parts).keys ↔ key ∈ parts.map Prod.fst := by
  rw [mem_keys, find_tally]
  split_ifs with known <;> simp [known]

end OrderedDict
