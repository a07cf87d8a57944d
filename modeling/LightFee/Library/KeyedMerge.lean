import Mathlib.Data.List.Basic
import Mathlib.Data.List.Nodup
import Mathlib.Data.List.Perm.Subperm
import Mathlib.Tactic.Tauto

/-!
# Merging items by key

Items arrive one by one. An item with a new key goes to the end; one with a known
key is combined into the item already there. If combining keeps the first item's
key, the result holds one item for each key: the fold of its whole group.
-/

universe u v

namespace KeyedMerge

variable {α : Type u} {κ : Type v} [DecidableEq κ] (key : α → κ) (combine : α → α → α)

/-- Combine an item into the first one of its key, or append it. -/
def add (items : List α) (item : α) : List α :=
  match items with
  | [] => [item]
  | first :: rest =>
    if key first = key item then combine first item :: rest else first :: add rest item

def addAll (items new : List α) : List α := new.foldl (add key combine) items

/-- The item of a key. -/
def find? (items : List α) (tested : κ) : Option α := items.find? (fun item => key item = tested)

/-- The items of a key, in order. -/
def group (new : List α) (tested : κ) : List α := new.filter (fun item => key item = tested)

/-- One item joins what its key has collected. -/
def collect (collected : Option α) (item : α) : Option α :=
  some (collected.elim item (fun first => combine first item))

variable {key combine} (keeps : ∀ first item, key (combine first item) = key first)

include keeps

theorem find_add (items : List α) (item : α) (tested : κ) :
    find? key (add key combine items item) tested =
      if key item = tested then collect combine (find? key items tested) item
      else find? key items tested := by
  induction items with
  | nil =>
      by_cases here : key item = tested
      · simp [add, find?, collect, here]
      · simp [add, find?, here]
  | cons first rest ih =>
      unfold find? at ih ⊢
      by_cases same : key first = key item
      · by_cases here : key item = tested
        · simp [add, same, here, keeps, collect]
        · simp [add, same, here, keeps]
      · by_cases firstHere : key first = tested
        · have notItem : key item ≠ tested := fun here => same (firstHere.trans here.symm)
          rw [add, if_neg same]
          simp [firstHere, notItem]
        · simp [add, same, firstHere, ih]

/-- The item of a key is the fold of its group. -/
theorem find_addAll (items new : List α) (tested : κ) :
    find? key (addAll key combine items new) tested =
      (group key new tested).foldl (collect combine) (find? key items tested) := by
  induction new generalizing items with
  | nil => rfl
  | cons item rest ih =>
      rw [addAll, List.foldl_cons]
      refine (ih (add key combine items item)).trans ?_
      rw [find_add keeps]
      by_cases here : key item = tested
      · simp [group, here]
      · simp [group, here]

omit keeps in
/-- A fold that starts with its first item. -/
theorem collect_fold (first : α) (rest : List α) :
    rest.foldl (collect combine) (some first) = some (rest.foldl combine first) := by
  induction rest generalizing first with
  | nil => rfl
  | cons item rest ih => exact ih (combine first item)

/-- What every item of a group reaches: the first item, combined with the rest. -/
theorem find_addAll_cons {new : List α} {tested : κ} {first : α} {rest : List α}
    (grouped : group key new tested = first :: rest) :
    find? key (addAll key combine [] new) tested = some (rest.foldl combine first) := by
  rw [find_addAll keeps, grouped, List.foldl_cons]
  exact collect_fold first rest

theorem keys_add (items : List α) (item : α) :
    (add key combine items item).map key =
      if key item ∈ items.map key then items.map key else items.map key ++ [key item] := by
  induction items with
  | nil => simp [add]
  | cons first rest ih =>
      by_cases same : key first = key item
      · simp [add, same, keeps]
      · rw [add, if_neg same, List.map_cons, ih]
        by_cases later : key item ∈ rest.map key
        · simp [later]
        · simp [later, Ne.symm same]

/-- No two collected items share a key. -/
theorem add_distinct {items : List α} (distinct : (items.map key).Nodup) (item : α) :
    ((add key combine items item).map key).Nodup := by
  rw [keys_add keeps]
  split_ifs with known
  · exact distinct
  · rw [List.nodup_append]
    refine ⟨distinct, by simp, ?_⟩
    intro first member second single
    rw [List.mem_singleton.mp single]
    rintro rfl
    exact known member

theorem addAll_distinct {items : List α} (distinct : (items.map key).Nodup) (new : List α) :
    ((addAll key combine items new).map key).Nodup := by
  induction new generalizing items with
  | nil => exact distinct
  | cons item rest ih => exact ih (add_distinct keeps distinct item)

theorem keys_addAll_subset (items new : List α) :
    (addAll key combine items new).map key ⊆ items.map key ++ new.map key := by
  induction new generalizing items with
  | nil => simp [addAll]
  | cons item rest ih =>
    intro tested listed
    rw [addAll, List.foldl_cons] at listed
    have either := ih (add key combine items item) listed
    rw [List.mem_append, keys_add keeps] at either
    by_cases known : key item ∈ items.map key
    · rw [if_pos known] at either
      simp only [List.map_cons, List.mem_append, List.mem_cons]
      tauto
    · rw [if_neg known] at either
      simp only [List.map_cons, List.mem_append, List.mem_cons] at either ⊢
      tauto

theorem keys_addAll_subperm (new : List α) :
    ((addAll key combine [] new).map key).Subperm (new.map key) :=
  (addAll_distinct keeps (show (([] : List α).map key).Nodup from List.nodup_nil) new).subperm
    (keys_addAll_subset keeps [] new)

theorem length_addAll_le (new : List α) : (addAll key combine [] new).length ≤ new.length := by
  simpa using (keys_addAll_subperm keeps new).length_le

omit keeps in
/-- An item with a new key goes to the end. -/
theorem add_fresh {items : List α} {item : α} (fresh : key item ∉ items.map key) :
    add key combine items item = items ++ [item] := by
  induction items with
  | nil => rfl
  | cons first rest ih =>
    rw [List.map_cons, List.mem_cons, not_or] at fresh
    rw [add, if_neg (Ne.symm fresh.1), ih fresh.2, List.cons_append]

omit keeps in
theorem addAll_fresh {items new : List α} (fresh : ((items ++ new).map key).Nodup) :
    addAll key combine items new = items ++ new := by
  induction new generalizing items with
  | nil => simp [addAll]
  | cons item rest ih =>
    have split : items ++ item :: rest = items ++ [item] ++ rest := by simp
    have unknown : key item ∉ items.map key := by
      intro known
      rw [List.map_append, List.map_cons, List.nodup_append] at fresh
      exact fresh.2.2 _ known _ List.mem_cons_self rfl
    rw [split] at fresh ⊢
    rw [addAll, List.foldl_cons, add_fresh unknown]
    exact ih fresh

/-- As many items are collected as there are new ones exactly when no two of these share a
key. -/
theorem length_addAll_iff (new : List α) :
    (addAll key combine [] new).length = new.length ↔ (new.map key).Nodup := by
  constructor
  · intro all
    have permuted := (keys_addAll_subperm keeps new).perm_of_length_le (by simp [all])
    exact permuted.nodup_iff.mp
      (addAll_distinct keeps (show (([] : List α).map key).Nodup from List.nodup_nil) new)
  · intro distinct
    rw [addAll_fresh distinct, List.nil_append]

omit keeps in
/-- With distinct keys, a member is the item of its key. -/
theorem find_of_mem {items : List α} (distinct : (items.map key).Nodup) {item : α}
    (member : item ∈ items) : find? key items (key item) = some item := by
  induction items with
  | nil => exact absurd member List.not_mem_nil
  | cons first rest ih =>
      obtain ⟨absent, restDistinct⟩ := List.nodup_cons.mp distinct
      rcases List.mem_cons.mp member with here | later
      · subst here
        simp [find?]
      · have other : key first ≠ key item := by
          intro same
          apply absent
          rw [same]
          exact List.mem_map_of_mem later
        have found := ih restDistinct later
        unfold find? at found ⊢
        simp [other, found]

omit keeps in
/-- Parts that combining puts together are the parts of all the items. -/
theorem mem_parts_add {β : Type*} {parts : α → List β}
    (joins : ∀ first item, parts (combine first item) = parts first ++ parts item)
    (items : List α) (item : α) (part : β) :
    part ∈ (add key combine items item).flatMap parts ↔
      part ∈ items.flatMap parts ∨ part ∈ parts item := by
  induction items with
  | nil => simp [add]
  | cons first rest ih =>
    by_cases same : key first = key item
    · rw [add, if_pos same, List.flatMap_cons, joins]
      simp only [List.flatMap_cons, List.mem_append]
      tauto
    · rw [add, if_neg same, List.flatMap_cons, List.mem_append, ih]
      simp only [List.flatMap_cons, List.mem_append]
      tauto

omit keeps in
theorem mem_parts_addAll {β : Type*} {parts : α → List β}
    (joins : ∀ first item, parts (combine first item) = parts first ++ parts item)
    (items new : List α) (part : β) :
    part ∈ (addAll key combine items new).flatMap parts ↔
      part ∈ items.flatMap parts ∨ part ∈ new.flatMap parts := by
  induction new generalizing items with
  | nil => simp [addAll]
  | cons item rest ih =>
    rw [addAll, List.foldl_cons]
    refine (ih (add key combine items item)).trans ?_
    rw [mem_parts_add joins, List.flatMap_cons, List.mem_append, or_assoc]

omit keeps in
/-- What combining keeps of the first item holds of every merged one. -/
theorem forall_add {holds : α → Prop}
    (kept : ∀ first item, holds first → holds (combine first item)) {items : List α} {item : α}
    (old : ∀ known ∈ items, holds known) (new : holds item) :
    ∀ known ∈ add key combine items item, holds known := by
  induction items with
  | nil => simpa [add] using new
  | cons first rest ih =>
    have later := fun known member => old known (List.mem_cons_of_mem first member)
    by_cases same : key first = key item
    · rw [add, if_pos same]
      exact List.forall_mem_cons.mpr ⟨kept first item (old first (List.mem_cons_self ..)), later⟩
    · rw [add, if_neg same]
      exact List.forall_mem_cons.mpr
        ⟨old first (List.mem_cons_self ..), ih later⟩

omit keeps in
theorem forall_addAll {holds : α → Prop}
    (kept : ∀ first item, holds first → holds (combine first item)) {items new : List α}
    (old : ∀ known ∈ items, holds known) (added : ∀ item ∈ new, holds item) :
    ∀ known ∈ addAll key combine items new, holds known := by
  induction new generalizing items with
  | nil => exact old
  | cons item rest ih =>
    obtain ⟨first, later⟩ := List.forall_mem_cons.mp added
    exact ih (forall_add kept old first) later

end KeyedMerge
