import LightFee.Library.KeepFirst
import Mathlib.Data.List.Sort

/-!
# The best items, one for each key

Items are sorted by an order, the first of each key is kept, and of these as many as are asked for.
The order need only be one on the items at hand. Then the choice does not depend on how they were
listed, and an item that was left out has a better one of its key in the choice, or the choice is
full of better ones.
-/

namespace BestPerKey

open KeepFirst

variable {α κ : Type*} (before : α → α → Prop)

/-- The relation orders these items. -/
structure OrderedOn (items : List α) : Prop where
  total : ∀ first ∈ items, ∀ second ∈ items, before first second ∨ before second first
  trans : ∀ first ∈ items, ∀ second ∈ items, ∀ third ∈ items,
    before first second → before second third → before first third

variable {before}

theorem ordered_subset {items others : List α} (ordered : OrderedOn before items)
    (within : others ⊆ items) : OrderedOn before others where
  total first firstIn second secondIn :=
    ordered.total first (within firstIn) second (within secondIn)
  trans first firstIn second secondIn third thirdIn :=
    ordered.trans first (within firstIn) second (within secondIn) third (within thirdIn)

section Sorting

variable [DecidableRel before]

theorem orderedInsert_sorted {item : α} {items : List α}
    (ordered : OrderedOn before (item :: items)) (sorted : items.Pairwise before) :
    (items.orderedInsert before item).Pairwise before := by
  induction items with
  | nil => exact List.pairwise_singleton before item
  | cons first rest ih =>
    obtain ⟨above, restSorted⟩ := List.pairwise_cons.mp sorted
    have firstIn : first ∈ item :: first :: rest := List.mem_cons_of_mem _ List.mem_cons_self
    rw [List.orderedInsert]
    split_ifs with ahead
    · refine List.pairwise_cons.mpr ⟨fun other member => ?_, sorted⟩
      obtain rfl | later := List.mem_cons.mp member
      · exact ahead
      · exact ordered.trans item List.mem_cons_self first firstIn other
          (List.mem_cons_of_mem _ member) ahead (above other later)
    · have within : item :: rest ⊆ item :: first :: rest :=
        List.cons_subset_cons _ (List.subset_cons_self _ _)
      refine List.pairwise_cons.mpr
        ⟨fun other member => ?_, ih (ordered_subset ordered within) restSorted⟩
      obtain rfl | later := (List.mem_orderedInsert before).mp member
      · exact (ordered.total other List.mem_cons_self first firstIn).resolve_left ahead
      · exact above other later

theorem insertionSort_sorted {items : List α} (ordered : OrderedOn before items) :
    (items.insertionSort before).Pairwise before := by
  induction items with
  | nil => exact List.Pairwise.nil
  | cons first rest ih =>
    rw [List.insertionSort_cons]
    refine orderedInsert_sorted (ordered_subset ordered ?_)
      (ih (ordered_subset ordered (List.subset_cons_self _ _)))
    exact List.cons_subset_cons _ (List.perm_insertionSort before rest).subset

/-- Sorting forgets how the items were listed, where no two are equivalent. -/
theorem insertionSort_perm {items others : List α} (ordered : OrderedOn before items)
    (antisymm : ∀ first ∈ items, ∀ second ∈ items,
      before first second → before second first → first = second)
    (same : items.Perm others) :
    items.insertionSort before = others.insertionSort before := by
  have sorted := insertionSort_sorted ordered
  have othersSorted := insertionSort_sorted (ordered_subset ordered same.symm.subset)
  refine List.Perm.eq_of_pairwise (fun first second firstIn secondIn => ?_) sorted othersSorted
    ((List.perm_insertionSort before items).trans
      (same.trans (List.perm_insertionSort before others).symm))
  exact antisymm first ((List.perm_insertionSort before items).subset firstIn) second
    (same.symm.subset ((List.perm_insertionSort before others).subset secondIn))

/-- Inserting an item and then leaving some out is leaving them out first. -/
theorem filter_orderedInsert (keep : α → Bool) {item : α} {items : List α}
    (ordered : OrderedOn before (item :: items)) (sorted : items.Pairwise before) :
    (items.orderedInsert before item).filter keep =
      if keep item then (items.filter keep).orderedInsert before item else items.filter keep := by
  induction items with
  | nil =>
    cases kept : keep item <;> simp [kept]
  | cons first rest ih =>
    obtain ⟨above, restSorted⟩ := List.pairwise_cons.mp sorted
    have within : item :: rest ⊆ item :: first :: rest :=
      List.cons_subset_cons _ (List.subset_cons_self _ _)
    have later := ih (ordered_subset ordered within) restSorted
    rw [List.orderedInsert]
    by_cases ahead : before item first
    · rw [if_pos ahead, List.filter_cons]
      cases kept : keep item with
      | false => rw [if_neg Bool.false_ne_true, if_neg Bool.false_ne_true]
      | true =>
        -- the item comes before everything that is kept
        rw [if_pos rfl, if_pos rfl]
        cases remaining : (first :: rest).filter keep with
        | nil => rfl
        | cons next others =>
          have listed : next ∈ first :: rest := by
            have member : next ∈ (first :: rest).filter keep := by
              rw [remaining]
              exact List.mem_cons_self
            exact (List.mem_filter.mp member).1
          have aheadNext : before item next := by
            obtain rfl | behind := List.mem_cons.mp listed
            · exact ahead
            · exact ordered.trans item List.mem_cons_self first
                (List.mem_cons_of_mem _ List.mem_cons_self) next (List.mem_cons_of_mem _ listed)
                ahead (above next behind)
          rw [List.orderedInsert, if_pos aheadNext]
    · rw [if_neg ahead, List.filter_cons, List.filter_cons, later]
      cases firstKept : keep first with
      | false => simp only [Bool.false_eq_true, if_false]
      | true =>
        rw [if_pos rfl, if_pos rfl, List.orderedInsert, if_neg ahead]
        split_ifs <;> rfl

/-- Sorting and then leaving some out is leaving them out first. -/
theorem filter_insertionSort (keep : α → Bool) {items : List α} (ordered : OrderedOn before items) :
    (items.insertionSort before).filter keep = (items.filter keep).insertionSort before := by
  induction items with
  | nil => rfl
  | cons first rest ih =>
    have restOrdered := ordered_subset ordered (List.subset_cons_self first rest)
    have within : first :: rest.insertionSort before ⊆ first :: rest :=
      List.cons_subset_cons _ (List.perm_insertionSort before rest).subset
    rw [List.insertionSort_cons, filter_orderedInsert keep (ordered_subset ordered within)
      (insertionSort_sorted restOrdered), ih restOrdered, List.filter_cons]
    split_ifs
    · rw [List.insertionSort_cons]
    · rfl

end Sorting

section Choice

variable [DecidableEq κ] {key : α → κ}

theorem keepFirst_sublist (seen : List κ) (items : List α) :
    (keepFirst key seen items).Sublist items := by
  induction items generalizing seen with
  | nil => exact List.Sublist.refl []
  | cons first rest ih =>
    rw [keepFirst]
    split_ifs
    · exact (ih seen).cons first
    · exact (ih _).cons_cons first

/-- In a sorted list the kept item of a key comes before the others. -/
theorem keepFirst_before {seen : List κ} {items : List α} (sorted : items.Pairwise before)
    {item : α} (member : item ∈ items) (unseen : key item ∉ seen) :
    ∃ kept ∈ keepFirst key seen items, key kept = key item ∧ (kept = item ∨ before kept item) := by
  induction items generalizing seen with
  | nil => cases member
  | cons first rest ih =>
    obtain ⟨above, restSorted⟩ := List.pairwise_cons.mp sorted
    rw [keepFirst]
    by_cases same : key first = key item
    · rw [same, if_neg unseen]
      refine ⟨first, List.mem_cons_self, same, ?_⟩
      obtain rfl | later := List.mem_cons.mp member
      · exact .inl rfl
      · exact .inr (above item later)
    · have later : item ∈ rest := by
        obtain rfl | later := List.mem_cons.mp member
        · exact absurd rfl same
        · exact later
      split_ifs
      · exact ih restSorted later unseen
      · have unseenStill : key item ∉ seen ++ [key first] := by
          rw [List.mem_append, List.mem_singleton, not_or]
          exact ⟨unseen, fun equal => same equal.symm⟩
        obtain ⟨kept, among, equal, ahead⟩ := ih restSorted later unseenStill
        exact ⟨kept, List.mem_cons_of_mem _ among, equal, ahead⟩

variable [DecidableRel before] (before) (key)

/-- The best items of distinct keys, no more than are asked for. -/
def bestPerKey (count : Nat) (items : List α) : List α :=
  (keepFirst key [] (items.insertionSort before)).take count

variable {before key} {count : Nat} {items : List α}

theorem best_mem {item : α} (chosen : item ∈ bestPerKey before key count items) : item ∈ items :=
  (List.perm_insertionSort before items).subset (mem_of_mem_keepFirst (List.mem_of_mem_take chosen))

theorem best_perm {others : List α} (ordered : OrderedOn before items)
    (antisymm : ∀ first ∈ items, ∀ second ∈ items,
      before first second → before second first → first = second)
    (same : items.Perm others) :
    bestPerKey before key count items = bestPerKey before key count others := by
  rw [bestPerKey, bestPerKey, insertionSort_perm ordered antisymm same]

/-- What is left out has a better item of its key in the choice, or the choice is full of better
items. -/
theorem best_optimal (ordered : OrderedOn before items) {item : α} (member : item ∈ items) :
    (∃ chosen ∈ bestPerKey before key count items,
        key chosen = key item ∧ (chosen = item ∨ before chosen item)) ∨
      ((bestPerKey before key count items).length = count ∧
        ∀ chosen ∈ bestPerKey before key count items, before chosen item) := by
  have sorted := insertionSort_sorted ordered
  have within : items.insertionSort before ⊆ items := (List.perm_insertionSort before items).subset
  obtain ⟨kept, among, same, ahead⟩ := keepFirst_before sorted
    ((List.perm_insertionSort before items).symm.subset member)
    (List.not_mem_nil : key item ∉ [])
  have keptSorted : (keepFirst key [] (items.insertionSort before)).Pairwise before :=
    sorted.sublist (keepFirst_sublist [] (items.insertionSort before))
  rw [← List.take_append_drop count (keepFirst key [] (items.insertionSort before))] at among keptSorted
  obtain inside | beyond := List.mem_append.mp among
  · exact .inl ⟨kept, inside, same, ahead⟩
  · refine .inr ⟨?_, fun chosen chosenIn => ?_⟩
    · rw [bestPerKey, List.length_take, min_eq_left]
      have longer := List.length_pos_of_mem beyond
      rw [List.length_drop] at longer
      omega
    · have first := (List.pairwise_append.mp keptSorted).2.2 chosen chosenIn kept beyond
      obtain rfl | keptAhead := ahead
      · exact first
      · exact ordered.trans chosen (best_mem chosenIn) kept
          (within (mem_of_mem_keepFirst (List.mem_of_mem_drop beyond))) item member first keptAhead

end Choice

end BestPerKey
