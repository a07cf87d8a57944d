import Mathlib.Algebra.BigOperators.Group.List.Basic
import Mathlib.Tactic.Abel

/-!
# One changed item of a list

What a list weighs, and which items it has, after the item at one index is changed.
-/

namespace ListModify

variable {α M : Type*} [AddCommGroup M]

theorem sum_modify (value : α → M) (change : α → α) {items : List α} {index : Nat} {item : α}
    (found : items[index]? = some item) :
    ((items.modify index change).map value).sum =
      (items.map value).sum - value item + value (change item) := by
  induction items generalizing index with
  | nil => simp at found
  | cons head rest ih =>
    cases index with
    | zero =>
      obtain rfl : head = item := by simpa using found
      rw [List.modify_zero_cons, List.map_cons, List.map_cons, List.sum_cons, List.sum_cons]
      abel
    | succ index =>
      have later := ih (by simpa using found)
      rw [List.modify_succ_cons, List.map_cons, List.map_cons, List.sum_cons, List.sum_cons, later]
      abel

theorem mem_modify {change : α → α} {items : List α} {index : Nat} {found : α}
    (member : found ∈ items.modify index change) :
    found ∈ items ∨ ∃ item, items[index]? = some item ∧ found = change item := by
  induction items generalizing index with
  | nil => simp at member
  | cons head rest ih =>
    cases index with
    | zero =>
      rw [List.modify_zero_cons] at member
      rcases List.mem_cons.mp member with rfl | among
      · exact .inr ⟨head, rfl, rfl⟩
      · exact .inl (List.mem_cons_of_mem _ among)
    | succ index =>
      rw [List.modify_succ_cons] at member
      rcases List.mem_cons.mp member with rfl | among
      · exact .inl List.mem_cons_self
      · rcases ih among with kept | changed
        · exact .inl (List.mem_cons_of_mem _ kept)
        · exact .inr (by simpa using changed)

end ListModify
