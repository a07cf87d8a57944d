import Mathlib.Data.List.Nodup

/-!
# The first item of each key

A list is read once, and an item is kept unless its key was met before. Every key of the list
is kept once, and items whose keys differ are all kept.
-/

namespace KeepFirst

variable {α κ : Type*} [DecidableEq κ] {key : α → κ}

/-- Items whose keys were not met before. -/
def keepFirst (key : α → κ) : List κ → List α → List α
  | _, [] => []
  | seen, item :: rest =>
    if key item ∈ seen then keepFirst key seen rest
    else item :: keepFirst key (seen ++ [key item]) rest

theorem mem_of_mem_keepFirst {seen : List κ} {items : List α} {item : α}
    (kept : item ∈ keepFirst key seen items) : item ∈ items := by
  induction items generalizing seen with
  | nil => exact kept
  | cons first rest ih =>
    rw [keepFirst] at kept
    split_ifs at kept with met
    · exact List.mem_cons_of_mem _ (ih kept)
    · rcases List.mem_cons.mp kept with rfl | later
      · exact List.mem_cons_self
      · exact List.mem_cons_of_mem _ (ih later)

/-- A kept key was not met before. -/
theorem keepFirst_unseen {seen : List κ} {items : List α} {item : α}
    (kept : item ∈ keepFirst key seen items) : key item ∉ seen := by
  induction items generalizing seen with
  | nil => exact absurd kept List.not_mem_nil
  | cons first rest ih =>
    rw [keepFirst] at kept
    split_ifs at kept with met
    · exact ih kept
    · rcases List.mem_cons.mp kept with rfl | later
      · exact met
      · exact fun among => ih later (List.mem_append_left _ among)

/-- A key is kept once. -/
theorem keepFirst_nodup (seen : List κ) (items : List α) :
    ((keepFirst key seen items).map key).Nodup := by
  induction items generalizing seen with
  | nil => exact List.nodup_nil
  | cons first rest ih =>
    rw [keepFirst]
    split_ifs with met
    · exact ih seen
    · rw [List.map_cons, List.nodup_cons]
      refine ⟨?_, ih _⟩
      intro again
      obtain ⟨later, kept, same⟩ := List.mem_map.mp again
      apply keepFirst_unseen kept
      rw [same]
      exact List.mem_append_right _ List.mem_cons_self

/-- Every key is met or kept. -/
theorem keepFirst_covers (seen : List κ) {items : List α} {item : α} (member : item ∈ items) :
    key item ∈ seen ∨ ∃ kept ∈ keepFirst key seen items, key kept = key item := by
  induction items generalizing seen with
  | nil => exact absurd member List.not_mem_nil
  | cons first rest ih =>
    rw [keepFirst]
    split_ifs with met
    · rcases List.mem_cons.mp member with rfl | later
      · exact .inl met
      · exact ih seen later
    · rcases List.mem_cons.mp member with rfl | later
      · exact .inr ⟨item, List.mem_cons_self, rfl⟩
      · rcases ih (seen ++ [key first]) later with known | ⟨kept, among, same⟩
        · rcases List.mem_append.mp known with before | here
          · exact .inl before
          · rw [List.mem_singleton] at here
            exact .inr ⟨first, List.mem_cons_self, here.symm⟩
        · exact .inr ⟨kept, List.mem_cons_of_mem _ among, same⟩

/-- An item is kept exactly where it is the first one of a key that was not met before. -/
theorem mem_keepFirst_iff {seen : List κ} {items : List α} {item : α} :
    item ∈ keepFirst key seen items ↔ key item ∉ seen ∧
      items.find? (fun other => decide (key other = key item)) = some item := by
  induction items generalizing seen with
  | nil => simp [keepFirst]
  | cons first rest ih =>
    rw [keepFirst, List.find?_cons]
    by_cases same : key first = key item
    · rw [decide_eq_true same, same]
      split_ifs with met
      · rw [ih]
        exact ⟨fun both => absurd met both.1, fun both => absurd met both.1⟩
      · rw [List.mem_cons, ih, eq_comm (a := item)]
        have again : key item ∈ seen ++ [key item] := List.mem_append_right _ List.mem_cons_self
        simp [again, met]
    · rw [decide_eq_false same]
      split_ifs with met
      · exact ih
      · have apart : item ≠ first := fun equal => same (equal ▸ rfl)
        rw [List.mem_cons, ih, or_iff_right apart, List.mem_append,
          List.mem_singleton, or_iff_left (Ne.symm same)]

/-- A fold that appends an item unless its key was met. -/
theorem foldl_keepFirst (items kept : List α) (seen : List κ) :
    (items.foldl (fun (known : List α × List κ) item =>
      if key item ∈ known.2 then known else (known.1 ++ [item], known.2 ++ [key item]))
      (kept, seen)).1 = kept ++ keepFirst key seen items := by
  induction items generalizing kept seen with
  | nil => exact (List.append_nil kept).symm
  | cons first rest ih =>
    rw [List.foldl_cons, keepFirst]
    split_ifs with met
    · exact ih kept seen
    · rw [ih, List.append_assoc]
      rfl

end KeepFirst
