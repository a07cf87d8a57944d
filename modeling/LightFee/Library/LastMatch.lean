import Mathlib.Data.List.Forall2

/-!
# The last match of a list

The last element that passes a test is read and rewritten in its place. Rewriting it is seen by its
own test and by no test that neither the old nor the new element passes.
-/

universe u

namespace LastMatch

variable {α : Type u}

/-- The last element that passes. -/
def find (test : α → Bool) : List α → Option α
  | [] => none
  | item :: rest => (find test rest).or (if test item then some item else none)

/-- The last element that passes, rewritten. -/
def rewrite (test : α → Bool) (change : α → α) : List α → List α
  | [] => []
  | item :: rest =>
    if (find test rest).isSome then item :: rewrite test change rest
    else if test item then change item :: rest
    else item :: rest

theorem find_append (test : α → Bool) (items : List α) (item : α) :
    find test (items ++ [item]) = if test item then some item else find test items := by
  induction items with
  | nil => simp [find]
  | cons first rest rest_ih =>
    rw [List.cons_append, find, find, rest_ih]
    split_ifs <;> simp

theorem find_passes {test : α → Bool} {items : List α} {found : α}
    (last : find test items = some found) : found ∈ items ∧ test found = true := by
  induction items with
  | nil => cases last
  | cons item rest rest_ih =>
    rw [find] at last
    cases later : find test rest with
    | some other =>
      rw [later, Option.some_or] at last
      obtain ⟨member, passes⟩ := rest_ih (later.trans last)
      exact ⟨List.mem_cons_of_mem _ member, passes⟩
    | none =>
      rw [later, Option.none_or] at last
      split_ifs at last with passes
      obtain rfl := Option.some.inj last
      exact ⟨List.mem_cons_self, passes⟩

/-- The rewritten element is the last that passes, if it still does. -/
theorem find_rewrite {test : α → Bool} {change : α → α} {items : List α}
    (kept : ∀ item, test item = true → test (change item) = true) :
    find test (rewrite test change items) = (find test items).map change := by
  induction items with
  | nil => rfl
  | cons item rest rest_ih =>
    rw [rewrite, find]
    cases later : find test rest with
    | some other =>
      rw [later] at rest_ih
      rw [if_pos Option.isSome_some, find, rest_ih]
      rfl
    | none =>
      rw [if_neg (by simp), Option.none_or]
      split_ifs with passes
      · rw [find, later, Option.none_or, if_pos (kept item passes)]
        rfl
      · rw [find, later, Option.none_or, if_neg passes]
        rfl

/-- A test that no rewritten element passes, before or after, answers as before. -/
theorem find_rewrite_other {test other : α → Bool} {change : α → α} {items : List α}
    (apart : ∀ item, test item = true → other item = false ∧ other (change item) = false) :
    find other (rewrite test change items) = find other items := by
  induction items with
  | nil => rfl
  | cons item rest rest_ih =>
    rw [rewrite]
    split_ifs with later passes
    · rw [find, find, rest_ih]
    · rw [find, find, (apart item passes).1, (apart item passes).2]
      rfl
    · rfl

/-- Every element stays, but for the last that passes. -/
theorem rewrite_kept (test : α → Bool) (change : α → α) (items : List α) :
    List.Forall₂ (fun before after => after = before ∨
      find test items = some before ∧ after = change before) items (rewrite test change items) := by
  have refl : ∀ (relation : α → α → Prop), (∀ item, relation item item) →
      ∀ items : List α, List.Forall₂ relation items items := fun relation same items =>
    List.forall₂_same.mpr (fun item _ => same item)
  induction items with
  | nil => exact List.Forall₂.nil
  | cons item rest rest_ih =>
    rw [rewrite, find]
    cases later : find test rest with
    | some other =>
      rw [if_pos Option.isSome_some, Option.some_or]
      rw [later] at rest_ih
      exact List.Forall₂.cons (Or.inl rfl) rest_ih
    | none =>
      rw [if_neg (show ¬(none : Option α).isSome = true by simp), Option.none_or]
      split_ifs with passes
      · exact List.Forall₂.cons (Or.inr ⟨rfl, rfl⟩) (refl _ (fun _ => Or.inl rfl) rest)
      · exact List.Forall₂.cons (Or.inl rfl) (refl _ (fun _ => Or.inl rfl) rest)

end LastMatch
