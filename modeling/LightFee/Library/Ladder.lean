import LightFee.Library.OrderedDict
import Mathlib.Data.List.Pairwise
import Mathlib.Order.Defs.Unbundled

/-!
# Ladders: lists kept best first by a key

A ladder lists levels from best to worst key, each key once. The order on keys
is a parameter, so one development serves ascending and descending sides. A
ladder is determined by its members, and truncating it keeps a best prefix.

The last section says when two ladders have the same first `depth` levels
although one of them has lost its tail: they agree down to some threshold key
and enough levels lie at or above it.
-/

universe u v

namespace Ladder

variable {α : Type u} {κ : Type v} (key : α → κ) (better : κ → κ → Prop)

/-- Best first, no key twice. `better` is the reflexive order on keys. -/
def Strict (levels : List α) : Prop :=
  levels.Pairwise (fun first second => better (key first) (key second) ∧ key first ≠ key second)

variable {key better}

theorem strict_distinct {levels : List α} (strict : Strict key better levels) :
    (levels.map key).Nodup := by
  rw [List.Nodup, List.pairwise_map]
  exact strict.imp And.right

theorem strict_take {levels : List α} (strict : Strict key better levels) (depth : Nat) :
    Strict key better (levels.take depth) :=
  strict.sublist (List.take_sublist depth levels)

/-- A ladder is determined by its members. -/
theorem strict_ext [Std.Antisymm better] {left right : List α}
    (leftStrict : Strict key better left) (rightStrict : Strict key better right)
    (same : ∀ level, level ∈ left ↔ level ∈ right) : left = right := by
  have perm : left.Perm right :=
    (List.perm_ext_iff_of_nodup (strict_distinct leftStrict).of_map
      (strict_distinct rightStrict).of_map).mpr same
  refine List.Perm.eq_of_pairwise ?_ leftStrict rightStrict perm
  intro first second _ _ forward backward
  exact absurd (antisymm forward.1 backward.1) forward.2

section Sorting

variable [DecidableRel better]

/-- Stable sort by key, best first. -/
def sort (key : α → κ) (better : κ → κ → Prop) [DecidableRel better] (levels : List α) : List α :=
  levels.insertionSort (fun first second => better (key first) (key second))

@[simp] theorem mem_sort {levels : List α} {level : α} :
    level ∈ sort key better levels ↔ level ∈ levels :=
  List.mem_insertionSort _

variable (key better) in
theorem sort_perm (levels : List α) : (sort key better levels).Perm levels :=
  List.perm_insertionSort _ levels

variable (key better) in
/-- Sorting levels with distinct keys gives a ladder. -/
theorem sort_strict [Std.Total better] [IsTrans κ better] {levels : List α}
    (distinct : (levels.map key).Nodup) : Strict key better (sort key better levels) := by
  let ordered : α → α → Prop := fun first second => better (key first) (key second)
  have total : Std.Total ordered := ⟨fun first second => Std.Total.total (key first) (key second)⟩
  have transitive : IsTrans α ordered :=
    ⟨fun _ _ _ first second => IsTrans.trans _ _ _ first second⟩
  have sorted : (sort key better levels).Pairwise ordered := List.pairwise_insertionSort ordered levels
  have unique : ((sort key better levels).map key).Nodup :=
    ((sort_perm key better levels).map key).nodup_iff.mpr distinct
  rw [List.Nodup, List.pairwise_map] at unique
  exact sorted.and unique

end Sorting

section Zone

variable {inside : κ → Prop} [DecidablePred inside]

/-- A ladder starts with its levels inside a zone that is closed towards better
keys. The first level outside the zone ends that prefix. -/
theorem split_at_zone {levels : List α} (strict : Strict key better levels)
    (closed : ∀ first second, better first second → inside second → inside first) :
    levels = levels.filter (fun level => decide (inside (key level))) ++
      levels.filter (fun level => decide (¬ inside (key level))) := by
  induction levels with
  | nil => rfl
  | cons head rest ih =>
    obtain ⟨above, restStrict⟩ := List.pairwise_cons.mp strict
    by_cases reached : inside (key head)
    · simpa [reached] using ih restStrict
    · have below : ∀ level ∈ rest, ¬ inside (key level) := fun level member reaches =>
        reached (closed _ _ (above level member).1 reaches)
      have noneInside : rest.filter (fun level => decide (inside (key level))) = [] := by
        simpa [List.filter_eq_nil_iff] using below
      have allOutside : rest.filter (fun level => decide (¬ inside (key level))) = rest := by
        simpa [List.filter_eq_self] using below
      rw [List.filter_cons_of_neg (by simpa using reached), noneInside,
        List.filter_cons_of_pos (by simpa using reached), allOutside, List.nil_append]

variable (inside) in
/-- Ladders that agree inside a zone have the same levels there. -/
theorem zone_eq_of_agree [Std.Antisymm better] {left right : List α}
    (leftStrict : Strict key better left) (rightStrict : Strict key better right)
    (agree : ∀ level, inside (key level) → (level ∈ left ↔ level ∈ right)) :
    left.filter (fun level => decide (inside (key level))) =
      right.filter (fun level => decide (inside (key level))) := by
  refine strict_ext (leftStrict.sublist List.filter_sublist)
    (rightStrict.sublist List.filter_sublist) ?_
  intro level
  by_cases reached : inside (key level)
  · simpa [reached] using agree level reached
  · simp [reached]

variable (inside) in
/-- Ladders that agree inside a zone have the same best prefix, as long as that
prefix does not leave the zone in one of them. -/
theorem take_eq_of_agree [Std.Antisymm better] {left right : List α}
    (leftStrict : Strict key better left) (rightStrict : Strict key better right)
    (closed : ∀ first second, better first second → inside second → inside first)
    (agree : ∀ level, inside (key level) → (level ∈ left ↔ level ∈ right)) (depth : Nat)
    (enough : depth ≤ (left.filter (fun level => decide (inside (key level)))).length) :
    left.take depth = right.take depth := by
  have same := zone_eq_of_agree inside leftStrict rightStrict agree
  calc left.take depth
      = (left.filter (fun level => decide (inside (key level)))).take depth := by
        conv_lhs => rw [split_at_zone leftStrict closed]
        exact List.take_append_of_le_length enough
    _ = (right.filter (fun level => decide (inside (key level)))).take depth := by
        rw [same]
    _ = right.take depth := by
        conv_rhs => rw [split_at_zone rightStrict closed]
        exact (List.take_append_of_le_length (same ▸ enough)).symm

end Zone

/-- A level is among the first `depth` exactly when fewer than `depth` levels
have a strictly better key. -/
theorem mem_take_iff [DecidableRel better] [DecidableEq κ] [Std.Antisymm better] {levels : List α}
    (strict : Strict key better levels) {level : α} (member : level ∈ levels) (depth : Nat) :
    level ∈ levels.take depth ↔
      (levels.filter (fun other => decide (better (key other) (key level) ∧
        key other ≠ key level))).length < depth := by
  induction levels generalizing depth with
  | nil => cases member
  | cons head rest ih =>
    obtain ⟨above, restStrict⟩ := List.pairwise_cons.mp strict
    cases depth with
    | zero => simp
    | succ depth =>
      rcases List.mem_cons.mp member with rfl | later
      · have noneAhead : (rest.filter (fun other => decide (better (key other) (key level) ∧
            key other ≠ key level))) = [] := by
          rw [List.filter_eq_nil_iff]
          intro other belongs
          have behind := above other belongs
          simpa using fun ahead => antisymm ahead behind.1
        rw [List.filter_cons_of_neg (by simp), noneAhead]
        simp
      · have ahead := above level later
        have notHead : level ≠ head := fun same => ahead.2 (by rw [same])
        rw [List.take_succ_cons, List.filter_cons_of_pos (by simpa using ahead),
          List.length_cons, Nat.succ_lt_succ_iff, ← ih restStrict later depth]
        simp [notHead]

end Ladder
