import Mathlib.Data.List.MinMax
import Mathlib.Data.List.Perm.Basic

/-!
# Fields of preferred items

A record merged from many items takes each field from its preferred items, and from all items
where no preferred one has the field. Ordered fields take the latest value, the others the first
one.
-/

namespace Preference

variable {α β : Type}

/-- The first value of a preferred item, else of any item. -/
def firstFrom (field : α → Option β) (preferred all : List α) : Option β :=
  (preferred.findSome? field).or (all.findSome? field)

/-- The latest of the times, in one pass. -/
def latest (times : List Int) : Option Int :=
  times.foldl (fun known time => if known.all (· < time) then some time else known) none

/-- The latest time of a preferred item, else of any item. -/
def latestFrom (time : α → Option Int) (preferred all : List α) : Option Int :=
  (latest (preferred.filterMap time)).or (latest (all.filterMap time))

theorem latest_from (times : List Int) (known : Int) :
    times.foldl (fun known time => if known.all (· < time) then some time else known)
      (some known) = some (times.foldl max known) := by
  induction times generalizing known with
  | nil => rfl
  | cons time rest ih =>
    rw [List.foldl_cons, List.foldl_cons, ← ih]
    by_cases later : known < time
    · simp [later, max_eq_right later.le]
    · simp [later, max_eq_left (not_lt.mp later)]

/-- The pass finds the maximum. -/
theorem latest_eq (times : List Int) : latest times = times.max? := by
  cases times with
  | nil => rfl
  | cons time rest =>
    rw [latest, List.foldl_cons, List.max?_cons']
    exact latest_from rest time

theorem latest_some (times : List Int) (time : Int) :
    latest times = some time ↔ time ∈ times ∧ ∀ other ∈ times, other ≤ time := by
  rw [latest_eq]
  exact List.max?_eq_some_iff

theorem latest_perm {times others : List Int} (same : times.Perm others) :
    latest times = latest others := by
  apply Option.ext
  intro time
  rw [latest_some, latest_some, same.mem_iff]
  simp only [same.mem_iff]

/-- Ordered fields do not depend on the order of the items. -/
theorem latestFrom_perm (time : α → Option Int) {preferred others all rest : List α}
    (same : preferred.Perm others) (whole : all.Perm rest) :
    latestFrom time preferred all = latestFrom time others rest := by
  rw [latestFrom, latestFrom, latest_perm (same.filterMap time), latest_perm (whole.filterMap time)]

end Preference
