import Mathlib.Data.List.Induction
import Mathlib.Data.List.Nodup

/-!
# Grants remembered in one cell

Something is asked for by name, and granted unless the cell holds its name. A grant overwrites the
cell with its name, or clears it when the grant is not kept. A cell remembers the last grant only,
so a name is granted once exactly when it is not asked for again after another one.
-/

universe u

namespace OneCellMemory

variable {α : Type u} [DecidableEq α]

/-- Something asked for, and whether a grant of it is kept in the cell. -/
structure Request (α : Type u) where
  name : α
  kept : Bool

/-- The cell after a request. -/
def after (cell : Option α) (request : Request α) : Option α :=
  if cell = some request.name then cell
  else if request.kept then some request.name else none

/-- What one request is granted. -/
def granted (cell : Option α) (request : Request α) : List α :=
  if cell = some request.name then [] else [request.name]

/-- The grants of a list of requests, first request first. -/
def grants : Option α → List (Request α) → List α
  | _, [] => []
  | cell, request :: rest => granted cell request ++ grants (after cell request) rest

def names (requests : List (Request α)) : List α := requests.map Request.name

/-- The first request of the name is kept. -/
def firstKept (requests : List (Request α)) (name : α) : Bool :=
  (requests.find? (fun request => request.name = name)).any Request.kept

/-- What is asked for again was asked for just before as well, and its first request is kept. -/
def Remembered (requests : List (Request α)) : Prop :=
  ∀ before request later, requests = before ++ request :: later → request.name ∈ names before →
    (names before).getLast? = some request.name ∧ firstKept before request.name = true

theorem grants_append (cell : Option α) (requests : List (Request α)) (last : Request α) :
    grants cell (requests ++ [last]) =
      grants cell requests ++ granted (requests.foldl after cell) last := by
  induction requests generalizing cell with
  | nil => simp [grants]
  | cons request rest rest_ih => simp [grants, rest_ih]

/-- A cell holds what it held or what was asked for. -/
theorem held_asked (requests : List (Request α)) :
    ∀ (cell : Option α) (name : α), requests.foldl after cell = some name →
      cell = some name ∨ name ∈ names requests := by
  induction requests with
  | nil => exact fun cell name held => Or.inl held
  | cons request rest rest_ih =>
    intro cell name held
    rw [names, List.map_cons, List.mem_cons]
    obtain now | later := rest_ih (after cell request) name held
    · rw [after] at now
      split_ifs at now with same kept
      · exact Or.inl now
      · exact Or.inr (Or.inl (Option.some.inj now).symm)
    · exact Or.inr (Or.inr later)

theorem granted_asked (requests : List (Request α)) :
    ∀ (cell : Option α) (name : α), name ∈ grants cell requests → name ∈ names requests := by
  induction requests with
  | nil => exact fun cell name isGrant => isGrant
  | cons request rest rest_ih =>
    intro cell name isGrant
    rw [grants, List.mem_append, granted] at isGrant
    rw [names, List.map_cons, List.mem_cons]
    obtain now | later := isGrant
    · split_ifs at now with same
      · exact absurd now List.not_mem_nil
      · exact Or.inl (List.mem_singleton.mp now)
    · exact Or.inr (rest_ih _ name later)

/-- What is asked for is granted, unless the cell holds it from the start. -/
theorem asked_granted (requests : List (Request α)) :
    ∀ (cell : Option α) (name : α), name ∈ names requests →
      name ∈ grants cell requests ∨ cell = some name := by
  induction requests with
  | nil => exact fun cell name asked => Or.inl asked
  | cons request rest rest_ih =>
    intro cell name asked
    rw [names, List.map_cons, List.mem_cons] at asked
    rw [grants, List.mem_append, granted]
    obtain rfl | later := asked
    · split_ifs with same
      · exact Or.inr same
      · exact Or.inl (Or.inl List.mem_cons_self)
    · obtain isGrant | held := rest_ih (after cell request) name later
      · exact Or.inl (Or.inr isGrant)
      · rw [after] at held
        split_ifs at held with same kept
        · exact Or.inr held
        · split_ifs
          exact Or.inl (Or.inl (List.mem_singleton.mpr (Option.some.inj held).symm))

theorem mem_grants (requests : List (Request α)) (name : α) :
    name ∈ grants none requests ↔ name ∈ names requests := by
  constructor
  · exact granted_asked requests none name
  · intro asked
    obtain isGrant | held := asked_granted requests none name asked
    · exact isGrant
    · exact absurd held (by simp)

/-! ## Requests that are remembered -/

theorem remembered_append (requests : List (Request α)) (last : Request α) :
    Remembered (requests ++ [last]) ↔
      Remembered requests ∧ (last.name ∈ names requests →
        (names requests).getLast? = some last.name ∧ firstKept requests last.name = true) := by
  constructor
  · intro remembered
    refine ⟨?_, fun asked => remembered requests last [] rfl asked⟩
    intro before request later split asked
    exact remembered before request (later ++ [last]) (by rw [split]; simp) asked
  · rintro ⟨earlier, again⟩ before request later split asked
    obtain rfl | ⟨rest, final, rfl⟩ := later.eq_nil_or_concat'
    · obtain ⟨rfl, same⟩ := List.append_inj' split rfl
      obtain rfl := List.cons.inj same |>.1
      exact again asked
    · have cut : requests = before ++ request :: rest := by
        rw [← List.cons_append, ← List.append_assoc] at split
        exact (List.append_inj' split rfl).1
      exact earlier before request rest cut asked

theorem firstKept_append (requests : List (Request α)) (last : Request α) (name : α) :
    firstKept (requests ++ [last]) name =
      if name ∈ names requests then firstKept requests name
      else decide (last.name = name) && last.kept := by
  rw [firstKept, firstKept, List.find?_append, names]
  cases found : requests.find? (fun request => request.name = name) with
  | some first =>
    have member := List.mem_of_find?_eq_some found
    have named : first.name = name := by simpa using List.find?_some found
    rw [if_pos (List.mem_map.mpr ⟨first, member, named⟩)]
    rfl
  | none =>
    rw [if_neg]
    · by_cases same : last.name = name <;> simp [same]
    · rintro asked
      obtain ⟨request, member, named⟩ := List.mem_map.mp asked
      have other := List.find?_eq_none.mp found request member
      simp [named] at other

/-- With remembered requests the cell holds the last name, if its first request was kept. -/
theorem remembered_cell (requests : List (Request α)) (remembered : Remembered requests) :
    requests.foldl after none =
      (names requests).getLast?.filter (fun name => firstKept requests name) := by
  induction requests using List.reverseRecOn with
  | nil => rfl
  | append_singleton rest last rest_ih =>
    obtain ⟨earlier, again⟩ := (remembered_append rest last).mp remembered
    have cell := rest_ih earlier
    have lastName : (names (rest ++ [last])).getLast? = some last.name := by simp [names]
    rw [List.foldl_append, List.foldl_cons, List.foldl_nil, after, lastName, Option.filter,
      firstKept_append]
    by_cases asked : last.name ∈ names rest
    · obtain ⟨previous, kept⟩ := again asked
      have held : rest.foldl after none = some last.name := by
        rw [cell, previous, Option.filter, kept, if_pos rfl]
      rw [if_pos held, held, if_pos asked, kept, if_pos rfl]
    · have fresh : rest.foldl after none ≠ some last.name := by
        intro held
        obtain impossible | earlierName := held_asked rest none last.name held
        · exact absurd impossible (by simp)
        · exact asked earlierName
      rw [if_neg fresh, if_neg asked, decide_eq_true rfl, Bool.true_and]

/-- Every name is granted at most once exactly when the requests are remembered. -/
theorem nodup_grants_iff (requests : List (Request α)) :
    (grants none requests).Nodup ↔ Remembered requests := by
  induction requests using List.reverseRecOn with
  | nil =>
    refine ⟨fun _ before request later split => ?_, fun _ => List.nodup_nil⟩
    simp at split
  | append_singleton rest last rest_ih =>
    rw [grants_append, remembered_append, ← rest_ih, granted]
    constructor
    · intro distinct
      have earlier : (grants none rest).Nodup := distinct.of_append_left
      refine ⟨earlier, fun asked => ?_⟩
      have cell := remembered_cell rest (rest_ih.mp earlier)
      split_ifs at distinct with held
      · rw [cell, Option.filter_eq_some_iff] at held
        exact held
      · have apart := (List.nodup_append.mp distinct).2.2 last.name
          ((mem_grants rest last.name).mpr asked) last.name List.mem_cons_self
        exact absurd rfl apart
    · rintro ⟨earlier, again⟩
      split_ifs with held
      · rw [List.append_nil]
        exact earlier
      · refine List.nodup_append.mpr ⟨earlier, List.nodup_singleton _, ?_⟩
        intro name isGrant other single same
        rw [List.mem_singleton] at single
        have asked : last.name ∈ names rest := by
          rw [← single, ← same]
          exact (mem_grants rest name).mp isGrant
        apply held
        rw [remembered_cell rest (rest_ih.mp earlier), Option.filter_eq_some_iff]
        exact again asked

end OneCellMemory
