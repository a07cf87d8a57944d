import LightFee.Library.DynValue

/-!
# Records written in place

A mapping of a dynamically typed language is written key by key. Writing a key changes what is read
there and nothing else; so does taking it out. What is not a mapping has no keys to write.
-/

namespace DynValue

/-- `record[key] = value`. -/
def set (record : DynValue) (key : String) (value : DynValue) : DynValue :=
  match record with
  | dict entries => dict (OrderedDict.putEntries key value entries)
  | other => other

/-- `record.pop(key, None)`. -/
def drop (record : DynValue) (key : String) : DynValue :=
  match record with
  | dict entries => dict (entries.filter (fun entry => entry.1 ≠ key))
  | other => other

/-- One key written, or taken out. -/
def amendOne (record : DynValue) (change : String × Option DynValue) : DynValue :=
  match change.2 with
  | some value => record.set change.1 value
  | none => record.drop change.1

/-- Keys written and taken out one after another. -/
def amend (record : DynValue) (changes : List (String × Option DynValue)) : DynValue :=
  changes.foldl amendOne record

@[simp] theorem isMapping_set (record : DynValue) (key : String) (value : DynValue) :
    (record.set key value).isMapping = record.isMapping := by
  cases record <;> rfl

@[simp] theorem isMapping_drop (record : DynValue) (key : String) :
    (record.drop key).isMapping = record.isMapping := by
  cases record <;> rfl

theorem member_set {record : DynValue} (mapping : record.isMapping = true) (key : String)
    (value : DynValue) (tested : String) :
    (record.set key value).member? tested =
      if key = tested then some value else record.member? tested := by
  cases record with
  | dict entries => exact OrderedDict.lookup_put key value entries tested
  | _ => simp [isMapping] at mapping

theorem lookup_filter (key : String) (entries : List (String × DynValue)) (tested : String) :
    OrderedDict.lookupEntries tested (entries.filter (fun entry => entry.1 ≠ key)) =
      if key = tested then none else OrderedDict.lookupEntries tested entries := by
  induction entries with
  | nil => simp [OrderedDict.lookupEntries]
  | cons entry rest rest_ih =>
    by_cases gone : entry.1 = key
    · rw [List.filter_cons_of_neg (by simp [gone]), rest_ih]
      by_cases same : key = tested
      · rw [if_pos same, if_pos same]
      · rw [if_neg same, if_neg same, OrderedDict.lookupEntries, gone, if_neg same]
    · rw [List.filter_cons_of_pos (by simp [gone])]
      by_cases same : key = tested
      · have other : entry.1 ≠ tested := fun equal => gone (equal.trans same.symm)
        rw [OrderedDict.lookupEntries, if_neg other, rest_ih, if_pos same, if_pos same]
      · rw [if_neg same] at rest_ih ⊢
        rw [OrderedDict.lookupEntries, OrderedDict.lookupEntries, rest_ih]

theorem member_drop {record : DynValue} (mapping : record.isMapping = true) (key tested : String) :
    (record.drop key).member? tested = if key = tested then none else record.member? tested := by
  cases record with
  | dict entries => exact lookup_filter key entries tested
  | _ => simp [isMapping] at mapping

theorem get_set {record : DynValue} (mapping : record.isMapping = true) (key : String)
    (value : DynValue) (tested : String) (default : DynValue) :
    (record.set key value).get tested default =
      if key = tested then value else record.get tested default := by
  rw [get, member_set mapping]
  split_ifs <;> rfl

@[simp] theorem isMapping_amend (record : DynValue) (changes : List (String × Option DynValue)) :
    (record.amend changes).isMapping = record.isMapping := by
  induction changes generalizing record with
  | nil => rfl
  | cons change rest rest_ih =>
    rw [amend, List.foldl_cons, ← amend, rest_ih, amendOne]
    split <;> simp

/-- A key that no change names keeps its value. -/
theorem member_amend {record : DynValue} (mapping : record.isMapping = true)
    {changes : List (String × Option DynValue)} {key : String}
    (unnamed : key ∉ changes.map Prod.fst) :
    (record.amend changes).member? key = record.member? key := by
  induction changes generalizing record with
  | nil => rfl
  | cons change rest rest_ih =>
    rw [List.map_cons, List.mem_cons, not_or] at unnamed
    have other : change.1 ≠ key := fun same => unnamed.1 same.symm
    have stillMapping : (record.amendOne change).isMapping = true :=
      (isMapping_amend record [change]).trans mapping
    rw [amend, List.foldl_cons, ← amend, rest_ih stillMapping unnamed.2, amendOne]
    split
    · rw [member_set mapping, if_neg other]
    · rw [member_drop mapping, if_neg other]

theorem get_amend {record : DynValue} (mapping : record.isMapping = true)
    {changes : List (String × Option DynValue)} {key : String}
    (unnamed : key ∉ changes.map Prod.fst) (default : DynValue) :
    (record.amend changes).get key default = record.get key default := by
  rw [get, get, member_amend mapping unnamed]

/-- A key that the last change names holds what it wrote. -/
theorem member_amend_last {record : DynValue} (mapping : record.isMapping = true)
    (earlier : List (String × Option DynValue)) (change : String × Option DynValue)
    {later : List (String × Option DynValue)} (unnamed : change.1 ∉ later.map Prod.fst) :
    (record.amend (earlier ++ change :: later)).member? change.1 = change.2 := by
  have split : record.amend (earlier ++ change :: later) =
      ((record.amend earlier).amendOne change).amend later := by
    rw [amend, List.foldl_append, List.foldl_cons, ← amend, ← amend]
  have before : (record.amend earlier).isMapping = true :=
    (isMapping_amend record earlier).trans mapping
  have written : ((record.amend earlier).amendOne change).isMapping = true :=
    (isMapping_amend _ [change]).trans before
  rw [split, member_amend written unnamed, amendOne]
  obtain ⟨key, value | value⟩ := change
  · rw [member_drop before, if_pos rfl]
  · rw [member_set before, if_pos rfl]

theorem get_amend_last {record : DynValue} (mapping : record.isMapping = true)
    (earlier : List (String × Option DynValue)) (key : String) (value : DynValue)
    {later : List (String × Option DynValue)} (unnamed : key ∉ later.map Prod.fst)
    (default : DynValue) :
    (record.amend (earlier ++ (key, some value) :: later)).get key default = value := by
  rw [get, member_amend_last mapping earlier (key, some value) unnamed]
  rfl

theorem put_same {key : String} {value : DynValue} {entries : List (String × DynValue)}
    (stored : OrderedDict.lookupEntries key entries = some value) :
    OrderedDict.putEntries key value entries = entries := by
  induction entries with
  | nil => cases stored
  | cons entry rest rest_ih =>
    rw [OrderedDict.lookupEntries] at stored
    rw [OrderedDict.putEntries]
    split_ifs at stored ⊢ with here
    · rw [← Option.some.inj stored]
    · rw [rest_ih stored]

/-- Writing what is there changes nothing. -/
theorem set_same {record : DynValue} {key : String} {value : DynValue}
    (stored : record.member? key = some value) : record.set key value = record := by
  cases record with
  | dict entries => exact congrArg dict (put_same stored)
  | _ => rfl

end DynValue
