import LightFee.Library.DecimalText
import LightFee.Library.OrderedDict

/-!
# Dynamically typed values

Values of a dynamically typed language as its services receive them: decoded
payloads, records with attributes and enumeration members. The conversions are
the built-in ones: truth values, numbers, texts and member access, with a
failing conversion answered by `none`. A float carries the text it prints as;
sequences of every kind are one constructor.

Letter case depends on the language's character tables. They are a parameter,
so a result about texts holds for any table.
-/

/-- The character tables behind `upper` and `lower`. ASCII characters without an
upper-case letter among them are left alone by `lower`. -/
class TextCase where
  upper : String → String
  lower : String → String
  lower_plain : ∀ text : String, (∀ c ∈ text.toList, c.toNat < 128 ∧ c.toLower = c) →
    lower text = text

/-- Letters outside ASCII are left alone. -/
abbrev TextCase.ascii : TextCase where
  upper := String.toUpper
  lower := String.toLower
  lower_plain := by
    intro text plain
    change text.map Char.toLower = text
    rw [String.map_eq_internal, List.map_congr_left (fun c member => (plain c member).2),
      List.map_id', String.ofList_toList]

/-- A float beside the shortest literal that reads as it. -/
structure PrintedFloat where
  text : String
  value : ExactFloat
  reads : DecimalText.parse text = some value

inductive DynValue where
  | null
  | bool (value : Bool)
  | int (value : Int)
  | float (value : PrintedFloat)
  | str (value : String)
  /-- A list, tuple or set. -/
  | list (items : List DynValue)
  /-- A mapping with text keys. -/
  | dict (entries : List (String × DynValue))
  /-- A record or enumeration member: its attributes. -/
  | obj (attributes : List (String × DynValue))

namespace DynValue

def truthy : DynValue → Bool
  | null => false
  | bool value => value
  | int value => value ≠ 0
  | float value => value.value.truthy
  | str value => value ≠ ""
  | list items => !items.isEmpty
  | dict entries => !entries.isEmpty
  | obj _ => true

/-- `value or fallback`. -/
def orElse (value fallback : DynValue) : DynValue := if value.truthy then value else fallback

def isMapping : DynValue → Bool
  | dict _ => true
  | _ => false

/-- `value is None`. -/
def isNull : DynValue → Bool
  | null => true
  | _ => false

/-- `value is True`. -/
def isTrue : DynValue → Bool
  | bool value => value
  | _ => false

/-- Entries of a mapping. -/
def entries : DynValue → List (String × DynValue)
  | dict entries => entries
  | _ => []

/-- `mapping.get(key)` or an attribute, when there is one. -/
def member? (value : DynValue) (key : String) : Option DynValue :=
  match value with
  | dict entries => OrderedDict.lookupEntries key entries
  | obj attributes => OrderedDict.lookupEntries key attributes
  | _ => none

/-- `key in mapping`. -/
def hasKey (value : DynValue) (key : String) : Bool :=
  (OrderedDict.lookupEntries key value.entries).isSome

/-- `mapping.get(key, default)` or `getattr(record, key, default)`. -/
def get (value : DynValue) (key : String) (default : DynValue := null) : DynValue :=
  (value.member? key).getD default

/-- An enumeration member stands for its value. -/
def unwrap : DynValue → DynValue
  | obj attributes => (OrderedDict.lookupEntries "value" attributes).getD (obj attributes)
  | value => value

/-- Items of a collection: a mapping gives its values, any other value itself. -/
def items : DynValue → List DynValue
  | null => []
  | dict entries => entries.map Prod.snd
  | list items => items
  | value => [value]

/-! ## Numbers -/

/-- An integer literal with optional sign and single underscores. -/
def intLiteral (text : String) : Option Int :=
  match DecimalText.signOf (DecimalText.strip text.toList) with
  | (negative, body) =>
    match DecimalText.digitRun (DecimalText.dropSeparators body) with
    | (first :: more, []) =>
      let magnitude : Int := DecimalText.digitsValue (first :: more)
      some (if negative then -magnitude else magnitude)
    | _ => none

/-- `int(value)`; a float is cut towards zero. -/
def toInt? : DynValue → Option Int
  | bool value => some (if value then 1 else 0)
  | int value => some value
  | float value =>
    match value.value with
    | .finite exact => some (exact.num.tdiv exact.den)
    | _ => none
  | str value => intLiteral value
  | _ => none

/-- `float(value)`. -/
def toFloat? : DynValue → Option ExactFloat
  | bool value => some (.finite (if value then 1 else 0))
  | int value => some (.finite value)
  | float value => some value.value
  | str value => DecimalText.parse value
  | _ => none

/-! ## Texts -/

/-- `repr` of a text: quoted, with the quotes and escapes of the language. -/
def quoted (text : String) : String :=
  let quote := if '\'' ∈ text.toList ∧ '"' ∉ text.toList then '"' else '\''
  let escape (c : Char) : List Char :=
    if c = quote ∨ c = '\\' then ['\\', c]
    else if c = '\n' then ['\\', 'n']
    else if c = '\r' then ['\\', 'r']
    else if c = '\t' then ['\\', 't']
    else [c]
  String.ofList (quote :: text.toList.flatMap escape ++ [quote])

mutual

/-- `repr(value)`. -/
def repr : DynValue → String
  | null => "None"
  | bool value => if value then "True" else "False"
  | int value => toString value
  | float value => value.text
  | str value => quoted value
  | list items => "[" ++ ", ".intercalate (reprItems items) ++ "]"
  | dict entries => "\x7b" ++ ", ".intercalate (reprEntries entries) ++ "\x7d"
  | obj _ => "<object>"

def reprItems : List DynValue → List String
  | [] => []
  | item :: rest => item.repr :: reprItems rest

def reprEntries : List (String × DynValue) → List String
  | [] => []
  | (key, value) :: rest => (quoted key ++ ": " ++ value.repr) :: reprEntries rest

end

/-- `str(value)`. -/
def text : DynValue → String
  | str value => value
  | value => value.repr

end DynValue
