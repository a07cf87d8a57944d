import LightFee.Library.ExactFloat
import Mathlib.Data.List.Basic

/-!
# Decimal literals

The text accepted by a floating-point constructor, read exactly: an optional
sign, digits with an optional point and an optional power of ten, with single
underscores allowed between digits and white space around the literal. The
literals for infinity and not-a-number give the floats of those names.
-/

namespace DecimalText

/-- White space removed from both ends of a literal. -/
def isSpace (c : Char) : Bool :=
  (9 ≤ c.toNat && c.toNat ≤ 13) || (28 ≤ c.toNat && c.toNat ≤ 32) || c.toNat == 0x85 ||
    c.toNat == 0xa0 || c.toNat == 0x1680 || (0x2000 ≤ c.toNat && c.toNat ≤ 0x200a) ||
    c.toNat == 0x2028 || c.toNat == 0x2029 || c.toNat == 0x202f || c.toNat == 0x205f ||
    c.toNat == 0x3000

/-- Remove white space at both ends. -/
def strip (text : List Char) : List Char :=
  ((text.dropWhile isSpace).reverse.dropWhile isSpace).reverse

/-- Decimal value of a digit. -/
def digit? (c : Char) : Option Nat :=
  if 48 ≤ c.toNat ∧ c.toNat ≤ 57 then some (c.toNat - 48) else none

/-- Remove each underscore that stands between two digits; any other one stays
and makes the literal malformed. -/
def dropSeparators : List Char → List Char
  | first :: '_' :: next :: rest =>
    if (digit? first).isSome && (digit? next).isSome then
      first :: dropSeparators (next :: rest)
    else first :: '_' :: dropSeparators (next :: rest)
  | first :: rest => first :: dropSeparators rest
  | [] => []

/-- Leading digits and the remaining text. -/
def digitRun : List Char → List Nat × List Char
  | [] => ([], [])
  | c :: rest =>
    match digit? c with
    | some value => (value :: (digitRun rest).1, (digitRun rest).2)
    | none => ([], c :: rest)

/-- Digits read with the most significant one first. -/
def digitsValue (digits : List Nat) : Nat := digits.foldl (fun total next => 10 * total + next) 0

/-- An optional sign: whether it is negative, and the text after it. -/
def signOf : List Char → Bool × List Char
  | '-' :: rest => (true, rest)
  | '+' :: rest => (false, rest)
  | text => (false, text)

/-- An optional fraction: its digits and the text after them. -/
def fractionOf : List Char → List Nat × List Char
  | '.' :: rest => digitRun rest
  | text => ([], text)

/-- An optional exponent, which must end the literal. -/
def exponentOf : List Char → Option Int
  | [] => some 0
  | marker :: rest =>
    if marker = 'e' ∨ marker = 'E' then
      match signOf rest with
      | (negative, digits) =>
        match digitRun digits with
        | ([], _) => none
        | (run, []) => some (if negative then -(digitsValue run : Int) else digitsValue run)
        | (_, _ :: _) => none
    else none

/-- A whole number scaled by a power of ten. -/
def scaled (value : Nat) (exponent : Int) : ℚ :=
  if 0 ≤ exponent then (value * 10 ^ exponent.toNat : Nat)
  else mkRat value (10 ^ (-exponent).toNat)

/-- A finite decimal literal without sign or surrounding space. -/
def unsigned (text : List Char) : Option ℚ :=
  match digitRun text with
  | (whole, afterWhole) =>
    match fractionOf afterWhole with
    | (fraction, afterFraction) =>
      if whole ++ fraction = [] then none
      else (exponentOf afterFraction).map (fun exponent =>
        scaled (digitsValue (whole ++ fraction)) (exponent - (fraction.length : Int)))

/-- ASCII lower case, for the names of the special literals. -/
def lower (text : List Char) : List Char := text.map Char.toLower

/-- The value of a literal, or nothing when the text is malformed. -/
def parse (text : String) : Option ExactFloat :=
  match signOf (strip text.toList) with
  | (negative, body) =>
    if lower body = ['i', 'n', 'f'] ∨ lower body = ['i', 'n', 'f', 'i', 'n', 'i', 't', 'y'] then
      some (.infinite negative)
    else if lower body = ['n', 'a', 'n'] then some .notANumber
    else (unsigned (dropSeparators body)).map (fun value =>
      .finite (if negative then -value else value))

/-- The value of a finite decimal literal. -/
def decimal (text : String) : Option ℚ :=
  match parse text with
  | some (.finite value) => some value
  | _ => none

theorem decimal_iff {text : String} {value : ℚ} :
    decimal text = some value ↔ parse text = some (.finite value) := by
  unfold decimal
  split <;> simp_all

example : decimal " -1_0.25e1 " = some (-(205 / 2)) := by decide +kernel
example : parse "Infinity" = some (.infinite false) := by decide +kernel
example : decimal "1__0" = none := by decide +kernel

end DecimalText
