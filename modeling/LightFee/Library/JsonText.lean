import LightFee.Library.OrderedDict
import Mathlib.Data.List.TakeWhile

/-!
# JSON texts

Values are written with a blank after every comma and colon and read back by a
scanner. A text is a list of code points, so that an escaped half of a surrogate
pair can be read; only valid characters can be written. A float is the literal
it was written as.

An interpreter nests values to a limited depth and converts integers of a limited
number of digits. Beyond a limit both directions raise; a malformed text is a
different error.
-/

namespace JsonText

abbrev CodePoints := List Nat

/-- One or more decimal digits. -/
structure Digits where
  text : List Char
  nonempty : text ≠ []
  digits : ∀ c ∈ text, c.isDigit = true

structure Exponent where
  upper : Bool
  sign : Option Bool
  digits : Digits

/-- What makes a number a float. -/
inductive FloatTail where
  | fraction (digits : Digits) (exponent : Option Exponent)
  | exponent (exponent : Exponent)

/-- The literal of a finite float. -/
structure FloatLiteral where
  negative : Bool
  whole : Nat
  tail : FloatTail

inductive JsonValue where
  | null
  | bool (value : Bool)
  | int (value : Int)
  | float (literal : FloatLiteral)
  | infinite (negative : Bool)
  | notANumber
  | str (points : CodePoints)
  | list (items : List JsonValue)
  | dict (entries : List (CodePoints × JsonValue))

/-- How deep an interpreter nests and how many digits it converts. -/
structure Limits where
  depth : Nat
  digits : Nat

/-- The end of a scan without a value. -/
inductive ScanError where
  | malformed
  | raises
deriving DecidableEq

/-! ## Writing -/

/-- The character of a code point, escaped where the text needs it. -/
def escapePoint (point : Nat) : List Char :=
  if point = 0x22 then ['\\', '"']
  else if point = 0x5c then ['\\', '\\']
  else if point = 8 then ['\\', 'b']
  else if point = 9 then ['\\', 't']
  else if point = 10 then ['\\', 'n']
  else if point = 12 then ['\\', 'f']
  else if point = 13 then ['\\', 'r']
  else if point < 0x20 then
    ['\\', 'u', '0', '0', Nat.digitChar (point / 16), Nat.digitChar (point % 16)]
  else [Char.ofNat point]

def renderPoints (points : CodePoints) : List Char := points.flatMap escapePoint

/-- A quoted text, with what follows its opening quote. -/
def renderString (points : CodePoints) : List Char := '"' :: (renderPoints points ++ ['"'])

def renderNat (value : Nat) : List Char := Nat.toDigits 10 value

def signText (negative : Bool) : List Char := if negative then ['-'] else []

def Exponent.text (exponent : Exponent) : List Char :=
  (if exponent.upper then 'E' else 'e') ::
    ((match exponent.sign with
      | none => []
      | some negative => [if negative then '-' else '+']) ++ exponent.digits.text)

def FloatTail.text : FloatTail → List Char
  | .fraction digits marked => '.' :: (digits.text ++ (marked.map Exponent.text).getD [])
  | .exponent marked => marked.text

def FloatLiteral.text (literal : FloatLiteral) : List Char :=
  signText literal.negative ++ (renderNat literal.whole ++ literal.tail.text)

mutual

def render : JsonValue → List Char
  | .null => ['n', 'u', 'l', 'l']
  | .bool true => ['t', 'r', 'u', 'e']
  | .bool false => ['f', 'a', 'l', 's', 'e']
  | .int value => signText (value < 0) ++ renderNat value.natAbs
  | .float literal => literal.text
  | .infinite negative => signText negative ++ ['I', 'n', 'f', 'i', 'n', 'i', 't', 'y']
  | .notANumber => ['N', 'a', 'N']
  | .str points => renderString points
  | .list [] => ['[', ']']
  | .list (first :: rest) => '[' :: (render first ++ renderItems rest)
  | .dict [] => ['\x7b', '\x7d']
  | .dict ((key, value) :: rest) =>
    '\x7b' :: (renderString key ++ (':' :: ' ' :: (render value ++ renderEntries rest)))

/-- Further items and the closing bracket. -/
def renderItems : List JsonValue → List Char
  | [] => [']']
  | item :: rest => ',' :: ' ' :: (render item ++ renderItems rest)

/-- Further entries and the closing brace. -/
def renderEntries : List (CodePoints × JsonValue) → List Char
  | [] => ['\x7d']
  | (key, value) :: rest =>
    ',' :: ' ' :: (renderString key ++ (':' :: ' ' :: (render value ++ renderEntries rest)))

end

def validPoints (points : CodePoints) : Bool := points.all (fun point => decide point.isValidChar)

mutual

/-- The value can be written: it is within the limits, and its texts are
characters. -/
def writable (digits : Nat) : Nat → JsonValue → Bool
  | _, .int value => (renderNat value.natAbs).length ≤ digits
  | _, .str points => validPoints points
  | depth, .list items => 0 < depth && writableItems digits (depth - 1) items
  | depth, .dict entries => 0 < depth && writableEntries digits (depth - 1) entries
  | _, _ => true

def writableItems (digits : Nat) : Nat → List JsonValue → Bool
  | _, [] => true
  | depth, item :: rest => writable digits depth item && writableItems digits depth rest

def writableEntries (digits : Nat) : Nat → List (CodePoints × JsonValue) → Bool
  | _, [] => true
  | depth, (key, value) :: rest =>
    validPoints key && writable digits depth value && writableEntries digits depth rest

end

/-- `json.dumps`: the text, or nothing where it raises. -/
def dumps (limits : Limits) (value : JsonValue) : Option (List Char) :=
  if writable limits.digits limits.depth value then some (render value) else none

/-! ## Reading -/

def isBlank (c : Char) : Bool := c = ' ' || c = '\t' || c = '\n' || c = '\r'

def skipBlanks (text : List Char) : List Char := text.dropWhile isBlank

def hexValue (c : Char) : Option Nat :=
  if 48 ≤ c.toNat ∧ c.toNat ≤ 57 then some (c.toNat - 48)
  else if 97 ≤ c.toNat ∧ c.toNat ≤ 102 then some (c.toNat - 87)
  else if 65 ≤ c.toNat ∧ c.toNat ≤ 70 then some (c.toNat - 55)
  else none

/-- The code point of four hexadecimal digits. -/
def hexPoint (first second third fourth : Char) : Option Nat :=
  (hexValue first).bind (fun a => (hexValue second).bind (fun b => (hexValue third).bind (fun c =>
    (hexValue fourth).map (fun d => ((a * 16 + b) * 16 + c) * 16 + d))))

def simpleEscape (c : Char) : Option Nat :=
  if c = '"' then some 0x22
  else if c = '\\' then some 0x5c
  else if c = '/' then some 0x2f
  else if c = 'b' then some 8
  else if c = 't' then some 9
  else if c = 'n' then some 10
  else if c = 'f' then some 12
  else if c = 'r' then some 13
  else none

/-- The code points up to the closing quote, and the text after it. -/
def scanPoints : List Char → Option (CodePoints × List Char)
  | [] => none
  | '"' :: rest => some ([], rest)
  | '\\' :: 'u' :: first :: second :: third :: fourth :: rest =>
    (hexPoint first second third fourth).bind (fun point =>
      (scanPoints rest).map (fun scanned => (point :: scanned.1, scanned.2)))
  | '\\' :: escaped :: rest =>
    (simpleEscape escaped).bind (fun point =>
      (scanPoints rest).map (fun scanned => (point :: scanned.1, scanned.2)))
  | c :: rest =>
    if c.toNat < 0x20 then none
    else (scanPoints rest).map (fun scanned => (c.toNat :: scanned.1, scanned.2))

/-- Adjacent halves of a surrogate pair are one code point. -/
def joinSurrogates : CodePoints → CodePoints
  | high :: low :: rest =>
    if (0xd800 ≤ high ∧ high < 0xdc00) ∧ (0xdc00 ≤ low ∧ low < 0xe000) then
      (0x10000 + (high - 0xd800) * 0x400 + (low - 0xdc00)) :: joinSurrogates rest
    else high :: joinSurrogates (low :: rest)
  | points => points

/-- The rest of a quoted text. -/
def scanString (text : List Char) : Except ScanError (CodePoints × List Char) :=
  match scanPoints text with
  | some (points, rest) => .ok (joinSurrogates points, rest)
  | none => .error .malformed

def scanDigits (text : List Char) : Option (Digits × List Char) :=
  if nonempty : text.takeWhile Char.isDigit ≠ [] then
    some (⟨text.takeWhile Char.isDigit, nonempty, fun _ member => List.mem_takeWhile_imp member⟩,
      text.dropWhile Char.isDigit)
  else none

/-- A whole number without leading zeros. -/
def scanWhole : List Char → Option (Nat × List Char)
  | '0' :: rest => some (0, rest)
  | text => (scanDigits text).map (fun scanned => (Nat.ofDigitChars 10 scanned.1.text 0, scanned.2))

def scanFraction : List Char → Option (Digits × List Char)
  | '.' :: rest => scanDigits rest
  | _ => none

def scanSign : List Char → Option Bool × List Char
  | '-' :: rest => (some true, rest)
  | '+' :: rest => (some false, rest)
  | text => (none, text)

def scanExponent : List Char → Option (Exponent × List Char)
  | marker :: rest =>
    if marker = 'e' ∨ marker = 'E' then
      (scanDigits (scanSign rest).2).map (fun scanned =>
        (⟨marker = 'E', (scanSign rest).1, scanned.1⟩, scanned.2))
    else none
  | [] => none

/-- What follows the whole part of a number. -/
def scanTail (text : List Char) : Option (FloatTail × List Char) :=
  match scanFraction text with
  | some (digits, rest) =>
    match scanExponent rest with
    | some (exponent, rest) => some (.fraction digits (some exponent), rest)
    | none => some (.fraction digits none, rest)
  | none => (scanExponent text).map (fun scanned => (.exponent scanned.1, scanned.2))

/-- A number after its sign. -/
def scanUnsigned (digits : Nat) (negative : Bool) (text : List Char) :
    Except ScanError (JsonValue × List Char) :=
  match scanWhole text with
  | none => .error .malformed
  | some (whole, rest) =>
    match scanTail rest with
    | some (tail, rest) => .ok (.float ⟨negative, whole, tail⟩, rest)
    | none =>
      if (renderNat whole).length ≤ digits then
        .ok (.int (if negative then -(whole : Int) else whole), rest)
      else .error .raises

def scanNumber (digits : Nat) : List Char → Except ScanError (JsonValue × List Char)
  | '-' :: rest => scanUnsigned digits true rest
  | text => scanUnsigned digits false text

def keywords : List (List Char × JsonValue) :=
  [(['n', 'u', 'l', 'l'], .null), (['t', 'r', 'u', 'e'], .bool true),
    (['f', 'a', 'l', 's', 'e'], .bool false), (['N', 'a', 'N'], .notANumber),
    (['I', 'n', 'f', 'i', 'n', 'i', 't', 'y'], .infinite false),
    (['-', 'I', 'n', 'f', 'i', 'n', 'i', 't', 'y'], .infinite true)]

/-- A named value at the start of a text. -/
def scanKeyword (text : List Char) : Option (JsonValue × List Char) :=
  keywords.findSome? (fun keyword => (keyword.1.isPrefixOf? text).map (fun rest => (keyword.2, rest)))

abbrev Scanner := List Char → Except ScanError (JsonValue × List Char)

/-- Items up to the closing bracket; every round reads at least one character. -/
def scanItems (scan : Scanner) : Nat → List Char → Except ScanError (List JsonValue × List Char)
  | 0, _ => .error .malformed
  | fuel + 1, text =>
    match scan text with
    | .error error => .error error
    | .ok (item, rest) =>
      match skipBlanks rest with
      | ']' :: rest => .ok ([item], rest)
      | ',' :: rest =>
        match scanItems scan fuel (skipBlanks rest) with
        | .error error => .error error
        | .ok (items, rest) => .ok (item :: items, rest)
      | _ => .error .malformed

/-- A key, its colon and its value, after the opening quote of the key. -/
def scanEntry (scan : Scanner) (text : List Char) :
    Except ScanError ((CodePoints × JsonValue) × List Char) :=
  match scanString text with
  | .error error => .error error
  | .ok (key, rest) =>
    match skipBlanks rest with
    | ':' :: rest =>
      match scan (skipBlanks rest) with
      | .error error => .error error
      | .ok (value, rest) => .ok ((key, value), rest)
    | _ => .error .malformed

/-- Entries up to the closing brace. -/
def scanEntries (scan : Scanner) :
    Nat → List Char → Except ScanError (List (CodePoints × JsonValue) × List Char)
  | fuel + 1, '"' :: text =>
    match scanEntry scan text with
    | .error error => .error error
    | .ok (entry, rest) =>
      match skipBlanks rest with
      | '\x7d' :: rest => .ok ([entry], rest)
      | ',' :: rest =>
        match scanEntries scan fuel (skipBlanks rest) with
        | .error error => .error error
        | .ok (entries, rest) => .ok (entry :: entries, rest)
      | _ => .error .malformed
  | _, _ => .error .malformed

/-- A mapping from its entries: a later one replaces an earlier one of its key. -/
def collapse (entries : List (CodePoints × JsonValue)) : List (CodePoints × JsonValue) :=
  entries.foldl (fun collected entry => OrderedDict.putEntries entry.1 entry.2 collected) []

def scanList (scan : Scanner) (text : List Char) : Except ScanError (JsonValue × List Char) :=
  match skipBlanks text with
  | ']' :: rest => .ok (.list [], rest)
  | text =>
    match scanItems scan text.length text with
    | .error error => .error error
    | .ok (items, rest) => .ok (.list items, rest)

def scanDict (scan : Scanner) (text : List Char) : Except ScanError (JsonValue × List Char) :=
  match skipBlanks text with
  | '\x7d' :: rest => .ok (.dict [], rest)
  | text =>
    match scanEntries scan text.length text with
    | .error error => .error error
    | .ok (entries, rest) => .ok (.dict (collapse entries), rest)

/-- A value whose parts an inner scanner reads; without one it may not nest. -/
def scanStep (digits : Nat) (inner : Option Scanner) (text : List Char) :
    Except ScanError (JsonValue × List Char) :=
  match text with
  | '"' :: rest =>
    match scanString rest with
    | .error error => .error error
    | .ok (points, rest) => .ok (.str points, rest)
  | '[' :: rest =>
    match inner with
    | none => .error .raises
    | some scan => scanList scan rest
  | '\x7b' :: rest =>
    match inner with
    | none => .error .raises
    | some scan => scanDict scan rest
  | text =>
    match scanKeyword text with
    | some found => .ok found
    | none => scanNumber digits text

def scanValue (digits : Nat) : Nat → Scanner
  | 0 => scanStep digits none
  | depth + 1 => scanStep digits (some (scanValue digits depth))

/-- `json.loads`: one value with blanks around it. -/
def loads (limits : Limits) (text : List Char) : Except ScanError JsonValue :=
  match scanValue limits.digits limits.depth (skipBlanks text) with
  | .error error => .error error
  | .ok (value, rest) => if skipBlanks rest = [] then .ok value else .error .malformed

mutual

/-- The value that reads back: every mapping is collapsed. -/
def asRead : JsonValue → JsonValue
  | .list items => .list (asReadItems items)
  | .dict entries => .dict (collapse (asReadEntries entries))
  | value => value

def asReadItems : List JsonValue → List JsonValue
  | [] => []
  | item :: rest => asRead item :: asReadItems rest

def asReadEntries : List (CodePoints × JsonValue) → List (CodePoints × JsonValue)
  | [] => []
  | (key, value) :: rest => (key, asRead value) :: asReadEntries rest

end

end JsonText
