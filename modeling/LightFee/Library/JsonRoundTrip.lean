import LightFee.Library.JsonText

/-!
# What is written reads back

A scanner inverts the writer on every text that starts with what was written,
as long as the rest cannot extend it: it is empty or starts with a comma or a
closing bracket. Loading a written value gives the value with its mappings
collapsed.
-/

namespace JsonText

/-- The text cannot extend a value in front of it. -/
def Follows (rest : List Char) : Prop :=
  ∀ c, rest.head? = some c → c = ',' ∨ c = ']' ∨ c = '\x7d'

/-- A number that ends here is not read on. -/
def NoDigit (rest : List Char) : Prop := ∀ c, rest.head? = some c → c.isDigit = false

theorem follows_noDigit {rest : List Char} (follows : Follows rest) : NoDigit rest := by
  intro c head
  obtain rfl | rfl | rfl := follows c head <;> rfl

/-! ## Numbers -/

/-- Digits are read up to the first character that is none. -/
theorem scanDigits_append (digits : Digits) {rest : List Char} (noDigit : NoDigit rest) :
    scanDigits (digits.text ++ rest) = some (digits, rest) := by
  have none : rest.takeWhile Char.isDigit = [] := by
    cases rest with
    | nil => rfl
    | cons c rest => simp [noDigit c rfl]
  have all : rest.dropWhile Char.isDigit = rest := by
    cases rest with
    | nil => rfl
    | cons c rest => simp [noDigit c rfl]
  have taken : (digits.text ++ rest).takeWhile Char.isDigit = digits.text := by
    rw [List.takeWhile_append_of_pos digits.digits, none, List.append_nil]
  have left : (digits.text ++ rest).dropWhile Char.isDigit = rest := by
    rw [List.dropWhile_append_of_pos digits.digits, all]
  simp only [scanDigits, taken, left]
  rw [dif_pos digits.nonempty]

theorem renderNat_digits (value : Nat) : ∀ c ∈ renderNat value, c.isDigit = true :=
  fun _ member => Nat.isDigit_of_mem_toDigits (by omega) (by omega) member

theorem renderNat_nonempty (value : Nat) : renderNat value ≠ [] := Nat.toDigits_ne_nil

/-- A positive number has no leading zero. -/
theorem renderNat_head (value : Nat) (positive : 0 < value) (rest : List Char) :
    renderNat value ≠ '0' :: rest := by
  induction value using Nat.strongRecOn generalizing rest with
  | ind value ih =>
    by_cases small : value < 10
    · have shown : ∀ digit : Fin 10, 0 < digit.val → Nat.digitChar digit.val ≠ '0' := by decide
      rw [renderNat, Nat.toDigits_of_lt_base small]
      intro whole
      rw [List.cons.injEq] at whole
      exact shown ⟨value, small⟩ positive whole.1
    · have large : 10 ≤ value := by omega
      have parts := Nat.toDigits_of_base_le (b := 10) (by omega) large
      have front := ih (value / 10) (by omega) (by omega)
      intro whole
      rw [renderNat, parts] at whole
      cases digits : Nat.toDigits 10 (value / 10) with
      | nil => exact Nat.toDigits_ne_nil digits
      | cons first others =>
        rw [digits, List.cons_append, List.cons.injEq] at whole
        exact front others (by rw [renderNat, digits, whole.1])

/-- A whole number is read as it is printed; a leading zero stands alone. -/
theorem scanWhole_renderNat (value : Nat) {rest : List Char} (noDigit : NoDigit rest) :
    scanWhole (renderNat value ++ rest) = some (value, rest) := by
  by_cases zero : value = 0
  · subst zero
    rfl
  · have positive : 0 < value := by omega
    let digits : Digits := ⟨renderNat value, renderNat_nonempty value, renderNat_digits value⟩
    have scanned := scanDigits_append digits noDigit
    have read : Nat.ofDigitChars 10 (renderNat value) 0 = value := Nat.ofDigitChars_ten_toDigits
    have viaDigits : scanWhole (renderNat value ++ rest) =
        (scanDigits (renderNat value ++ rest)).map (fun scanned =>
          (Nat.ofDigitChars 10 scanned.1.text 0, scanned.2)) := by
      rw [scanWhole]
      intro others whole
      cases shown : renderNat value with
      | nil => exact renderNat_nonempty value shown
      | cons first more =>
        rw [shown, List.cons_append, List.cons.injEq] at whole
        exact renderNat_head value positive more (by rw [shown, whole.1])
    rw [viaDigits, scanned, Option.map_some, read]

/-- An exponent of either letter and any sign is read back. -/
theorem scanExponent_append (exponent : Exponent) {rest : List Char} (noDigit : NoDigit rest) :
    scanExponent (exponent.text ++ rest) = some (exponent, rest) := by
  obtain ⟨upper, sign, digits⟩ := exponent
  have scanned := scanDigits_append digits noDigit
  have unsigned : scanSign (digits.text ++ rest) = (none, digits.text ++ rest) := by
    cases shown : digits.text with
    | nil => exact absurd shown digits.nonempty
    | cons first more =>
      have isDigit := digits.digits first (by rw [shown]; exact List.mem_cons_self)
      rw [List.cons_append, scanSign]
      · intro others same
        rw [List.cons.injEq] at same
        rw [same.1] at isDigit
        cases isDigit
      · intro others same
        rw [List.cons.injEq] at same
        rw [same.1] at isDigit
        cases isDigit
  have signed : ∀ negative, scanSign ((if negative then '-' else '+') :: (digits.text ++ rest)) =
      (some negative, digits.text ++ rest) := by
    intro negative
    cases negative <;> rfl
  cases sign with
  | none =>
    cases upper <;>
      simp [Exponent.text, scanExponent, unsigned, scanned]
  | some negative =>
    cases upper <;>
      simp [Exponent.text, scanExponent, signed, scanned]

theorem exponent_head (exponent : Exponent) (rest : List Char) :
    ∃ c others, exponent.text ++ rest = c :: others ∧ (c = 'e' ∨ c = 'E') := by
  obtain ⟨upper, sign, digits⟩ := exponent
  cases upper
  · exact ⟨'e', _, rfl, Or.inl rfl⟩
  · exact ⟨'E', _, rfl, Or.inr rfl⟩

theorem scanExponent_follows {rest : List Char} (follows : Follows rest) :
    scanExponent rest = none := by
  cases rest with
  | nil => rfl
  | cons c rest =>
    obtain rfl | rfl | rfl := follows c rfl <;> rfl

theorem scanTail_follows {rest : List Char} (follows : Follows rest) : scanTail rest = none := by
  cases rest with
  | nil => rfl
  | cons c rest =>
    obtain rfl | rfl | rfl := follows c rfl <;> rfl

/-- A fraction, an exponent or both are read back, in what can follow a value. -/
theorem scanTail_append (tail : FloatTail) {rest : List Char} (follows : Follows rest) :
    scanTail (tail.text ++ rest) = some (tail, rest) := by
  cases tail with
  | fraction digits exponent =>
    cases exponent with
    | none =>
      have scanned := scanDigits_append digits (follows_noDigit follows)
      simp [FloatTail.text, scanTail, scanFraction, scanned, scanExponent_follows follows]
    | some exponent =>
      obtain ⟨c, others, shown, marker⟩ := exponent_head exponent rest
      have noDigit : NoDigit (exponent.text ++ rest) := by
        rw [shown]
        intro first head
        cases head
        obtain rfl | rfl := marker <;> rfl
      have scanned := scanDigits_append digits noDigit
      simp [FloatTail.text, scanTail, scanFraction, scanned,
        scanExponent_append exponent (follows_noDigit follows)]
  | exponent exponent =>
    obtain ⟨c, others, shown, marker⟩ := exponent_head exponent rest
    have whole : scanFraction (exponent.text ++ rest) = none := by
      rw [shown]
      obtain rfl | rfl := marker <;> rfl
    simp [FloatTail.text, scanTail, whole, scanExponent_append exponent (follows_noDigit follows)]

theorem renderNat_cons (value : Nat) :
    ∃ first others, renderNat value = first :: others ∧ first.isDigit = true := by
  cases shown : renderNat value with
  | nil => exact absurd shown (renderNat_nonempty value)
  | cons first others =>
    exact ⟨first, others, rfl, renderNat_digits value first (by rw [shown]; exact List.mem_cons_self)⟩

/-- A number's sign is read before its whole part. -/
theorem scanNumber_sign (limit : Nat) (negative : Bool) (value : Nat) (rest : List Char) :
    scanNumber limit (signText negative ++ (renderNat value ++ rest)) =
      scanUnsigned limit negative (renderNat value ++ rest) := by
  cases negative with
  | true => rfl
  | false =>
    obtain ⟨first, others, shown, isDigit⟩ := renderNat_cons value
    rw [shown, signText, if_neg Bool.false_ne_true, List.nil_append, List.cons_append, scanNumber]
    intro more same
    rw [List.cons.injEq] at same
    rw [same.1] at isDigit
    cases isDigit

/-- A float is read as its literal, whatever its length: the limit is on integers only. -/
theorem scanNumber_float (limit : Nat) (literal : FloatLiteral) {rest : List Char}
    (follows : Follows rest) :
    scanNumber limit (literal.text ++ rest) = .ok (.float literal, rest) := by
  have noDigit : NoDigit (literal.tail.text ++ rest) := by
    intro c head
    cases tail : literal.tail with
    | fraction digits exponent =>
      rw [tail] at head
      cases head
      rfl
    | exponent exponent =>
      obtain ⟨marker, others, shown, isMarker⟩ := exponent_head exponent rest
      rw [tail, FloatTail.text, shown] at head
      cases head
      obtain rfl | rfl := isMarker <;> rfl
  rw [FloatLiteral.text, List.append_assoc, List.append_assoc, scanNumber_sign, scanUnsigned,
    scanWhole_renderNat _ noDigit]
  simp only [scanTail_append literal.tail follows]

/-- An integer within the limit of digits is read back with its sign. -/
theorem scanNumber_int (limit : Nat) (value : Int) {rest : List Char} (follows : Follows rest)
    (short : (renderNat value.natAbs).length ≤ limit) :
    scanNumber limit (signText (value < 0) ++ (renderNat value.natAbs ++ rest)) =
      .ok (.int value, rest) := by
  have signed : (if decide (value < 0) = true then -(value.natAbs : Int) else value.natAbs) =
      value := by
    by_cases negative : value < 0
    · rw [if_pos (decide_eq_true negative)]
      omega
    · rw [if_neg (by simpa using negative)]
      omega
  rw [scanNumber_sign, scanUnsigned, scanWhole_renderNat _ (follows_noDigit follows)]
  simp only [scanTail_follows follows, if_pos short, signed]

theorem scanKeyword_digit {c : Char} (isDigit : c.isDigit = true) (rest : List Char) :
    scanKeyword (c :: rest) = none := by
  have other : ∀ letter : Char, letter.isDigit = false → ¬ letter = c := by
    rintro letter notDigit rfl
    rw [isDigit] at notDigit
    cases notDigit
  simp [scanKeyword, keywords, List.isPrefixOf?, other]

theorem scanKeyword_minus {c : Char} (isDigit : c.isDigit = true) (rest : List Char) :
    scanKeyword ('-' :: c :: rest) = none := by
  have other : ¬ 'I' = c := by
    rintro rfl
    cases isDigit
  simp [scanKeyword, keywords, List.isPrefixOf?, other]

/-- A number is no keyword, text, list or mapping. -/
theorem scanStep_number (limit : Nat) (inner : Option Scanner) (negative : Bool) (value : Nat)
    (rest : List Char) :
    scanStep limit inner (signText negative ++ (renderNat value ++ rest)) =
      scanNumber limit (signText negative ++ (renderNat value ++ rest)) := by
  obtain ⟨first, others, shown, isDigit⟩ := renderNat_cons value
  rw [shown, List.cons_append]
  cases negative with
  | true =>
    rw [signText, if_pos rfl, List.singleton_append, scanStep, scanKeyword_minus isDigit]
    all_goals simp
  | false =>
    rw [signText, if_neg Bool.false_ne_true, List.nil_append, scanStep, scanKeyword_digit isDigit]
    all_goals
      intro more same
      rw [List.cons.injEq] at same
      rw [same.1] at isDigit
      cases isDigit

/-! ## Texts -/

theorem hexValue_digitChar : ∀ digit : Fin 16, hexValue (Nat.digitChar digit.val) = some digit.val := by
  decide

/-- A character that needs no escape is one point of the string. -/
theorem scanPoints_plain {c : Char} (notQuote : c ≠ '"') (notEscape : c ≠ '\\')
    (printable : 0x20 ≤ c.toNat) (rest : List Char) :
    scanPoints (c :: rest) =
      (scanPoints rest).map (fun scanned => (c.toNat :: scanned.1, scanned.2)) := by
  rw [scanPoints, if_neg (by omega)]
  · exact notQuote
  · intro first second third fourth more same
    exact absurd same notEscape
  · intro escaped more same
    exact absurd same notEscape

theorem toNat_ofNat {point : Nat} (valid : point.isValidChar) :
    (Char.ofNat point).toNat = point := by
  rw [Char.ofNat, dif_pos valid]
  rfl

/-- A written point reads back before anything that follows it. -/
theorem scanPoints_escape {point : Nat} (valid : point.isValidChar) (rest : List Char) :
    scanPoints (escapePoint point ++ rest) =
      (scanPoints rest).map (fun scanned => (point :: scanned.1, scanned.2)) := by
  rw [escapePoint]
  split_ifs with quote slash backspace tab newline feed carriage control
  · subst quote; rfl
  · subst slash; rfl
  · subst backspace; rfl
  · subst tab; rfl
  · subst newline; rfl
  · subst feed; rfl
  · subst carriage; rfl
  · have high := hexValue_digitChar ⟨point / 16, by omega⟩
    have low := hexValue_digitChar ⟨point % 16, by omega⟩
    have zero : hexValue '0' = some 0 := by decide
    have value : point / 16 * 16 + point % 16 = point := by omega
    simp only at high low
    simp [scanPoints, hexPoint, high, low, zero, value]
  · have shown := toNat_ofNat valid
    have notQuote : Char.ofNat point ≠ '"' := by
      intro same
      rw [same] at shown
      exact quote shown.symm
    have notEscape : Char.ofNat point ≠ '\\' := by
      intro same
      rw [same] at shown
      exact slash shown.symm
    rw [List.singleton_append, scanPoints_plain notQuote notEscape (by omega), shown]

/-- Each point of a string is read back, from an escape or from its character. -/
theorem scanPoints_render {points : CodePoints} (valid : validPoints points = true)
    (rest : List Char) :
    scanPoints (renderPoints points ++ '"' :: rest) = some (points, rest) := by
  induction points with
  | nil => rfl
  | cons point points ih =>
    simp only [validPoints, List.all_cons, Bool.and_eq_true, decide_eq_true_eq] at valid
    rw [renderPoints, List.flatMap_cons, List.append_assoc, scanPoints_escape valid.1]
    rw [renderPoints, validPoints] at ih
    rw [ih valid.2, Option.map_some]

/-- Characters are no halves of a surrogate pair. -/
theorem joinSurrogates_valid {points : CodePoints} (valid : validPoints points = true) :
    joinSurrogates points = points := by
  induction points with
  | nil => rfl
  | cons high rest ih =>
    simp only [validPoints, List.all_cons, Bool.and_eq_true, decide_eq_true_eq] at valid
    cases rest with
    | nil => rfl
    | cons low rest =>
      have notHigh : ¬ ((0xd800 ≤ high ∧ high < 0xdc00) ∧ (0xdc00 ≤ low ∧ low < 0xe000)) := by
        have isValid := valid.1
        simp only [Nat.isValidChar] at isValid
        omega
      rw [joinSurrogates, if_neg notHigh, ih valid.2]

/-- A string is read up to its own closing quote. -/
theorem scanString_render {points : CodePoints} (valid : validPoints points = true)
    (rest : List Char) :
    scanString (renderPoints points ++ '"' :: rest) = .ok (points, rest) := by
  rw [scanString, scanPoints_render valid rest]
  simp only [joinSurrogates_valid valid]

/-! ## Values -/

/-- A written value starts with no blank and no closing bracket. -/
theorem render_head (value : JsonValue) :
    ∃ first others, render value = first :: others ∧ isBlank first = false ∧ first ≠ ']' := by
  have number : ∀ (negative : Bool) (whole : Nat) (rest : List Char), ∃ first others,
      signText negative ++ (renderNat whole ++ rest) = first :: others ∧ isBlank first = false ∧
        first ≠ ']' := by
    intro negative whole rest
    cases negative with
    | true => exact ⟨'-', _, rfl, rfl, by decide⟩
    | false =>
      obtain ⟨first, others, shown, isDigit⟩ := renderNat_cons whole
      refine ⟨first, others ++ rest, by rw [shown]; rfl, ?_, ?_⟩
      · cases blank : isBlank first with
        | false => rfl
        | true =>
          simp only [isBlank, Bool.or_eq_true, decide_eq_true_eq] at blank
          obtain ((rfl | rfl) | rfl) | rfl := blank <;> cases isDigit
      · rintro rfl
        cases isDigit
  cases value with
  | null => exact ⟨'n', _, rfl, rfl, by decide⟩
  | bool value =>
    cases value
    · exact ⟨'f', _, rfl, rfl, by decide⟩
    · exact ⟨'t', _, rfl, rfl, by decide⟩
  | int value =>
    obtain ⟨first, others, shown, facts⟩ := number (value < 0) value.natAbs []
    rw [List.append_nil] at shown
    exact ⟨first, others, shown, facts⟩
  | float literal => exact number literal.negative literal.whole literal.tail.text
  | infinite negative =>
    cases negative
    · exact ⟨'I', _, rfl, rfl, by decide⟩
    · exact ⟨'-', _, rfl, rfl, by decide⟩
  | notANumber => exact ⟨'N', _, rfl, rfl, by decide⟩
  | str points => exact ⟨'"', _, rfl, rfl, by decide⟩
  | list items => cases items <;> exact ⟨'[', _, rfl, rfl, by decide⟩
  | dict entries => cases entries <;> exact ⟨'\x7b', _, rfl, rfl, by decide⟩

theorem skipBlanks_cons {c : Char} (notBlank : isBlank c = false) (rest : List Char) :
    skipBlanks (c :: rest) = c :: rest := by
  rw [skipBlanks, List.dropWhile_cons_of_neg (by simp [notBlank])]

/-- No printed value begins with a blank. -/
theorem skipBlanks_render (value : JsonValue) (rest : List Char) :
    skipBlanks (render value ++ rest) = render value ++ rest := by
  obtain ⟨first, others, shown, notBlank, _⟩ := render_head value
  rw [shown, List.cons_append, skipBlanks_cons notBlank]

theorem skipBlanks_space (rest : List Char) : skipBlanks (' ' :: rest) = skipBlanks rest := rfl

/-- The text has a character for every item, which is the fuel of the loop that reads it. -/
theorem renderItems_length (items : List JsonValue) : items.length < (renderItems items).length := by
  induction items with
  | nil => simp [renderItems]
  | cons item rest ih =>
    simp only [renderItems, List.length_cons, List.length_append]
    omega

/-- Likewise for the entries of an object. -/
theorem renderEntries_length (entries : List (CodePoints × JsonValue)) :
    entries.length < (renderEntries entries).length := by
  induction entries with
  | nil => simp [renderEntries]
  | cons entry rest ih =>
    simp only [renderEntries, List.length_cons, List.length_append]
    omega

/-- After a value of a list stands a separator or the closing bracket. -/
theorem follows_items (items : List JsonValue) (rest : List Char) :
    Follows (renderItems items ++ rest) := by
  intro c head
  cases items with
  | nil =>
    cases head
    exact Or.inr (Or.inl rfl)
  | cons item items =>
    cases head
    exact Or.inl rfl

/-- After a value of an object stands a separator or the closing brace. -/
theorem follows_entries (entries : List (CodePoints × JsonValue)) (rest : List Char) :
    Follows (renderEntries entries ++ rest) := by
  intro c head
  cases entries with
  | nil =>
    cases head
    exact Or.inr (Or.inr rfl)
  | cons entry entries =>
    cases head
    exact Or.inl rfl

/-- A scanner reads what was written for a value. -/
def Reads (scan : Scanner) (value : JsonValue) : Prop :=
  ∀ rest, Follows rest → scan (render value ++ rest) = .ok (asRead value, rest)

/-- The loop over a list reads every item, given that the inner scanner does. -/
theorem scanItems_render {scan : Scanner} {more : List JsonValue}
    (reads : ∀ item ∈ more, Reads scan item) (first : JsonValue) (readsFirst : Reads scan first)
    (fuel : Nat) (enough : more.length < fuel) (rest : List Char) :
    scanItems scan fuel (render first ++ (renderItems more ++ rest)) =
      .ok (asRead first :: asReadItems more, rest) := by
  induction more generalizing first fuel with
  | nil =>
    obtain ⟨fuel, rfl⟩ := Nat.exists_eq_succ_of_ne_zero (Nat.ne_of_gt enough)
    rw [scanItems, readsFirst _ (follows_items [] rest)]
    rfl
  | cons item more ih =>
    obtain ⟨fuel, rfl⟩ := Nat.exists_eq_succ_of_ne_zero (Nat.ne_of_gt (Nat.zero_lt_of_lt enough))
    rw [List.length_cons, Nat.succ_lt_succ_iff] at enough
    have later := ih
      (fun other member => reads other (List.mem_cons_of_mem item member)) item
      (reads item List.mem_cons_self) fuel enough
    rw [scanItems, readsFirst _ (follows_items (item :: more) rest)]
    have comma : skipBlanks (renderItems (item :: more) ++ rest) =
        ',' :: ' ' :: (render item ++ (renderItems more ++ rest)) := by
      rw [renderItems, List.cons_append, List.cons_append, List.append_assoc]
      rfl
    simp only [comma, skipBlanks_space, skipBlanks_render, later, asReadItems]

/-- A key, its separator and its value are read together. -/
theorem scanEntry_render {scan : Scanner} {key : CodePoints} {value : JsonValue}
    (valid : validPoints key = true) (reads : Reads scan value) {rest : List Char}
    (follows : Follows rest) :
    scanEntry scan (renderPoints key ++ '"' :: ':' :: ' ' :: (render value ++ rest)) =
      .ok ((key, asRead value), rest) := by
  rw [scanEntry, scanString_render valid]
  have colon : skipBlanks (':' :: ' ' :: (render value ++ rest)) =
      ':' :: ' ' :: (render value ++ rest) := rfl
  simp only [colon, skipBlanks_space, skipBlanks_render, reads rest follows]

/-- The loop over an object reads every entry in order, repeated keys included. -/
theorem scanEntries_render {scan : Scanner} {more : List (CodePoints × JsonValue)}
    (reads : ∀ entry ∈ more, validPoints entry.1 = true ∧ Reads scan entry.2)
    (key : CodePoints) (value : JsonValue) (valid : validPoints key = true)
    (readsFirst : Reads scan value) (fuel : Nat) (enough : more.length < fuel) (rest : List Char) :
    scanEntries scan fuel ('"' :: (renderPoints key ++ '"' :: ':' :: ' ' ::
      (render value ++ (renderEntries more ++ rest)))) =
      .ok ((key, asRead value) :: asReadEntries more, rest) := by
  induction more generalizing key value fuel with
  | nil =>
    obtain ⟨fuel, rfl⟩ := Nat.exists_eq_succ_of_ne_zero (Nat.ne_of_gt enough)
    rw [scanEntries, scanEntry_render valid readsFirst (follows_entries [] rest)]
    rfl
  | cons entry more ih =>
    obtain ⟨fuel, rfl⟩ := Nat.exists_eq_succ_of_ne_zero (Nat.ne_of_gt (Nat.zero_lt_of_lt enough))
    obtain ⟨nextKey, nextValue⟩ := entry
    rw [List.length_cons, Nat.succ_lt_succ_iff] at enough
    have known := reads (nextKey, nextValue) List.mem_cons_self
    have later := ih
      (fun other member => reads other (List.mem_cons_of_mem _ member)) nextKey nextValue known.1
      known.2 fuel enough
    rw [scanEntries, scanEntry_render valid readsFirst
      (follows_entries ((nextKey, nextValue) :: more) rest)]
    have comma : skipBlanks (renderEntries ((nextKey, nextValue) :: more) ++ rest) =
        ',' :: ' ' :: ('"' :: (renderPoints nextKey ++ '"' :: ':' :: ' ' ::
          (render nextValue ++ (renderEntries more ++ rest)))) := by
      simp only [renderEntries, renderString, List.cons_append, List.append_assoc]
      rfl
    have quote : ∀ text, skipBlanks ('"' :: text) = '"' :: text := fun _ => rfl
    simp only [comma, skipBlanks_space, quote, later, asReadEntries]

/-- The scanner for the parts of a value at a depth. -/
def innerScanner (limit : Nat) : Nat → Option Scanner
  | 0 => none
  | depth + 1 => some (scanValue limit depth)

/-- One level of nesting: the scanner of the values inside is the one below. -/
theorem scanValue_step (limit depth : Nat) (text : List Char) :
    scanValue limit depth text = scanStep limit (innerScanner limit depth) text := by
  cases depth <;> rfl

theorem scanList_open (scan : Scanner) {text others : List Char} {first : Char}
    (opened : skipBlanks text = first :: others) (notClosing : first ≠ ']') :
    scanList scan text =
      match scanItems scan (first :: others).length (first :: others) with
      | .error error => .error error
      | .ok (items, rest) => .ok (.list items, rest) := by
  rw [scanList, opened]
  split
  · rename_i same
    rw [List.cons.injEq] at same
    exact absurd same.1 notClosing
  · rfl

theorem scanDict_open (scan : Scanner) {text others : List Char} {first : Char}
    (opened : skipBlanks text = first :: others) (notClosing : first ≠ '\x7d') :
    scanDict scan text =
      match scanEntries scan (first :: others).length (first :: others) with
      | .error error => .error error
      | .ok (entries, rest) => .ok (.dict (collapse entries), rest) := by
  rw [scanDict, opened]
  split
  · rename_i same
    rw [List.cons.injEq] at same
    exact absurd same.1 notClosing
  · rfl

/-- A list is read by the scanner of its items; the empty one needs none. -/
theorem scanList_render {scan : Scanner} {items : List JsonValue}
    (reads : ∀ item ∈ items, Reads scan item) (limit : Nat) (rest : List Char) :
    scanStep limit (some scan) (render (.list items) ++ rest) =
      .ok (asRead (.list items), rest) := by
  cases items with
  | nil => rfl
  | cons first more =>
    obtain ⟨head, others, shown, notBlank, notClosing⟩ := render_head first
    have opened : render (.list (first :: more)) ++ rest =
        '[' :: (render first ++ (renderItems more ++ rest)) := by
      rw [render, List.cons_append, List.append_assoc]
    have read := scanItems_render (fun item member => reads item (List.mem_cons_of_mem first member))
      first (reads first List.mem_cons_self) (render first ++ (renderItems more ++ rest)).length
      (by
        have count := renderItems_length more
        simp only [List.length_append]
        omega) rest
    have start := skipBlanks_render first (renderItems more ++ rest)
    rw [opened, scanStep]
    rw [shown, List.cons_append] at read start ⊢
    simp only [scanList_open scan start notClosing, read, asRead, asReadItems]

/-- An object is read by the scanner of its values; the last of a repeated key stays. -/
theorem scanDict_render {scan : Scanner} {entries : List (CodePoints × JsonValue)}
    (reads : ∀ entry ∈ entries, validPoints entry.1 = true ∧ Reads scan entry.2) (limit : Nat)
    (rest : List Char) :
    scanStep limit (some scan) (render (.dict entries) ++ rest) =
      .ok (asRead (.dict entries), rest) := by
  cases entries with
  | nil => rfl
  | cons entry more =>
    obtain ⟨key, value⟩ := entry
    have known := reads (key, value) List.mem_cons_self
    have opened : render (.dict ((key, value) :: more)) ++ rest =
        '\x7b' :: '"' :: (renderPoints key ++ '"' :: ':' :: ' ' ::
          (render value ++ (renderEntries more ++ rest))) := by
      simp only [render, renderString, List.cons_append, List.append_assoc]
      rfl
    have read := scanEntries_render
      (fun entry member => reads entry (List.mem_cons_of_mem _ member)) key value known.1 known.2
      ('"' :: (renderPoints key ++ '"' :: ':' :: ' ' ::
        (render value ++ (renderEntries more ++ rest)))).length
      (by
        have count := renderEntries_length more
        simp only [List.length_append, List.length_cons]
        omega) rest
    have notClosing : '"' ≠ '\x7d' := by decide
    have quote : ∀ text, skipBlanks ('"' :: text) = '"' :: text := fun _ => rfl
    rw [opened, scanStep]
    simp only [scanDict_open scan (quote _) notClosing, read, asRead, asReadEntries]

mutual

/-- Every written value reads back at the depth it was written for. -/
theorem scan_render (limit : Nat) : (value : JsonValue) → (depth : Nat) →
    writable limit depth value = true → Reads (scanValue limit depth) value
  | .null, depth, _ => fun rest _ => by rw [scanValue_step]; rfl
  | .bool true, depth, _ => fun rest _ => by rw [scanValue_step]; rfl
  | .bool false, depth, _ => fun rest _ => by rw [scanValue_step]; rfl
  | .notANumber, depth, _ => fun rest _ => by rw [scanValue_step]; rfl
  | .infinite true, depth, _ => fun rest _ => by rw [scanValue_step]; rfl
  | .infinite false, depth, _ => fun rest _ => by rw [scanValue_step]; rfl
  | .int value, depth, short => fun rest follows => by
    rw [writable, decide_eq_true_eq] at short
    rw [scanValue_step, render, List.append_assoc, scanStep_number,
      scanNumber_int limit value follows short]
    rfl
  | .float literal, depth, _ => fun rest follows => by
    have read := scanNumber_float limit literal follows
    rw [scanValue_step, render]
    rw [FloatLiteral.text, List.append_assoc, List.append_assoc] at read ⊢
    rw [scanStep_number, read]
    rfl
  | .str points, depth, valid => fun rest _ => by
    rw [writable] at valid
    have read := scanString_render valid rest
    rw [scanValue_step, render, renderString, List.cons_append, List.append_assoc]
    simp only [scanStep, List.singleton_append, read]
    rfl
  | .list items, depth, fits => fun rest _ => by
    rw [writable, Bool.and_eq_true, decide_eq_true_eq] at fits
    obtain ⟨inner, rfl⟩ := Nat.exists_eq_succ_of_ne_zero (Nat.ne_of_gt fits.1)
    exact scanList_render (scan_renderItems limit items inner fits.2) limit rest
  | .dict entries, depth, fits => fun rest _ => by
    rw [writable, Bool.and_eq_true, decide_eq_true_eq] at fits
    obtain ⟨inner, rfl⟩ := Nat.exists_eq_succ_of_ne_zero (Nat.ne_of_gt fits.1)
    exact scanDict_render (scan_renderEntries limit entries inner fits.2) limit rest

/-- The items of a writable list are writable one level below. -/
theorem scan_renderItems (limit : Nat) : (items : List JsonValue) → (depth : Nat) →
    writableItems limit depth items = true → ∀ item ∈ items, Reads (scanValue limit depth) item
  | [], _, _ => fun _ member => by cases member
  | item :: rest, depth, fits => fun other member => by
    rw [writableItems, Bool.and_eq_true] at fits
    obtain same | later := List.mem_cons.mp member
    · rw [same]
      exact scan_render limit item depth fits.1
    · exact scan_renderItems limit rest depth fits.2 other later

/-- Likewise the values of an object, whose keys are strings that can be written. -/
theorem scan_renderEntries (limit : Nat) : (entries : List (CodePoints × JsonValue)) →
    (depth : Nat) → writableEntries limit depth entries = true →
    ∀ entry ∈ entries, validPoints entry.1 = true ∧ Reads (scanValue limit depth) entry.2
  | [], _, _ => fun _ member => by cases member
  | (key, value) :: rest, depth, fits => fun other member => by
    rw [writableEntries, Bool.and_eq_true, Bool.and_eq_true] at fits
    obtain same | later := List.mem_cons.mp member
    · rw [same]
      exact ⟨fits.1.1, scan_render limit value depth fits.1.2⟩
    · exact scan_renderEntries limit rest depth fits.2 other later

end

/-- Loading what was dumped gives the value with its mappings collapsed. -/
theorem loads_dumps {limits : Limits} {value : JsonValue} {text : List Char}
    (dumped : dumps limits value = some text) : loads limits text = .ok (asRead value) := by
  rw [dumps] at dumped
  split_ifs at dumped with fits
  obtain rfl := Option.some.inj dumped
  have follows : Follows [] := by
    intro c head
    cases head
  have read := scan_render limits.digits value limits.depth fits [] follows
  have start := skipBlanks_render value []
  rw [List.append_nil] at read start
  rw [loads, start, read]
  rfl

/-! ## Control characters -/

/-- No control characters, hence no line breaks. -/
def Printable (text : List Char) : Prop := ∀ c ∈ text, 0x20 ≤ c.toNat

theorem printable_append {first second : List Char} (left : Printable first)
    (right : Printable second) : Printable (first ++ second) := by
  intro c member
  obtain inFirst | inSecond := List.mem_append.mp member
  · exact left c inFirst
  · exact right c inSecond

theorem printable_cons {c : Char} {rest : List Char} (head : 0x20 ≤ c.toNat)
    (tail : Printable rest) : Printable (c :: rest) := by
  intro other member
  obtain rfl | later := List.mem_cons.mp member
  · exact head
  · exact tail other later

theorem printable_digits {text : List Char} (digits : ∀ c ∈ text, c.isDigit = true) :
    Printable text := by
  intro c member
  have isDigit := digits c member
  simp only [Char.isDigit, Bool.and_eq_true, decide_eq_true_eq, ge_iff_le] at isDigit
  have least : '0'.toNat ≤ c.toNat := isDigit.1
  have zero : '0'.toNat = 48 := rfl
  omega

/-- An escape is plain ASCII; what is not escaped is no control character. -/
theorem printable_escape {point : Nat} (valid : point.isValidChar) : Printable (escapePoint point) := by
  have hex : ∀ digit : Fin 16, 0x20 ≤ (Nat.digitChar digit.val).toNat := by decide
  have pair : ∀ letter : Char, 0x20 ≤ letter.toNat → Printable ['\\', letter] := fun letter least =>
    printable_cons (by decide) (printable_cons least (by simp [Printable]))
  rw [escapePoint]
  split_ifs with quote slash backspace tab newline feed carriage control
  · exact pair '"' (by decide)
  · exact pair '\\' (by decide)
  · exact pair 'b' (by decide)
  · exact pair 't' (by decide)
  · exact pair 'n' (by decide)
  · exact pair 'f' (by decide)
  · exact pair 'r' (by decide)
  · have high := hex ⟨point / 16, by omega⟩
    have low := hex ⟨point % 16, by omega⟩
    intro c member
    simp only [List.mem_cons, List.not_mem_nil, or_false] at member
    obtain rfl | rfl | rfl | rfl | rfl | rfl := member
    · decide
    · decide
    · decide
    · decide
    · exact high
    · exact low
  · intro c member
    rw [List.mem_singleton] at member
    rw [member, toNat_ofNat valid]
    omega

theorem printable_string {points : CodePoints} (valid : validPoints points = true) :
    Printable (renderString points) := by
  have escaped : Printable (renderPoints points) := by
    intro c member
    obtain ⟨point, known, inside⟩ := List.mem_flatMap.mp member
    exact printable_escape (of_decide_eq_true (List.all_eq_true.mp valid point known)) c inside
  exact printable_cons (by decide) (printable_append escaped (printable_cons (by decide) (by simp [Printable])))

theorem printable_sign (negative : Bool) : Printable (signText negative) := by
  cases negative <;> simp [signText, Printable]

theorem printable_exponent (exponent : Exponent) : Printable exponent.text := by
  obtain ⟨upper, sign, digits⟩ := exponent
  have digitsText := printable_digits digits.digits
  apply printable_cons
  · cases upper
    · exact (by decide : 0x20 ≤ 'e'.toNat)
    · exact (by decide : 0x20 ≤ 'E'.toNat)
  · apply printable_append _ digitsText
    cases sign with
    | none => simp [Printable]
    | some negative => cases negative <;> simp [Printable]

theorem printable_float (literal : FloatLiteral) : Printable literal.text := by
  apply printable_append (printable_sign literal.negative)
  apply printable_append (printable_digits (renderNat_digits literal.whole))
  cases literal.tail with
  | fraction digits exponent =>
    apply printable_cons (by decide)
    apply printable_append (printable_digits digits.digits)
    cases exponent with
    | none => simp [Printable]
    | some exponent => exact printable_exponent exponent
  | exponent exponent => exact printable_exponent exponent

mutual

/-- A line that is written holds no line break of its own. -/
theorem printable_render (limit : Nat) : (value : JsonValue) → (depth : Nat) →
    writable limit depth value = true → Printable (render value)
  | .null, _, _ => by simp [render, Printable]
  | .bool true, _, _ => by simp [render, Printable]
  | .bool false, _, _ => by simp [render, Printable]
  | .notANumber, _, _ => by simp [render, Printable]
  | .infinite negative, _, _ => by
    rw [render]
    exact printable_append (printable_sign negative) (by simp [Printable])
  | .int value, _, _ => by
    rw [render]
    exact printable_append (printable_sign _) (printable_digits (renderNat_digits _))
  | .float literal, _, _ => by
    rw [render]
    exact printable_float literal
  | .str points, _, valid => by
    rw [writable] at valid
    rw [render]
    exact printable_string valid
  | .list [], _, _ => by simp [render, Printable]
  | .list (first :: rest), depth, fits => by
    simp only [writable, writableItems, Bool.and_eq_true] at fits
    rw [render]
    exact printable_cons (by decide) (printable_append (printable_render limit first _ fits.2.1)
      (printable_items limit rest _ fits.2.2))
  | .dict [], _, _ => by simp [render, Printable]
  | .dict ((key, value) :: rest), depth, fits => by
    simp only [writable, writableEntries, Bool.and_eq_true] at fits
    rw [render]
    exact printable_cons (by decide) (printable_append (printable_string fits.2.1.1)
      (printable_cons (by decide) (printable_cons (by decide)
        (printable_append (printable_render limit value _ fits.2.1.2)
          (printable_entries limit rest _ fits.2.2)))))

theorem printable_items (limit : Nat) : (items : List JsonValue) → (depth : Nat) →
    writableItems limit depth items = true → Printable (renderItems items)
  | [], _, _ => by simp [renderItems, Printable]
  | item :: rest, depth, fits => by
    rw [writableItems, Bool.and_eq_true] at fits
    rw [renderItems]
    exact printable_cons (by decide) (printable_cons (by decide)
      (printable_append (printable_render limit item depth fits.1)
        (printable_items limit rest depth fits.2)))

theorem printable_entries (limit : Nat) : (entries : List (CodePoints × JsonValue)) →
    (depth : Nat) → writableEntries limit depth entries = true → Printable (renderEntries entries)
  | [], _, _ => by simp [renderEntries, Printable]
  | (key, value) :: rest, depth, fits => by
    rw [writableEntries, Bool.and_eq_true, Bool.and_eq_true] at fits
    rw [renderEntries]
    exact printable_cons (by decide) (printable_cons (by decide)
      (printable_append (printable_string fits.1.1) (printable_cons (by decide)
        (printable_cons (by decide) (printable_append (printable_render limit value depth fits.1.2)
          (printable_entries limit rest depth fits.2))))))

end

theorem renderEntries_last (entries : List (CodePoints × JsonValue)) :
    ∃ front, renderEntries entries = front ++ ['\x7d'] := by
  induction entries with
  | nil => exact ⟨[], rfl⟩
  | cons entry rest ih =>
    obtain ⟨front, shown⟩ := ih
    refine ⟨',' :: ' ' :: (renderString entry.1 ++ (':' :: ' ' :: (render entry.2 ++ front))), ?_⟩
    simp only [renderEntries, shown, List.cons_append, List.append_assoc]

end JsonText
