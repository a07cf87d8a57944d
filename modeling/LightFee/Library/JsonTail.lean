import LightFee.Library.JsonRoundTrip

/-!
# Text in front of a mapping

A written mapping that follows anything but blanks on its line is lost: no such
line loads. What precedes it either ends before the mapping, which is then extra
data or the unclosed last part of a container, or is an open text, which the
mapping's first quote closes in front of its first key.
-/

namespace JsonText

/-! ## More depth -/

/-- A scanner that succeeds wherever another one does. -/
def Covers (other scan : Scanner) : Prop :=
  ∀ text result, scan text = .ok result → other text = .ok result

theorem scanItems_covers {scan other : Scanner} (covers : Covers other scan) (fuel : Nat)
    {text : List Char} {result : List JsonValue × List Char}
    (scanned : scanItems scan fuel text = .ok result) : scanItems other fuel text = .ok result := by
  induction fuel generalizing text result with
  | zero => cases scanned
  | succ fuel ih =>
    rw [scanItems] at scanned ⊢
    cases item : scan text with
    | error error => simp [item] at scanned
    | ok read =>
      rw [item] at scanned
      rw [covers text read item]
      dsimp only at scanned ⊢
      split at scanned
      · exact scanned
      · rename_i rest _
        cases more : scanItems scan fuel (skipBlanks rest) with
        | error error => simp [more] at scanned
        | ok later =>
          rw [more] at scanned
          rw [ih more]
          exact scanned
      · cases scanned

theorem scanEntry_covers {scan other : Scanner} (covers : Covers other scan) {text : List Char}
    {result : (CodePoints × JsonValue) × List Char} (scanned : scanEntry scan text = .ok result) :
    scanEntry other text = .ok result := by
  rw [scanEntry] at scanned ⊢
  cases key : scanString text with
  | error error => simp [key] at scanned
  | ok read =>
    rw [key] at scanned
    dsimp only at scanned ⊢
    split at scanned
    · rename_i rest _
      cases value : scan (skipBlanks rest) with
      | error error => simp [value] at scanned
      | ok later =>
        rw [value] at scanned
        rw [covers _ later value]
        exact scanned
    · cases scanned

theorem scanEntries_covers {scan other : Scanner} (covers : Covers other scan) (fuel : Nat)
    {text : List Char} {result : List (CodePoints × JsonValue) × List Char}
    (scanned : scanEntries scan fuel text = .ok result) :
    scanEntries other fuel text = .ok result := by
  induction fuel generalizing text result with
  | zero => cases scanned
  | succ fuel ih =>
    rw [scanEntries.eq_def] at scanned ⊢
    split at scanned
    · rename_i fuel' text' same
      cases same
      cases entry : scanEntry scan text' with
      | error error => simp [entry] at scanned
      | ok read =>
        rw [entry] at scanned
        rw [scanEntry_covers covers entry]
        dsimp only at scanned ⊢
        split at scanned
        · exact scanned
        · rename_i rest _
          cases more : scanEntries scan fuel (skipBlanks rest) with
          | error error => simp [more] at scanned
          | ok later =>
            rw [more] at scanned
            rw [ih more]
            exact scanned
        · cases scanned
    · cases scanned

theorem scanList_covers {scan other : Scanner} (covers : Covers other scan) {text : List Char}
    {result : JsonValue × List Char} (scanned : scanList scan text = .ok result) :
    scanList other text = .ok result := by
  rw [scanList.eq_def] at scanned ⊢
  split at scanned
  · exact scanned
  · rename_i opened _
    cases items : scanItems scan (skipBlanks text).length (skipBlanks text) with
    | error error => simp [items] at scanned
    | ok read =>
      rw [items] at scanned
      rw [scanItems_covers covers _ items]
      exact scanned

theorem scanDict_covers {scan other : Scanner} (covers : Covers other scan) {text : List Char}
    {result : JsonValue × List Char} (scanned : scanDict scan text = .ok result) :
    scanDict other text = .ok result := by
  rw [scanDict.eq_def] at scanned ⊢
  split at scanned
  · exact scanned
  · cases entries : scanEntries scan (skipBlanks text).length (skipBlanks text) with
    | error error => simp [entries] at scanned
    | ok read =>
      rw [entries] at scanned
      rw [scanEntries_covers covers _ entries]
      exact scanned

/-- A scanner without inner scanner succeeds only where no part is scanned. -/
theorem scanStep_covers (limit : Nat) {inner : Option Scanner} {other : Scanner}
    (covers : ∀ scan, inner = some scan → Covers other scan) :
    Covers (scanStep limit (some other)) (scanStep limit inner) := by
  intro text result scanned
  rw [scanStep.eq_def] at scanned ⊢
  split at scanned
  · exact scanned
  · cases inner with
    | none => cases scanned
    | some scan => exact scanList_covers (covers scan rfl) scanned
  · cases inner with
    | none => cases scanned
    | some scan => exact scanDict_covers (covers scan rfl) scanned
  · exact scanned

/-- A deeper scanner reads everything that a shallower one reads. -/
theorem scanValue_deeper (limit : Nat) {depth deeper : Nat} (below : depth ≤ deeper) :
    Covers (scanValue limit deeper) (scanValue limit depth) := by
  induction depth generalizing deeper with
  | zero =>
    cases deeper with
    | zero => exact fun _ _ scanned => scanned
    | succ deeper => exact scanStep_covers limit (fun scan none => by cases none)
  | succ depth ih =>
    cases deeper with
    | zero => omega
    | succ deeper =>
      apply scanStep_covers limit
      intro scan same
      cases same
      exact ih (Nat.le_of_succ_le_succ below)

/-! ## What a scan leaves -/

/-- A mapping's text from its first key on. -/
abbrev mapping (body : List Char) : List Char := '\x7b' :: '"' :: body

/-- The whole mapping is still ahead. -/
def Ahead (body rest : List Char) : Prop := ∃ front, rest = front ++ mapping body

theorem dropWhile_ahead {test : Char → Bool} (stops : test '\x7b' = false) (front body : List Char) :
    (front ++ mapping body).dropWhile test = front.dropWhile test ++ mapping body := by
  induction front with
  | nil => simp [mapping, stops]
  | cons c front ih =>
    by_cases passes : test c = true
    · simpa [passes] using ih
    · simp [passes]

theorem skipBlanks_ahead (front body : List Char) :
    skipBlanks (front ++ mapping body) = skipBlanks front ++ mapping body :=
  dropWhile_ahead rfl front body

theorem scanDigits_ahead {front body rest : List Char} {digits : Digits}
    (scanned : scanDigits (front ++ mapping body) = some (digits, rest)) : Ahead body rest := by
  rw [scanDigits] at scanned
  split_ifs at scanned
  cases scanned
  exact ⟨front.dropWhile Char.isDigit, dropWhile_ahead rfl front body⟩

theorem scanWhole_ahead {front body rest : List Char} {value : Nat}
    (scanned : scanWhole (front ++ mapping body) = some (value, rest)) : Ahead body rest := by
  rw [scanWhole.eq_def] at scanned
  split at scanned
  · rename_i more same
    cases scanned
    cases front with
    | nil => cases same
    | cons c front =>
      cases same
      exact ⟨front, rfl⟩
  · obtain ⟨read, digits, same⟩ := Option.map_eq_some_iff.mp scanned
    cases same
    exact scanDigits_ahead digits

theorem scanFraction_ahead {front body rest : List Char} {digits : Digits}
    (scanned : scanFraction (front ++ mapping body) = some (digits, rest)) : Ahead body rest := by
  rw [scanFraction.eq_def] at scanned
  split at scanned
  · rename_i more same
    cases front with
    | nil => cases same
    | cons c front =>
      cases same
      exact scanDigits_ahead scanned
  · cases scanned

theorem scanSign_ahead (front body : List Char) :
    Ahead body (scanSign (front ++ mapping body)).2 := by
  rw [scanSign.eq_def]
  split
  · rename_i more same
    cases front with
    | nil => cases same
    | cons c front =>
      cases same
      exact ⟨front, rfl⟩
  · rename_i more same
    cases front with
    | nil => cases same
    | cons c front =>
      cases same
      exact ⟨front, rfl⟩
  · exact ⟨front, rfl⟩

theorem scanExponent_ahead {front body rest : List Char} {exponent : Exponent}
    (scanned : scanExponent (front ++ mapping body) = some (exponent, rest)) : Ahead body rest := by
  cases front with
  | nil =>
    have none : scanExponent ([] ++ mapping body) = none := rfl
    rw [none] at scanned
    cases scanned
  | cons marker front =>
    rw [List.cons_append, scanExponent] at scanned
    split_ifs at scanned
    obtain ⟨read, digits, same⟩ := Option.map_eq_some_iff.mp scanned
    cases same
    obtain ⟨left, known⟩ := scanSign_ahead front body
    rw [known] at digits
    exact scanDigits_ahead digits

theorem scanTail_ahead {front body rest : List Char} {tail : FloatTail}
    (scanned : scanTail (front ++ mapping body) = some (tail, rest)) : Ahead body rest := by
  rw [scanTail] at scanned
  cases fraction : scanFraction (front ++ mapping body) with
  | none =>
    rw [fraction] at scanned
    obtain ⟨read, exponent, same⟩ := Option.map_eq_some_iff.mp scanned
    cases same
    exact scanExponent_ahead exponent
  | some read =>
    obtain ⟨left, known⟩ := scanFraction_ahead fraction
    rw [fraction] at scanned
    dsimp only at scanned
    cases exponent : scanExponent read.2 with
    | none =>
      rw [exponent] at scanned
      cases scanned
      exact ⟨left, known⟩
    | some later =>
      rw [exponent] at scanned
      cases scanned
      rw [known] at exponent
      exact scanExponent_ahead exponent

theorem scanUnsigned_ahead {limit : Nat} {negative : Bool} {front body rest : List Char}
    {value : JsonValue}
    (scanned : scanUnsigned limit negative (front ++ mapping body) = .ok (value, rest)) :
    Ahead body rest := by
  rw [scanUnsigned] at scanned
  cases whole : scanWhole (front ++ mapping body) with
  | none => simp [whole] at scanned
  | some read =>
    obtain ⟨left, known⟩ := scanWhole_ahead whole
    rw [whole] at scanned
    dsimp only at scanned
    cases tail : scanTail read.2 with
    | none =>
      rw [tail] at scanned
      dsimp only at scanned
      split_ifs at scanned
      · cases scanned
        exact ⟨left, known⟩
      · cases scanned
        exact ⟨left, known⟩
    | some later =>
      rw [tail] at scanned
      cases scanned
      rw [known] at tail
      exact scanTail_ahead tail

theorem scanNumber_ahead {limit : Nat} {front body rest : List Char} {value : JsonValue}
    (scanned : scanNumber limit (front ++ mapping body) = .ok (value, rest)) : Ahead body rest := by
  rw [scanNumber.eq_def] at scanned
  split at scanned
  · rename_i more same
    cases front with
    | nil => cases same
    | cons c front =>
      cases same
      exact scanUnsigned_ahead scanned
  · exact scanUnsigned_ahead scanned

/-- No keyword contains a brace. -/
theorem scanKeyword_ahead {front body rest : List Char} {value : JsonValue}
    (scanned : scanKeyword (front ++ mapping body) = some (value, rest)) : Ahead body rest := by
  obtain ⟨keyword, member, found⟩ := List.exists_of_findSome?_eq_some scanned
  obtain ⟨left, isStart, same⟩ := Option.map_eq_some_iff.mp found
  cases same
  have noBrace : '\x7b' ∉ keyword.1 := by
    have all : ∀ keyword ∈ keywords.map Prod.fst, '\x7b' ∉ keyword := by decide
    exact all keyword.1 (List.mem_map_of_mem member)
  have split : keyword.1 ++ rest = front ++ mapping body := by
    exact List.append_eq_of_isPrefixOf?_eq_some isStart
  obtain ⟨more, shown, known⟩ | ⟨more, shown, known⟩ := List.append_eq_append_iff.mp split
  · exact ⟨more, known⟩
  · cases more with
    | nil => exact ⟨[], known.symm⟩
    | cons c more =>
      rw [mapping, List.cons_append, List.cons.injEq] at known
      rw [shown, ← known.1] at noBrace
      exact absurd (List.mem_append_right _ List.mem_cons_self) noBrace

/-- A scanned text ends at once, or after a piece without a brace, or after a brace. -/
theorem scanPoints_step {text left : List Char} {points : CodePoints}
    (scanned : scanPoints text = some (points, left)) :
    text = '"' :: left ∨ ∃ piece rest more, text = piece ++ rest ∧
      scanPoints rest = some (more, left) ∧ rest.length < text.length ∧
      ('\x7b' ∈ piece → piece = ['\x7b']) := by
  rw [scanPoints.eq_def] at scanned
  split at scanned
  · cases scanned
  · rename_i rest
    cases scanned
    exact Or.inl rfl
  · rename_i first second third fourth rest
    obtain ⟨point, hex, read⟩ := Option.bind_eq_some_iff.mp scanned
    obtain ⟨more, later, same⟩ := Option.map_eq_some_iff.mp read
    cases same
    refine Or.inr ⟨['\\', 'u', first, second, third, fourth], rest, more.1, rfl, later, ?_, ?_⟩
    · simp only [List.length_cons]
      omega
    · intro brace
      have none : hexValue '\x7b' = none := by decide
      simp only [List.mem_cons, List.not_mem_nil, or_false] at brace
      obtain brace | brace | rfl | rfl | rfl | rfl := brace
      · exact absurd brace (by decide)
      · exact absurd brace (by decide)
      · simp [hexPoint, none] at hex
      · simp [hexPoint, none] at hex
      · simp [hexPoint, none] at hex
      · simp [hexPoint, none] at hex
  · rename_i escaped rest _
    obtain ⟨point, simple, read⟩ := Option.bind_eq_some_iff.mp scanned
    obtain ⟨more, later, same⟩ := Option.map_eq_some_iff.mp read
    cases same
    refine Or.inr ⟨['\\', escaped], rest, more.1, rfl, later, ?_, ?_⟩
    · simp only [List.length_cons]
      omega
    · intro brace
      simp only [List.mem_cons, List.not_mem_nil, or_false] at brace
      obtain brace | rfl := brace
      · exact absurd brace (by decide)
      · cases simple
  · rename_i c rest _ _ _
    split_ifs at scanned
    obtain ⟨more, later, same⟩ := Option.map_eq_some_iff.mp scanned
    cases same
    refine Or.inr ⟨[c], rest, more.1, rfl, later, by simp, ?_⟩
    intro brace
    rw [List.mem_singleton] at brace
    rw [← brace]

/-- A text that is open in front of the mapping is closed there or by its first quote. -/
theorem scanPoints_ahead (size : Nat) {front body left : List Char} {points : CodePoints}
    (bound : front.length ≤ size)
    (scanned : scanPoints (front ++ mapping body) = some (points, left)) :
    Ahead body left ∨ left = body := by
  induction size generalizing front points with
  | zero =>
    have empty : front = [] := List.eq_nil_of_length_eq_zero (by omega)
    subst empty
    cases scanned
    exact Or.inr rfl
  | succ size ih =>
    cases front with
    | nil =>
      cases scanned
      exact Or.inr rfl
    | cons c front =>
      obtain closed | ⟨piece, rest, more, split, later, shorter, brace⟩ := scanPoints_step scanned
      · rw [List.cons_append, List.cons.injEq] at closed
        exact Or.inl ⟨front, closed.2.symm⟩
      · obtain ⟨behind, known, shown⟩ | ⟨behind, known, shown⟩ :=
          List.append_eq_append_iff.mp split
        · -- the piece reaches into the mapping, so it contains the brace
          cases behind with
          | nil =>
            rw [List.nil_append] at shown
            rw [← shown] at later
            have short : ([] : List Char).length ≤ size := by simp
            exact ih short later
          | cons first behind =>
            rw [mapping, List.cons_append, List.cons.injEq] at shown
            have inside : '\x7b' ∈ piece := by
              rw [known, ← shown.1]
              exact List.mem_append_right _ List.mem_cons_self
            have only := brace inside
            rw [only] at known
            have lengths := congrArg List.length known
            simp only [List.length_cons, List.length_append, List.length_nil] at lengths
            omega
        · rw [shown] at later
          have lengths := congrArg List.length shown
          refine ih ?_ later
          simp only [shown, known, List.length_append, List.length_cons] at shorter bound ⊢
          omega

theorem scanString_ahead {front body left : List Char} {points : CodePoints}
    (scanned : scanString (front ++ mapping body) = .ok (points, left)) :
    Ahead body left ∨ left = body := by
  rw [scanString] at scanned
  cases read : scanPoints (front ++ mapping body) with
  | none => simp [read] at scanned
  | some found =>
    rw [read] at scanned
    cases scanned
    exact scanPoints_ahead front.length le_rfl read

/-- A text that no scan continues with: its first character is no blank, comma,
colon or closing bracket. -/
def Opaque (body : List Char) : Prop :=
  ∃ first others, body = first :: others ∧ isBlank first = false ∧ first ≠ ',' ∧ first ≠ ':' ∧
    first ≠ ']' ∧ first ≠ '\x7d'

/-- What may be left of a mapping: all of it, its text after the first quote, or nothing. -/
def LeavesMapping (body : List Char) (scan : Scanner) : Prop :=
  ∀ front value rest, scan (front ++ mapping body) = .ok (value, rest) →
    Ahead body rest ∨ rest = body ∨ (front = [] ∧ rest = [])

/-- A separator after what is left stands in front of the mapping. -/
theorem separator_ahead {body rest more : List Char} {c : Char} (isOpaque : Opaque body)
    (separator : c = ',' ∨ c = ':' ∨ c = ']' ∨ c = '\x7d')
    (left : Ahead body rest ∨ rest = body ∨ rest = []) (found : skipBlanks rest = c :: more) :
    Ahead body more := by
  obtain ⟨front, rfl⟩ | rfl | rfl := left
  · rw [skipBlanks_ahead] at found
    cases skipped : skipBlanks front with
    | nil =>
      rw [skipped, List.nil_append, mapping, List.cons.injEq] at found
      rw [← found.1] at separator
      exact absurd separator (by decide)
    | cons first others =>
      rw [skipped, List.cons_append, List.cons.injEq] at found
      exact ⟨others, found.2.symm⟩
  · obtain ⟨first, others, shown, notBlank, noComma, noColon, noBracket, noBrace⟩ := isOpaque
    rw [shown, skipBlanks_cons notBlank, List.cons.injEq] at found
    rw [← found.1] at separator
    obtain same | same | same | same := separator
    · exact absurd same noComma
    · exact absurd same noColon
    · exact absurd same noBracket
    · exact absurd same noBrace
  · cases found

theorem drop_start {body rest : List Char} {front : Prop}
    (left : Ahead body rest ∨ rest = body ∨ (front ∧ rest = [])) :
    Ahead body rest ∨ rest = body ∨ rest = [] := by
  obtain ahead | same | ⟨_, none⟩ := left
  · exact Or.inl ahead
  · exact Or.inr (Or.inl same)
  · exact Or.inr (Or.inr none)

theorem scanItems_ahead {body : List Char} {scan : Scanner} (isOpaque : Opaque body)
    (leaves : LeavesMapping body scan) (fuel : Nat) {front rest : List Char}
    {items : List JsonValue}
    (scanned : scanItems scan fuel (front ++ mapping body) = .ok (items, rest)) :
    Ahead body rest := by
  induction fuel generalizing front items with
  | zero => cases scanned
  | succ fuel ih =>
    rw [scanItems] at scanned
    cases item : scan (front ++ mapping body) with
    | error error => simp [item] at scanned
    | ok read =>
      have left := drop_start (leaves front read.1 read.2 item)
      rw [item] at scanned
      dsimp only at scanned
      split at scanned
      · rename_i more closed
        cases scanned
        exact separator_ahead isOpaque (by simp) left closed
      · rename_i more comma
        obtain ⟨next, rfl⟩ := separator_ahead isOpaque (by simp) left comma
        cases later : scanItems scan fuel (skipBlanks (next ++ mapping body)) with
        | error error => simp [later] at scanned
        | ok others =>
          rw [later] at scanned
          cases scanned
          rw [skipBlanks_ahead] at later
          exact ih later
      · cases scanned

theorem scanEntry_ahead {body : List Char} {scan : Scanner} (isOpaque : Opaque body)
    (leaves : LeavesMapping body scan) {front rest : List Char} {entry : CodePoints × JsonValue}
    (scanned : scanEntry scan (front ++ mapping body) = .ok (entry, rest)) :
    Ahead body rest ∨ rest = body ∨ rest = [] := by
  rw [scanEntry] at scanned
  cases key : scanString (front ++ mapping body) with
  | error error => simp [key] at scanned
  | ok read =>
    have left : Ahead body read.2 ∨ read.2 = body ∨ read.2 = [] := by
      obtain ahead | same := scanString_ahead key
      · exact Or.inl ahead
      · exact Or.inr (Or.inl same)
    rw [key] at scanned
    dsimp only at scanned
    split at scanned
    · rename_i more colon
      obtain ⟨next, rfl⟩ := separator_ahead isOpaque (by simp) left colon
      cases value : scan (skipBlanks (next ++ mapping body)) with
      | error error => simp [value] at scanned
      | ok later =>
        rw [value] at scanned
        cases scanned
        rw [skipBlanks_ahead] at value
        exact drop_start (leaves _ later.1 later.2 value)
    · cases scanned

theorem scanEntries_ahead {body : List Char} {scan : Scanner} (isOpaque : Opaque body)
    (leaves : LeavesMapping body scan) (fuel : Nat) {front rest : List Char}
    {entries : List (CodePoints × JsonValue)}
    (scanned : scanEntries scan fuel (front ++ mapping body) = .ok (entries, rest)) :
    Ahead body rest := by
  induction fuel generalizing front entries with
  | zero => cases scanned
  | succ fuel ih =>
    cases front with
    | nil => cases scanned
    | cons c front =>
      rw [scanEntries.eq_def] at scanned
      split at scanned
      · rename_i fuel' text sameFuel sameText
        cases sameFuel
        rw [List.cons_append, List.cons.injEq] at sameText
        rw [← sameText.2] at scanned
        cases entry : scanEntry scan (front ++ mapping body) with
        | error error => simp [entry] at scanned
        | ok read =>
          have left := scanEntry_ahead isOpaque leaves entry
          rw [entry] at scanned
          dsimp only at scanned
          split at scanned
          · rename_i more closed
            cases scanned
            exact separator_ahead isOpaque (by simp) left closed
          · rename_i more comma
            obtain ⟨next, rfl⟩ := separator_ahead isOpaque (by simp) left comma
            cases later : scanEntries scan fuel (skipBlanks (next ++ mapping body)) with
            | error error => simp [later] at scanned
            | ok others =>
              rw [later] at scanned
              cases scanned
              rw [skipBlanks_ahead] at later
              exact ih later
          · cases scanned
      · cases scanned

theorem scanList_ahead {body : List Char} {scan : Scanner} (isOpaque : Opaque body)
    (leaves : LeavesMapping body scan) {front rest : List Char} {value : JsonValue}
    (scanned : scanList scan (front ++ mapping body) = .ok (value, rest)) : Ahead body rest := by
  rw [scanList.eq_def] at scanned
  split at scanned
  · rename_i more closed
    cases scanned
    exact separator_ahead isOpaque (by simp) (Or.inl ⟨front, rfl⟩) closed
  · rw [skipBlanks_ahead] at scanned
    cases items : scanItems scan (skipBlanks front ++ mapping body).length
        (skipBlanks front ++ mapping body) with
    | error error =>
      rw [items] at scanned
      cases scanned
    | ok read =>
      rw [items] at scanned
      cases scanned
      exact scanItems_ahead isOpaque leaves _ items

theorem scanDict_ahead {body : List Char} {scan : Scanner} (isOpaque : Opaque body)
    (leaves : LeavesMapping body scan) {front rest : List Char} {value : JsonValue}
    (scanned : scanDict scan (front ++ mapping body) = .ok (value, rest)) : Ahead body rest := by
  rw [scanDict.eq_def] at scanned
  split at scanned
  · rename_i more closed
    cases scanned
    exact separator_ahead isOpaque (by simp) (Or.inl ⟨front, rfl⟩) closed
  · rw [skipBlanks_ahead] at scanned
    cases entries : scanEntries scan (skipBlanks front ++ mapping body).length
        (skipBlanks front ++ mapping body) with
    | error error =>
      rw [entries] at scanned
      cases scanned
    | ok read =>
      rw [entries] at scanned
      cases scanned
      exact scanEntries_ahead isOpaque leaves _ entries

/-- A scan that starts in front of the mapping leaves it ahead, or leaves its text
after the first quote. -/
theorem scanStep_ahead {limit : Nat} {body : List Char} (inner : Option Scanner)
    (isOpaque : Opaque body) (leaves : ∀ scan, inner = some scan → LeavesMapping body scan)
    {c : Char} {front rest : List Char} {value : JsonValue}
    (scanned : scanStep limit inner (c :: front ++ mapping body) = .ok (value, rest)) :
    Ahead body rest ∨ rest = body := by
  rw [scanStep.eq_def] at scanned
  split at scanned
  · rename_i more same
    rw [List.cons_append, List.cons.injEq] at same
    rw [← same.2] at scanned
    cases read : scanString (front ++ mapping body) with
    | error error => simp [read] at scanned
    | ok found =>
      rw [read] at scanned
      cases scanned
      exact scanString_ahead read
  · rename_i more same
    rw [List.cons_append, List.cons.injEq] at same
    rw [← same.2] at scanned
    cases inner with
    | none => cases scanned
    | some scan => exact Or.inl (scanList_ahead isOpaque (leaves scan rfl) scanned)
  · rename_i more same
    rw [List.cons_append, List.cons.injEq] at same
    rw [← same.2] at scanned
    cases inner with
    | none => cases scanned
    | some scan => exact Or.inl (scanDict_ahead isOpaque (leaves scan rfl) scanned)
  · cases keyword : scanKeyword (c :: front ++ mapping body) with
    | none =>
      rw [keyword] at scanned
      exact Or.inl (scanNumber_ahead scanned)
    | some found =>
      rw [keyword] at scanned
      cases scanned
      exact Or.inl (scanKeyword_ahead keyword)

/-- The mapping on its own is read to its end. -/
def ReadsWhole (limit depth : Nat) (body : List Char) : Prop :=
  ∃ value, scanValue limit depth (mapping body) = .ok (value, [])

theorem rest_of_whole {limit depth deepest : Nat} {body rest : List Char} {value : JsonValue}
    (whole : ReadsWhole limit deepest body) (below : depth ≤ deepest)
    (scanned : scanValue limit depth (mapping body) = .ok (value, rest)) : rest = [] := by
  obtain ⟨_, complete⟩ := whole
  have same := (scanValue_deeper limit below _ _ scanned).symm.trans complete
  cases same
  rfl

theorem scanValue_ahead {limit depth deepest : Nat} {body : List Char} (isOpaque : Opaque body)
    (whole : ReadsWhole limit deepest body) (below : depth ≤ deepest) :
    LeavesMapping body (scanValue limit depth) := by
  induction depth with
  | zero =>
    intro front value rest scanned
    cases front with
    | nil =>
      exact Or.inr (Or.inr ⟨rfl, rest_of_whole whole below scanned⟩)
    | cons c front =>
      have left := scanStep_ahead none isOpaque (fun scan same => by cases same) scanned
      exact left.imp id Or.inl
  | succ depth ih =>
    intro front value rest scanned
    cases front with
    | nil =>
      exact Or.inr (Or.inr ⟨rfl, rest_of_whole whole below scanned⟩)
    | cons c front =>
      have left := scanStep_ahead (some (scanValue limit depth)) isOpaque
        (fun scan same => by
          cases same
          exact ih (by omega)) scanned
      exact left.imp id Or.inl

/-- Nothing loads that puts more than blanks in front of a mapping. -/
theorem loads_fronted {limits : Limits} {front body : List Char} (isOpaque : Opaque body)
    (whole : ReadsWhole limits.digits limits.depth body) (notBlank : skipBlanks front ≠ [])
    (value : JsonValue) : loads limits (front ++ mapping body) ≠ .ok value := by
  intro loaded
  rw [loads, skipBlanks_ahead] at loaded
  cases scanned : scanValue limits.digits limits.depth (skipBlanks front ++ mapping body) with
  | error error => simp [scanned] at loaded
  | ok read =>
    rw [scanned] at loaded
    dsimp only at loaded
    split_ifs at loaded with ended
    obtain ⟨left, same⟩ | same | ⟨none, _⟩ :=
      scanValue_ahead isOpaque whole le_rfl (skipBlanks front) read.1 read.2 scanned
    · rw [same, skipBlanks_ahead] at ended
      simp at ended
    · obtain ⟨first, others, shown, stays, _⟩ := isOpaque
      rw [same, shown, skipBlanks_cons stays] at ended
      cases ended
    · exact notBlank none

end JsonText
