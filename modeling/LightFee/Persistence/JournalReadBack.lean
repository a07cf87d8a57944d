import LightFee.Persistence.JournalFile

/-!
# Acknowledged appends are read back

An appended line stands on a line of its own only when the file it is appended
to ended with a line break. Otherwise it is glued to the text after the last
break, and unless that text is blank the glued line never loads: the first
acknowledged record is lost. A file that is no text at its end, or has a line
that cannot even be refused, is not read at all.
-/

namespace LightFee.Persistence

open JsonText

/-! ## Reading lines -/

/-- The record of a line, when it loads. -/
def recordOf (limits : Limits) (line : List Char) : Option JsonValue :=
  match loads limits (DecimalText.strip line) with
  | .ok record => some record
  | .error _ => none

/-- Reading the line neither loads nor refuses it. -/
def LineRaises (limits : Limits) (line : List Char) : Prop :=
  loads limits (DecimalText.strip line) = .error .raises

theorem loads_nil (limits : Limits) : loads limits [] = .error .malformed := by
  have scanned : scanValue limits.digits limits.depth (skipBlanks []) = .error .malformed := by
    rw [scanValue_step]
    rfl
  rw [loads, scanned]

theorem recordOf_blank {limits : Limits} {line : List Char} (blank : DecimalText.strip line = []) :
    recordOf limits line = none := by
  rw [recordOf, blank, loads_nil]

theorem collectLines_eq (limits : Limits) (records : List JsonValue) (lines : List (List Char)) :
    collectLines limits records lines = (parseLines limits lines).map (records ++ ·) := by
  induction lines generalizing records with
  | nil => simp [collectLines, parseLines]
  | cons line rest ih =>
    rw [collectLines, parseLines]
    split_ifs with blank
    · exact ih records
    · cases read : loads limits (DecimalText.strip line) with
      | ok record =>
        dsimp only
        rw [ih, Option.map_map]
        apply congrArg (fun f => Option.map f (parseLines limits rest))
        funext later
        simp
      | error error =>
        cases error with
        | malformed => exact ih records
        | raises => rfl

/-- Lines are read when none raises, and give the records of those that load. -/
theorem parseLines_some_iff (limits : Limits) (lines : List (List Char)) (records : List JsonValue) :
    parseLines limits lines = some records ↔
      (∀ line ∈ lines, ¬ LineRaises limits line) ∧ records = lines.filterMap (recordOf limits) := by
  induction lines generalizing records with
  | nil => simp [parseLines, eq_comm]
  | cons line rest ih =>
    rw [List.forall_mem_cons, parseLines]
    split_ifs with blank
    · have calm : ¬ LineRaises limits line := by
        rw [LineRaises, blank, loads_nil]
        intro same
        cases same
      rw [ih, List.filterMap_cons_none (recordOf_blank blank)]
      simp [calm]
    · cases read : loads limits (DecimalText.strip line) with
      | ok record =>
        have calm : ¬ LineRaises limits line := by
          rw [LineRaises, read]
          intro same
          cases same
        have loaded : recordOf limits line = some record := by rw [recordOf, read]
        rw [List.filterMap_cons_some loaded]
        constructor
        · intro mapped
          obtain ⟨later, parsed, rfl⟩ := Option.map_eq_some_iff.mp mapped
          obtain ⟨others, rfl⟩ := (ih later).mp parsed
          exact ⟨⟨calm, others⟩, rfl⟩
        · rintro ⟨⟨_, others⟩, rfl⟩
          have parsed := (ih _).mpr ⟨others, rfl⟩
          simp only [parsed, Option.map_some]
      | error error =>
        cases error with
        | malformed =>
          have calm : ¬ LineRaises limits line := by
            rw [LineRaises, read]
            intro same
            cases same
          have refused : recordOf limits line = none := by rw [recordOf, read]
          rw [List.filterMap_cons_none refused]
          simpa [calm] using ih records
        | raises =>
          have raised : LineRaises limits line := read
          simp [raised]

/-! ## Lines of an appended file -/

theorem splitLines_line (line : List Char) (oneLine : ∀ c ∈ line, isLineBreak c = false) :
    splitLines (line ++ ['\n']) = ([line], []) := by
  induction line with
  | nil => rfl
  | cons c line ih =>
    have later := ih (fun other member => oneLine other (List.mem_cons_of_mem c member))
    have stays : ¬ isLineBreak c = true := by
      simp [oneLine c List.mem_cons_self]
    rw [List.cons_append, splitLines, if_neg stays, later]

/-- A text without line breaks ends the line it is appended to. -/
theorem splitLines_append_line (text line : List Char)
    (oneLine : ∀ c ∈ line, isLineBreak c = false) :
    splitLines (text ++ (line ++ ['\n'])) = ((splitLines text).1 ++ [(splitLines text).2 ++ line], []) := by
  induction text with
  | nil => exact splitLines_line line oneLine
  | cons c text ih =>
    rw [List.cons_append, splitLines, ih]
    by_cases isBreak : isLineBreak c = true
    · simp [splitLines, isBreak]
    · simp only [splitLines, if_neg isBreak]
      cases split : splitLines text with
      | mk lines tail => cases lines <;> simp

theorem splitLines_append_records (text : List Char) (first : List Char) (rest : List (List Char))
    (oneLine : ∀ line ∈ first :: rest, ∀ c ∈ line, isLineBreak c = false) :
    splitLines (text ++ (first :: rest).flatMap (· ++ ['\n'])) =
      ((splitLines text).1 ++ ((splitLines text).2 ++ first) :: rest, []) := by
  induction rest generalizing text first with
  | nil =>
    rw [List.flatMap_singleton]
    exact splitLines_append_line text first (oneLine first List.mem_cons_self)
  | cons next rest ih =>
    have step := splitLines_append_line text first (oneLine first List.mem_cons_self)
    have later := ih (text ++ (first ++ ['\n'])) next
      (fun line member => oneLine line (List.mem_cons_of_mem first member))
    rw [step] at later
    rw [List.flatMap_cons, ← List.append_assoc, later]
    simp

/-! ## A written record's line -/

/-- The record of a call that can be written. -/
structure Written (limits : Limits) (record : JsonValue) : Prop where
  fits : writable limits.digits limits.depth record = true
  named : ∃ seq runId call, record = journalRecord seq runId call

/-- A record's text starts with its first key and ends with its closing brace. -/
theorem written_mapping {limits : Limits} {record : JsonValue} (written : Written limits record) :
    ∃ others front, render record = mapping ('s' :: others) ∧
      render record = front ++ ['\x7d'] := by
  obtain ⟨seq, runId, call, rfl⟩ := written.named
  obtain ⟨front, last⟩ := renderEntries_last
    [(fieldName ['r', 'u', 'n', '_', 'i', 'd'], .str runId),
      (fieldName ['t', 's', '_', 'm', 's'], .int call.tsMs),
      (fieldName ['k', 'i', 'n', 'd'], .str call.kind),
      (fieldName ['p', 'a', 'y', 'l', 'o', 'a', 'd'], call.payload)]
  rw [journalRecord, render, last]
  refine ⟨_, '\x7b' :: (renderString (fieldName ['s', 'e', 'q']) ++
    (':' :: ' ' :: (render (.int seq) ++ front))), rfl, ?_⟩
  simp only [List.cons_append, List.append_assoc]

theorem written_oneLine {limits : Limits} {record : JsonValue} (written : Written limits record) :
    ∀ c ∈ render record, isLineBreak c = false := by
  intro c member
  have printable := printable_render limits.digits record limits.depth written.fits c member
  cases isBreak : isLineBreak c with
  | false => rfl
  | true =>
    simp only [isLineBreak, Bool.or_eq_true, decide_eq_true_eq] at isBreak
    obtain rfl | rfl := isBreak
    · exact absurd printable (by decide)
    · exact absurd printable (by decide)

/-- Stripping a line that ends with a record strips its front only. -/
theorem strip_fronted {limits : Limits} {record : JsonValue} (written : Written limits record)
    (front : List Char) :
    DecimalText.strip (front ++ render record) =
      front.dropWhile DecimalText.isSpace ++ render record := by
  obtain ⟨others, first, starts, ends⟩ := written_mapping written
  have left : (front ++ render record).dropWhile DecimalText.isSpace =
      front.dropWhile DecimalText.isSpace ++ render record := by
    rw [starts]
    exact dropWhile_ahead (by decide) front _
  have right : (front.dropWhile DecimalText.isSpace ++ render record).reverse.dropWhile
      DecimalText.isSpace = (front.dropWhile DecimalText.isSpace ++ render record).reverse := by
    rw [ends, ← List.append_assoc, List.reverse_append, List.reverse_singleton,
      List.singleton_append, List.dropWhile_cons_of_neg (by decide)]
  rw [DecimalText.strip, left, right, List.reverse_reverse]

theorem strip_eq_nil_iff (text : List Char) :
    DecimalText.strip text = [] ↔ text.dropWhile DecimalText.isSpace = [] := by
  rw [DecimalText.strip, List.reverse_eq_nil_iff]
  constructor
  · intro none
    have spaces : ∀ c ∈ (text.dropWhile DecimalText.isSpace).reverse, DecimalText.isSpace c = true :=
      List.dropWhile_eq_nil_iff.mp none
    cases left : text.dropWhile DecimalText.isSpace with
    | nil => rfl
    | cons c others =>
      have head := List.head?_dropWhile_not DecimalText.isSpace text
      rw [left, List.head?_cons] at head
      have isSpace := spaces c (by rw [left, List.mem_reverse]; exact List.mem_cons_self)
      simp [isSpace] at head
  · intro none
    rw [none]
    rfl

theorem loads_render {limits : Limits} {record : JsonValue} (written : Written limits record) :
    loads limits (render record) = .ok (asRead record) :=
  loads_dumps (if_pos written.fits)

/-- A record behind blanks is read. -/
theorem recordOf_blank_front {limits : Limits} {record : JsonValue} (written : Written limits record)
    (front : List Char) (blank : DecimalText.strip front = []) :
    recordOf limits (front ++ render record) = some (asRead record) := by
  rw [strip_eq_nil_iff] at blank
  rw [recordOf, strip_fronted written, blank, List.nil_append, loads_render written]

theorem recordOf_render {limits : Limits} {record : JsonValue} (written : Written limits record) :
    recordOf limits (render record) = some (asRead record) := by
  have read := recordOf_blank_front written [] rfl
  rw [List.nil_append] at read
  exact read

/-- A record glued to anything else is lost. -/
theorem recordOf_glued {limits : Limits} {record : JsonValue} (written : Written limits record)
    {front : List Char} (notBlank : DecimalText.strip front ≠ []) :
    recordOf limits (front ++ render record) = none := by
  rw [ne_eq, strip_eq_nil_iff] at notBlank
  obtain ⟨others, first, starts, _⟩ := written_mapping written
  have isOpaque : Opaque ('s' :: others) :=
    ⟨'s', others, rfl, by decide, by decide, by decide, by decide, by decide⟩
  have whole : ReadsWhole limits.digits limits.depth ('s' :: others) := by
    have follows : Follows [] := by
      intro c head
      cases head
    have read := scan_render limits.digits record limits.depth written.fits [] follows
    rw [List.append_nil, starts] at read
    exact ⟨_, read⟩
  have stays : skipBlanks (front.dropWhile DecimalText.isSpace) ≠ [] := by
    cases left : front.dropWhile DecimalText.isSpace with
    | nil => exact absurd left notBlank
    | cons c more =>
      have head := List.head?_dropWhile_not DecimalText.isSpace front
      rw [left, List.head?_cons] at head
      have notSpace : DecimalText.isSpace c = false := by simpa using head
      have notBlankChar : isBlank c = false := by
        cases isBlankChar : isBlank c with
        | false => rfl
        | true =>
          simp only [isBlank, Bool.or_eq_true, decide_eq_true_eq] at isBlankChar
          obtain ((rfl | rfl) | rfl) | rfl := isBlankChar <;> cases notSpace
      rw [skipBlanks_cons notBlankChar]
      simp
  rw [recordOf, strip_fronted written, starts]
  cases read : loads limits (front.dropWhile DecimalText.isSpace ++ mapping ('s' :: others)) with
  | error error => rfl
  | ok value => exact absurd read (loads_fronted isOpaque whole stays value)

/-! ## Runs of appends -/

namespace Journal

/-- A call appends the line of the record it acknowledges, or nothing. -/
theorem append_content (limits : Limits) (journal : Journal) (call : AppendCall) :
    (journal.append limits call).1.content = journal.content ++ Utf8Text.encode
        (((journal.append limits call).2.toList.map render).flatMap (· ++ ['\n'])) ∧
      ∀ record ∈ (journal.append limits call).2.toList, Written limits record := by
  rw [append, dumps]
  split_ifs with fits
  · constructor
    · simp
    · intro record member
      rw [Option.toList_some, List.mem_singleton] at member
      exact ⟨member ▸ fits, ⟨journal.seq + 1, journal.runId, call, member⟩⟩
  · simp

theorem appendAll_content (limits : Limits) (journal : Journal) (calls : List AppendCall) :
    (journal.appendAll limits calls).1.content = journal.content ++ Utf8Text.encode
        (((journal.appendAll limits calls).2.map render).flatMap (· ++ ['\n'])) ∧
      ∀ record ∈ (journal.appendAll limits calls).2, Written limits record := by
  induction calls generalizing journal with
  | nil => simp [appendAll]
  | cons call rest ih =>
    obtain ⟨content, written⟩ := journal.append_content limits call
    obtain ⟨later, laterWritten⟩ := ih (journal.append limits call).1
    simp only [appendAll]
    constructor
    · rw [later, content, List.map_append, List.flatMap_append, Utf8Text.encode_append,
        List.append_assoc]
    · intro record member
      obtain first | second := List.mem_append.mp member
      · exact written record first
      · exact laterWritten record second

theorem readAll_eq (limits : Limits) (journal : Journal) :
    journal.readAll limits = journal.streamRecords limits := by
  rw [readAll, streamRecords]
  congr 1
  funext text
  rw [collectLines_eq]
  simp

end Journal

/-! ## Reading back -/

/-- The records of the lines that load, in a file that is a text. -/
def completeRecords (limits : Limits) (content : List UInt8) : List JsonValue :=
  ((Utf8Text.decode content).map (fun text =>
    (fileLines text).filterMap (recordOf limits))).getD []

/-- Every acknowledged record is read, once, after the records that were there and
in the order of the calls. -/
def ReadsBack (limits : Limits) (runId : CodePoints) (content : List UInt8)
    (calls : List AppendCall) : Prop :=
  let run := (Journal.openOn runId content).appendAll limits calls
  run.2 ≠ [] →
    run.1.readAll limits = some (completeRecords limits content ++ run.2.map asRead) ∧
      run.1.streamRecords limits = some (completeRecords limits content ++ run.2.map asRead)

/-- The file is a text whose lines can be read or refused, with nothing but white
space after its last line break. -/
def EndsCleanly (limits : Limits) (content : List UInt8) : Prop :=
  ∃ text, Utf8Text.decode content = some text ∧
    (∀ line ∈ (splitLines text).1, ¬ LineRaises limits line) ∧
      DecimalText.strip (splitLines text).2 = []

/-- The lines of a file after records were appended to it. -/
theorem fileLines_appended {limits : Limits} (text : List Char) {first : JsonValue}
    {rest : List JsonValue} (written : ∀ record ∈ first :: rest, Written limits record) :
    fileLines (text ++ ((first :: rest).map render).flatMap (· ++ ['\n'])) =
      ((splitLines text).1 ++ ((splitLines text).2 ++ render first) :: rest.map render) ++ [[]] := by
  have oneLine : ∀ line ∈ (first :: rest).map render, ∀ c ∈ line, isLineBreak c = false := by
    intro line member
    obtain ⟨record, known, rfl⟩ := List.mem_map.mp member
    exact written_oneLine (written record known)
  rw [fileLines, List.map_cons, splitLines_append_records text (render first) (rest.map render) oneLine]

theorem filterMap_written {limits : Limits} {records : List JsonValue}
    (written : ∀ record ∈ records, Written limits record) :
    (records.map render).filterMap (recordOf limits) = records.map asRead := by
  induction records with
  | nil => rfl
  | cons record rest ih =>
    have read : recordOf limits (render record) = some (asRead record) :=
      recordOf_render (written record List.mem_cons_self)
    rw [List.map_cons, List.filterMap_cons_some read,
      ih (fun other member => written other (List.mem_cons_of_mem record member)),
      List.map_cons]

theorem recordOf_some_calm {limits : Limits} {line : List Char} {record : JsonValue}
    (read : recordOf limits line = some record) : ¬ LineRaises limits line := by
  intro raised
  rw [recordOf, raised] at read
  cases read

/-- The lines that raise after an append are those of the old file, as far as they
were ended, and the glued one. -/
theorem calm_appended {limits : Limits} {first : JsonValue} {rest : List JsonValue}
    (lines : List (List Char)) (tail : List Char) (blank : DecimalText.strip tail = [])
    (written : ∀ record ∈ first :: rest, Written limits record)
    (calm : ∀ line ∈ lines, ¬ LineRaises limits line) :
    ∀ line ∈ (lines ++ (tail ++ render first) :: rest.map render) ++ [[]],
      ¬ LineRaises limits line := by
  intro line member
  simp only [List.mem_append, List.mem_cons, List.mem_map, List.not_mem_nil, or_false] at member
  obtain (old | rfl | ⟨record, known, rfl⟩) | rfl := member
  · exact calm line old
  · exact recordOf_some_calm (recordOf_blank_front (written first List.mem_cons_self) _ blank)
  · exact recordOf_some_calm (recordOf_render (written record (List.mem_cons_of_mem first known)))
  · intro raised
    rw [LineRaises] at raised
    have empty := loads_nil limits
    cases empty.symm.trans raised

/-- One acknowledged record shows how the file ended. -/
theorem read_back_of_acknowledged {limits : Limits} {runId : CodePoints} {content : List UInt8}
    {calls : List AppendCall}
    (some_returned : ((Journal.openOn runId content).appendAll limits calls).2 ≠ []) :
    ReadsBack limits runId content calls ↔ EndsCleanly limits content := by
  obtain ⟨appended, written⟩ := (Journal.openOn runId content).appendAll_content limits calls
  rw [ReadsBack]
  cases acknowledged : ((Journal.openOn runId content).appendAll limits calls).2 with
  | nil => exact absurd acknowledged some_returned
  | cons first rest =>
    rw [acknowledged] at appended written
    have decoded : Utf8Text.decode
        ((Journal.openOn runId content).appendAll limits calls).1.content =
        (Utf8Text.decode content).map (· ++ ((first :: rest).map render).flatMap (· ++ ['\n'])) := by
      rw [appended, Utf8Text.decode_append]
      rfl
    simp only [Journal.readAll_eq, and_self, reduceCtorEq, not_false_eq_true, forall_const, ne_eq]
    rw [Journal.streamRecords, decoded, EndsCleanly, completeRecords]
    cases old : Utf8Text.decode content with
    | none => simp
    | some text =>
      simp only [Option.map_some, Option.bind_some, Option.getD_some, Option.some.injEq,
        exists_eq_left']
      rw [fileLines_appended _ written, parseLines_some_iff]
      have others := filterMap_written
        (fun record member => written record (List.mem_cons_of_mem first member))
      have empty : recordOf limits [] = none := recordOf_blank rfl
      constructor
      · rintro ⟨calm, records⟩
        refine ⟨fun line member => calm line (by simp [member]), ?_⟩
        by_contra notBlank
        have lost := recordOf_glued (written first List.mem_cons_self) notBlank
        -- one record less than the lines promise
        have lengths := congrArg List.length records
        simp only [fileLines, List.filterMap_append, List.filterMap_cons_none lost, others,
          List.filterMap_cons_none empty, List.filterMap_nil, List.length_append, List.length_map,
          List.length_cons, List.length_nil] at lengths
        omega
      · rintro ⟨calm, blank⟩
        refine ⟨calm_appended _ _ blank written calm, ?_⟩
        have read := recordOf_blank_front (written first List.mem_cons_self) _ blank
        simp only [fileLines, List.filterMap_append, List.filterMap_cons_some read, others,
          List.filterMap_cons_none (recordOf_blank blank), List.filterMap_cons_none empty,
          List.filterMap_nil, List.append_nil, List.map_cons]

/-- Acknowledged appends are read back exactly when there are none or the file ended
cleanly when it was opened. -/
theorem read_back_iff (limits : Limits) (runId : CodePoints) (content : List UInt8)
    (calls : List AppendCall) :
    ReadsBack limits runId content calls ↔
      ((Journal.openOn runId content).appendAll limits calls).2 = [] ∨
        EndsCleanly limits content := by
  by_cases none : ((Journal.openOn runId content).appendAll limits calls).2 = []
  · have vacuous : ReadsBack limits runId content calls := fun some_returned =>
      absurd none some_returned
    simp [none, vacuous]
  · rw [read_back_of_acknowledged none]
    simp [none]

/-- A last line cut off inside a record. -/
def tornLine : List UInt8 := Utf8Text.encode ['\x7b', '"', 's', 'e', 'q', '"', ':']

/-- The record appended behind a torn line is acknowledged and never read. -/
theorem torn_line_swallows : ¬ ReadsBack ⟨1000, 4300⟩ [] tornLine [⟨[], .dict [], 1⟩] := by
  have returned : ((Journal.openOn [] tornLine).appendAll ⟨1000, 4300⟩ [⟨[], .dict [], 1⟩]).2 ≠ [] := by
    have fits : writable 4300 1000 ((Journal.openOn [] tornLine).nextRecord ⟨[], .dict [], 1⟩) = true := by
      decide +kernel
    simp [Journal.appendAll, Journal.append, dumps, fits]
  rw [read_back_of_acknowledged returned]
  rintro ⟨text, decoded, _, blank⟩
  rw [tornLine, Utf8Text.decode_encode, Option.some.injEq] at decoded
  subst decoded
  revert blank
  decide +kernel

end LightFee.Persistence
