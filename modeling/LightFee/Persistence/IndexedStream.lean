import LightFee.Persistence.BackfillCursor

/-!
# The stream with an index and without

With an index the stream starts at the line that a number is filed under, which is the last line
of the file with that number. Without one it starts at the front. Both give the same records just
when nothing in front of a filed line has its number or a higher one, which a second process does
not respect. The highest number is read off the last line, as far as the last 4096 bytes hold it.

The files are those that `append` can leave behind, whatever was torn or spoilt in them: a line
that loads is a record with an integer number. A float or a text in its place is not modelled.
-/

namespace LightFee.Persistence

open JsonText TextWindow

variable {limits : Limits}

/-! ## The stream -/

/-- The records of some lines from a number on; nothing where a line raises. -/
def recordsFrom (limits : Limits) (startSeq : Int) : List (List Char) → Option (List JsonValue)
  | [] => some []
  | line :: rest =>
    match readLine limits line with
    | .skipped => recordsFrom limits startSeq rest
    | .raised => none
    | .numbered seq record =>
      if startSeq ≤ seq then (recordsFrom limits startSeq rest).map (record :: ·)
      else recordsFrom limits startSeq rest

/-- `stream_from`, read to its end. An index that files nothing is no index. -/
def streamFrom (limits : Limits) (index : JournalIndex) (text : List Char) (startSeq : Int) :
    Option (List JsonValue) :=
  recordsFrom limits startSeq (streamLines index text startSeq)

/-- What loads of the text is a record with an integer number. -/
def Numbered (limits : Limits) (text : List Char) : Prop :=
  ∀ value, loads limits text = .ok value → ∃ entries seq, value = .dict entries ∧
    entries.lookup (fieldName ['s', 'e', 'q']) = some (.int seq)

/-- The text of a journal's file. What stands on a line is a record with an integer number or does
not load, whether the stream reads it, the index, or `max_seq` through its window of 4096 bytes.
No line starts with a byte order mark and nothing is NUL, so that bytes and characters load alike.
Any number of lines may be torn, run together or malformed. -/
structure JournalText (limits : Limits) where
  text : List Char
  lines : ∀ line ∈ fileLines text, Numbered limits (DecimalText.strip line)
  pieces : ∀ piece ∈ text.splitOn '\n', Numbered limits (stripBytes piece) ∧
    (stripBytes piece).head? ≠ some '\uFEFF'
  window : Numbered limits
    (DecimalText.strip (lastLine (DecimalText.strip (windowText 4096 text))))
  noNul : '\x00' ∉ text

/-- A line of the text raises. -/
def Raises (limits : Limits) (text : List Char) : Prop :=
  ∃ line ∈ fileLines text, readLine limits line = .raised

/-! ## What the claim of the index and of the last line is -/

/-- The highest of the numbers, or zero when there are none. -/
def IsHighest (numbers : List Int) (highest : Int) : Prop :=
  (numbers = [] ∧ highest = 0) ∨ (highest ∈ numbers ∧ ∀ seq ∈ numbers, seq ≤ highest)

/-- The number that the index files a line under. -/
def filedSeq (limits : Limits) (line : List Char) : Option Int :=
  if stripBytes line = [] then none
  else
    match loads limits (stripBytes line) with
    | .ok record => (indexedSeq record).getD none
    | .error _ => none

/-- In front of a line that is filed under a number, nothing raises and no record has that number
or a higher one; unless a line from there on raises anyway. -/
def NothingHigherInFront (limits : Limits) (text : List Char) : Prop :=
  ∀ before rest seq, text = before ++ rest → EndsLine before →
    filedSeq limits (rest.takeWhile (· ≠ '\n')) = some seq →
    Raises limits rest ∨
      ¬ Raises limits before ∧ ∀ entry ∈ journalRecords limits before, entry.1 < seq

/-- What the last line shows, as far as the last 4096 bytes hold it. -/
def lastRead (limits : Limits) (text : List Char) : LineRead :=
  readLine limits (lastLine (DecimalText.strip (windowText 4096 text)))

/-- The last line is a record with the highest number; or it is unreadable and there is no
number above zero to miss. -/
def HighestLast (limits : Limits) (text : List Char) : Prop :=
  match lastRead limits text with
  | .numbered seq _ => IsHighest ((journalRecords limits text).map Prod.fst) seq
  | .skipped => IsHighest ((journalRecords limits text).map Prod.fst) 0
  | .raised => False

/-! ## Reading some lines -/

theorem recordsFrom_append (startSeq : Int) (first second : List (List Char)) :
    recordsFrom limits startSeq (first ++ second) =
      (recordsFrom limits startSeq first).bind
        (fun records => (recordsFrom limits startSeq second).map (records ++ ·)) := by
  induction first with
  | nil => simp [recordsFrom]
  | cons line first ih =>
    rw [List.cons_append, recordsFrom, recordsFrom]
    cases readLine limits line with
    | skipped => exact ih
    | raised => rfl
    | numbered seq record =>
      dsimp only
      split_ifs
      · rw [ih]
        cases recordsFrom limits startSeq first with
        | none => rfl
        | some records => simp [Function.comp_def]
      · exact ih

theorem recordsFrom_none_iff (startSeq : Int) (lines : List (List Char)) :
    recordsFrom limits startSeq lines = none ↔
      ∃ line ∈ lines, readLine limits line = .raised := by
  induction lines with
  | nil => simp [recordsFrom]
  | cons line lines ih =>
    rw [recordsFrom]
    cases read : readLine limits line with
    | skipped => simpa [read] using ih
    | raised => simp [read]
    | numbered seq record =>
      dsimp only
      split_ifs <;> simpa [read] using ih

theorem numberedLines_pass {line : List Char} {lines : List (List Char)}
    (passed : readLine limits line = .skipped) :
    numberedLines limits (line :: lines) = numberedLines limits lines := by
  simp [numberedLines, passed]

/-- Nothing is read from a number on when all numbers are lower. -/
theorem recordsFrom_nil_iff {startSeq : Int} {lines : List (List Char)}
    (calm : ∀ line ∈ lines, readLine limits line ≠ .raised) :
    recordsFrom limits startSeq lines = some [] ↔
      ∀ entry ∈ numberedLines limits lines, entry.1 < startSeq := by
  induction lines with
  | nil => simp [recordsFrom, numberedLines]
  | cons line lines ih =>
    rw [List.forall_mem_cons] at calm
    have later := ih calm.2
    rw [recordsFrom]
    cases read : readLine limits line with
    | skipped =>
      rw [numberedLines_pass read]
      exact later
    | raised => exact absurd read calm.1
    | numbered seq record =>
      rw [numberedLines_cons read, List.forall_mem_cons]
      dsimp only
      split_ifs with reached
      · constructor
        · intro nothing
          cases rest : recordsFrom limits startSeq lines <;> simp [rest] at nothing
        · rintro ⟨below, _⟩
          omega
      · rw [later]
        constructor
        · intro lower
          exact ⟨by omega, lower⟩
        · exact And.right

/-! ## Lines behind and in front of a line end -/

theorem fileLines_append_eq {before : List Char} (ends : EndsLine before) (rest : List Char) :
    ∃ front, fileLines (before ++ rest) = front ++ fileLines rest ∧
      (∀ line ∈ front, line ∈ fileLines before) ∧
      (∀ line ∈ fileLines before, line ∈ front ∨ line = []) ∧
      numberedLines limits front = journalRecords limits before := by
  obtain rfl | ⟨front, rfl⟩ := ends
  · refine ⟨[], rfl, by simp, ?_, rfl⟩
    intro line member
    exact Or.inr (List.mem_singleton.mp member)
  · refine ⟨fileLines front, ?_, ?_, ?_, ?_⟩
    · rw [List.append_assoc, List.singleton_append, fileLines_append]
    · intro line member
      rw [fileLines_append]
      exact List.mem_append_left _ member
    · intro line member
      rw [fileLines_append] at member
      exact (List.mem_append.mp member).imp_right List.mem_singleton.mp
    · rw [journalRecords_feed, journalRecords_nil, List.append_nil]
      rfl

theorem raises_append {before : List Char} (ends : EndsLine before) (rest : List Char) :
    Raises limits (before ++ rest) ↔ Raises limits before ∨ Raises limits rest := by
  obtain ⟨front, split, subset, covers, _⟩ := @fileLines_append_eq limits _ ends rest
  have blank : readLine limits [] = .skipped := readLine_blank rfl
  constructor
  · rintro ⟨line, member, raised⟩
    rw [split, List.mem_append] at member
    obtain earlier | later := member
    · exact Or.inl ⟨line, subset line earlier, raised⟩
    · exact Or.inr ⟨line, later, raised⟩
  · rintro (⟨line, member, raised⟩ | ⟨line, member, raised⟩)
    · obtain inFront | rfl := covers line member
      · exact ⟨line, split ▸ List.mem_append_left _ inFront, raised⟩
      · rw [blank] at raised
        cases raised
    · exact ⟨line, split ▸ List.mem_append_right _ member, raised⟩

/-- What is read from a line end on, and from the front. -/
theorem stream_behind_iff {before : List Char} (ends : EndsLine before) (rest : List Char)
    (seq : Int) :
    recordsFrom limits seq (fileLines rest) =
        recordsFrom limits seq (fileLines (before ++ rest)) ↔
      Raises limits rest ∨
        ¬ Raises limits before ∧ ∀ entry ∈ journalRecords limits before, entry.1 < seq := by
  obtain ⟨front, split, subset, covers, numbers⟩ := @fileLines_append_eq limits _ ends rest
  have blank : readLine limits [] = .skipped := readLine_blank rfl
  have calmFront : (∀ line ∈ front, readLine limits line ≠ .raised) ↔ ¬ Raises limits before := by
    constructor
    · rintro calm ⟨line, member, raised⟩
      obtain inFront | rfl := covers line member
      · exact calm line inFront raised
      · rw [blank] at raised
        cases raised
    · intro calm line member raised
      exact calm ⟨line, subset line member, raised⟩
  rw [split, recordsFrom_append]
  by_cases restRaises : Raises limits rest
  · have nothing : recordsFrom limits seq (fileLines rest) = none :=
      (recordsFrom_none_iff seq (fileLines rest)).mpr restRaises
    simp [nothing, restRaises]
  · obtain ⟨records, found⟩ : ∃ records, recordsFrom limits seq (fileLines rest) = some records :=
      Option.ne_none_iff_exists'.mp
        (fun nothing => restRaises ((recordsFrom_none_iff seq (fileLines rest)).mp nothing))
    rw [found, ← calmFront, ← numbers]
    constructor
    · intro same
      refine Or.inr ?_
      cases ahead : recordsFrom limits seq front with
      | none =>
        rw [ahead] at same
        cases same
      | some earlier =>
        have calm : ∀ line ∈ front, readLine limits line ≠ .raised := by
          intro line member raised
          rw [(recordsFrom_none_iff seq front).mpr ⟨line, member, raised⟩] at ahead
          cases ahead
        refine ⟨calm, (recordsFrom_nil_iff calm).mp ?_⟩
        rw [ahead] at same ⊢
        simpa using same
    · rintro (raised | ⟨calm, lower⟩)
      · exact absurd raised restRaises
      · rw [(recordsFrom_nil_iff calm).mpr lower]
        rfl

/-! ## The lines that the index goes through -/

theorem placedLines_append (start : Nat) (first second : List (List Char)) :
    placedLines start (first ++ second) = placedLines start first ++
      placedLines (start + textSize (first.flatMap (· ++ ['\n']))) second := by
  induction first generalizing start with
  | nil => rfl
  | cons line first ih =>
    rw [List.cons_append, placedLines, placedLines, ih, List.flatMap_cons,
      textSize_append (line ++ ['\n']), Nat.add_assoc]
    rfl

theorem placedLines_from {start : Nat} {lines : List (List Char)} {entry : Nat × List Char}
    (member : entry ∈ placedLines start lines) : start ≤ entry.1 := by
  obtain ⟨offset, line⟩ := entry
  obtain ⟨earlier, later, rfl, rfl⟩ := mem_placedLines member
  exact Nat.le_add_right _ _

theorem splitOn_head (rest : List Char) :
    ∃ later, rest.splitOn '\n' = rest.takeWhile (· ≠ '\n') :: later := by
  induction rest with
  | nil => exact ⟨[], rfl⟩
  | cons c rest ih =>
    obtain ⟨later, split⟩ := ih
    rw [List.splitOn_cons_eq_if_modifyHead, split]
    by_cases feed : c = '\n'
    · subst feed
      exact ⟨rest.takeWhile (· ≠ '\n') :: later, by simp⟩
    · exact ⟨later, by simp [feed]⟩

theorem splitOn_feed (front rest : List Char) :
    (front ++ '\n' :: rest).splitOn '\n' = front.splitOn '\n' ++ rest.splitOn '\n' := by
  induction front with
  | nil =>
    rw [List.nil_append, List.splitOn_cons_eq_if_modifyHead]
    simp
  | cons c front ih =>
    rw [List.cons_append, List.splitOn_cons_eq_if_modifyHead, ih,
      List.splitOn_cons_eq_if_modifyHead]
    by_cases feed : c = '\n'
    · simp [feed]
    · obtain ⟨first, others, pieces⟩ :=
        List.exists_cons_of_ne_nil (List.splitOn_ne_nil '\n' front)
      simp [feed, pieces]

theorem splitOn_lines (front : List Char) :
    (front.splitOn '\n').flatMap (· ++ ['\n']) = front ++ ['\n'] := by
  obtain ⟨earlier, line, split⟩ : ∃ earlier line, front.splitOn '\n' = earlier ++ [line] := by
    obtain none | ⟨earlier, line, split⟩ := (front.splitOn '\n').eq_nil_or_concat'
    · exact absurd none (List.splitOn_ne_nil '\n' front)
    · exact ⟨earlier, line, split⟩
  have whole : ['\n'].intercalate (front.splitOn '\n') = front := List.intercalate_splitOn '\n'
  rw [split, intercalate_split] at whole
  rw [split, ← whole]
  simp

/-- Every line of the text is gone through at its place. -/
theorem byteLines_at {before : List Char} (ends : EndsLine before) (rest : List Char) :
    (textSize before, rest.takeWhile (· ≠ '\n')) ∈ byteLines (before ++ rest) := by
  obtain ⟨later, first⟩ := splitOn_head rest
  obtain rfl | ⟨front, rfl⟩ := ends
  · rw [List.nil_append, byteLines, first]
    exact List.mem_cons_self
  · rw [byteLines, List.append_assoc, List.singleton_append, splitOn_feed, placedLines_append,
      splitOn_lines, first, Nat.zero_add]
    exact List.mem_append_right _ List.mem_cons_self

/-! ## What the index files -/

/-- The index with a line filed. -/
def fileLine (limits : Limits) (index : JournalIndex) (entry : Nat × List Char) : JournalIndex :=
  match filedSeq limits entry.2 with
  | none => index
  | some seq => ⟨Function.update index.offsets seq (some entry.1)⟩

/-- Where the loop returns, it has filed each line in turn. -/
theorem indexLines_returns {index found : JournalIndex} {count total : Nat}
    {lines : List (Nat × List Char)}
    (returned : indexLines limits index count lines = (found, some total)) :
    found = lines.foldl (fileLine limits) index := by
  induction lines generalizing index count with
  | nil =>
    cases returned
    rfl
  | cons entry rest ih =>
    obtain ⟨offset, line⟩ := entry
    rw [indexLines] at returned
    rw [List.foldl_cons, fileLine, filedSeq]
    dsimp only
    split_ifs at returned ⊢ with blank
    · exact ih returned
    · cases read : loads limits (stripBytes line) with
      | error error =>
        rw [read] at returned
        cases error with
        | malformed => exact ih returned
        | raises => cases returned
      | ok record =>
        rw [read] at returned
        cases filed : indexedSeq record with
        | none =>
          simp only [filed] at returned
          cases returned
        | some number =>
          simp only [filed, Option.getD_some] at returned ⊢
          cases number with
          | none => exact ih returned
          | some seq => exact ih returned

theorem fileLine_offsetFor (index : JournalIndex) (entry : Nat × List Char) (seq : Int) :
    (fileLine limits index entry).offsetFor seq =
      if filedSeq limits entry.2 = some seq then some entry.1 else index.offsetFor seq := by
  rw [fileLine]
  cases filed : filedSeq limits entry.2 with
  | none => simp
  | some number =>
    by_cases same : seq = number
    · subst same
      simp [JournalIndex.offsetFor]
    · simp [JournalIndex.offsetFor, Function.update_of_ne same, Ne.symm same]

/-- An offset that was found is that of a line filed under the number, or was there before. -/
theorem offsetFor_foldl {index : JournalIndex} {lines : List (Nat × List Char)} {seq : Int}
    {offset : Nat}
    (found : (lines.foldl (fileLine limits) index).offsetFor seq = some offset) :
    index.offsetFor seq = some offset ∨
      ∃ line, (offset, line) ∈ lines ∧ filedSeq limits line = some seq := by
  induction lines generalizing index with
  | nil => exact Or.inl found
  | cons entry rest ih =>
    obtain here | ⟨line, member, filed⟩ := ih found
    · rw [fileLine_offsetFor] at here
      split_ifs at here with filed
      · cases here
        exact Or.inr ⟨entry.2, List.mem_cons_self, filed⟩
      · exact Or.inl here
    · exact Or.inr ⟨line, List.mem_cons_of_mem entry member, filed⟩

/-- Lines from an offset on leave a number at that offset or behind it. -/
theorem offsetFor_kept {index : JournalIndex} {lines : List (Nat × List Char)} {seq : Int}
    {offset : Nat} (here : ∃ last, index.offsetFor seq = some last ∧ offset ≤ last)
    (further : ∀ entry ∈ lines, offset ≤ entry.1) :
    ∃ last, (lines.foldl (fileLine limits) index).offsetFor seq = some last ∧ offset ≤ last := by
  induction lines generalizing index with
  | nil => exact here
  | cons entry rest ih =>
    rw [List.forall_mem_cons] at further
    apply ih _ further.2
    rw [fileLine_offsetFor]
    split_ifs
    · exact ⟨entry.1, rfl, further.1⟩
    · exact here

/-- A number keeps an offset that is at least that of each line filed under it. -/
theorem offsetFor_from {start : Nat} {index : JournalIndex} {lines : List (List Char)}
    {seq : Int} {offset : Nat} {line : List Char} (filed : filedSeq limits line = some seq)
    (placed : (offset, line) ∈ placedLines start lines) :
    ∃ last, ((placedLines start lines).foldl (fileLine limits) index).offsetFor seq = some last ∧
      offset ≤ last := by
  induction lines generalizing start index with
  | nil => cases placed
  | cons first rest ih =>
    rw [placedLines, List.foldl_cons]
    rw [placedLines] at placed
    obtain here | later := List.mem_cons.mp placed
    · cases here
      have atOffset : (fileLine limits index (offset, line)).offsetFor seq = some offset := by
        rw [fileLine_offsetFor, if_pos filed]
      exact offsetFor_kept ⟨offset, atOffset, le_rfl⟩
        (fun entry member => (Nat.le_add_right _ _).trans (placedLines_from member))
    · exact ih later

/-! ## The stream from an index -/

/-- A cut of the text in front of another one. -/
theorem cut_ordered {before rest before' rest' : List Char}
    (same : before ++ rest = before' ++ rest') (ordered : textSize before ≤ textSize before') :
    ∃ between, before' = before ++ between ∧ rest = between ++ rest' := by
  obtain ⟨between, ahead, behind⟩ | ⟨between, ahead, behind⟩ := List.append_eq_append_iff.mp same
  · exact ⟨between, ahead, behind⟩
  · rw [ahead, textSize_append] at ordered
    have empty : between = [] := by
      cases between with
      | nil => rfl
      | cons c between =>
        rw [textSize_cons] at ordered
        have positive := c.utf8Size_pos
        omega
    subst empty
    exact ⟨[], by simp [ahead], by simp [behind]⟩

theorem endsLine_between {before between : List Char} (ends : EndsLine (before ++ between)) :
    EndsLine between := endsLine_suffix ends (List.suffix_append before between)

/-- The first line of a piece that ends at a line end, when more follows. -/
theorem takeWhile_line {line rest : List Char} (noFeed : '\n' ∉ line)
    (ending : rest = line ∨ ∃ more, rest = line ++ '\n' :: more) :
    rest.takeWhile (· ≠ '\n') = line := by
  have all : ∀ c ∈ line, decide (c ≠ '\n') = true := by
    intro c member
    rw [decide_eq_true_eq]
    rintro rfl
    exact noFeed member
  obtain rfl | ⟨more, rfl⟩ := ending
  · exact List.takeWhile_eq_self_iff.mpr all
  · rw [List.takeWhile_append_of_pos all]
    simp

/-- An offset of the built index cuts the text in front of a line that is filed there. -/
theorem built_offset {text : List Char} {index : JournalIndex} {count : Nat}
    (built : JournalIndex.build limits text = (index, some count)) {seq : Int} {offset : Nat}
    (found : index.offsetFor seq = some offset) :
    ∃ before rest, text = before ++ rest ∧ textSize before = offset ∧ EndsLine before ∧
      filedSeq limits (rest.takeWhile (· ≠ '\n')) = some seq := by
  rw [indexLines_returns built] at found
  obtain nothing | ⟨line, member, filed⟩ := offsetFor_foldl found
  · cases nothing
  · obtain ⟨before, rest, whole, size, ends, ending, noFeed⟩ := mem_byteLines member
    refine ⟨before, rest, whole, size, ends, ?_⟩
    rw [takeWhile_line noFeed ending]
    exact filed

/-- The built index files the number of each filed line, there or further on. -/
theorem built_from {before rest : List Char} {index : JournalIndex} {count : Nat}
    (built : JournalIndex.build limits (before ++ rest) = (index, some count)) {seq : Int}
    (ends : EndsLine before) (filed : filedSeq limits (rest.takeWhile (· ≠ '\n')) = some seq) :
    ∃ last, index.offsetFor seq = some last ∧ textSize before ≤ last := by
  rw [indexLines_returns built]
  exact offsetFor_from filed (byteLines_at ends rest)

theorem nothingHigher_shorter {before between rest : List Char} {seq : Int}
    (ends : EndsLine before) (endsBetween : EndsLine between)
    (whole : Raises limits rest ∨ ¬ Raises limits (before ++ between) ∧
      ∀ entry ∈ journalRecords limits (before ++ between), entry.1 < seq) :
    Raises limits (between ++ rest) ∨
      ¬ Raises limits before ∧ ∀ entry ∈ journalRecords limits before, entry.1 < seq := by
  obtain raised | ⟨calm, lower⟩ := whole
  · exact Or.inl ((raises_append endsBetween rest).mpr (Or.inr raised))
  · refine Or.inr ⟨?_, ?_⟩
    · exact fun raised => calm ((raises_append ends between).mpr (Or.inl raised))
    · rw [journalRecords_append ends] at lower
      exact fun entry member => lower entry (List.mem_append_left _ member)

/-- With the index that was built from the text, the stream from every number is the plain one
just when nothing higher stands in front of a filed line. -/
theorem streamFrom_index_iff {text : List Char} {index : JournalIndex} {count : Nat}
    (built : JournalIndex.build limits text = (index, some count)) :
    (∀ startSeq, streamFrom limits index text startSeq = streamFrom limits {} text startSeq) ↔
      NothingHigherInFront limits text := by
  have plain : ∀ startSeq,
      streamFrom limits {} text startSeq = recordsFrom limits startSeq (fileLines text) :=
    fun _ => rfl
  constructor
  · rintro same before rest seq rfl ends filed
    obtain ⟨last, found, ordered⟩ := built_from built ends filed
    obtain ⟨before', rest', cut, size, ends', _⟩ := built_offset built found
    obtain ⟨between, rfl, rfl⟩ := cut_ordered cut (size ▸ ordered)
    apply nothingHigher_shorter ends (endsLine_between ends')
    rw [← stream_behind_iff ends' rest' seq]
    have sameHere := same seq
    rw [plain, streamFrom, streamLines, found, cut, ← size] at sameHere
    dsimp only at sameHere
    rwa [seekText_append] at sameHere
  · intro lower startSeq
    rw [plain, streamFrom, streamLines]
    cases found : index.offsetFor startSeq with
    | none => rfl
    | some offset =>
      obtain ⟨before, rest, rfl, rfl, ends, filed⟩ := built_offset built found
      dsimp only
      rw [seekText_append]
      exact (stream_behind_iff ends rest startSeq).mpr (lower before rest startSeq rfl ends filed)

/-! ## The last line -/

theorem maxSeq_eq (limits : Limits) (text : List Char) :
    maxSeq limits text =
      match lastRead limits text with
      | .skipped => some 0
      | .numbered seq _ => some seq
      | .raised => none := by
  rw [lastRead, readLine, maxSeq]
  split_ifs
  · rfl
  · cases loads limits (DecimalText.strip
      (lastLine (DecimalText.strip (windowText 4096 text)))) with
    | error error => cases error <;> rfl
    | ok record => cases found : seqOf record <;> simp [found]

/-- The number of the journal is its highest just when the last line shows the highest. -/
theorem maxSeq_highest_iff (limits : Limits) (text : List Char) :
    (∃ highest, maxSeq limits text = some highest ∧
        IsHighest ((journalRecords limits text).map Prod.fst) highest) ↔
      HighestLast limits text := by
  rw [maxSeq_eq, HighestLast]
  cases lastRead limits text <;> simp

/-- The built index streams what the plain scan does, and the last line tells the highest number,
just when nothing higher stands in front of a filed line and the last line shows the highest. -/
theorem indexed_stream_iff {file : JournalText limits} {index : JournalIndex} {count : Nat}
    (built : JournalIndex.build limits file.text = (index, some count)) :
    ((∀ startSeq, streamFrom limits index file.text startSeq =
          streamFrom limits {} file.text startSeq) ∧
        ∃ highest, maxSeq limits file.text = some highest ∧
          IsHighest ((journalRecords limits file.text).map Prod.fst) highest) ↔
      NothingHigherInFront limits file.text ∧ HighestLast limits file.text :=
  and_congr (streamFrom_index_iff built) (maxSeq_highest_iff limits file.text)

/-! ## Journals of records -/

theorem numbered_nil : Numbered limits [] := by
  intro value loaded
  rw [loads_nil] at loaded
  cases loaded

theorem numbered_render {record : JsonValue} (written : Written limits record) :
    Numbered limits (render record) := by
  intro value loaded
  rw [loads_render written] at loaded
  obtain rfl := Except.ok.inj loaded
  obtain ⟨seq, runId, call, rfl⟩ := written.named
  exact ⟨_, seq, rfl, rfl⟩

theorem stripBytes_render {record : JsonValue} (written : Written limits record) :
    stripBytes (render record) = render record := by
  obtain ⟨others, front, starts, ends⟩ := written_mapping written
  have left : (render record).dropWhile isByteSpace = render record := by
    rw [starts]
    rfl
  rw [stripBytes, left, ends, List.reverse_append, List.reverse_singleton, List.singleton_append,
    List.dropWhile_cons_of_neg (by decide), List.reverse_cons, List.reverse_reverse]

namespace JournalText

/-- The file of a journal that nothing was written to. -/
def empty (limits : Limits) : JournalText limits where
  text := []
  lines := by
    intro line member
    rw [List.mem_singleton.mp member]
    exact numbered_nil
  pieces := by
    intro piece member
    rw [List.splitOn_nil, List.mem_singleton] at member
    rw [member]
    exact ⟨numbered_nil, fun same => by cases same⟩
  window := numbered_nil
  noNul := List.not_mem_nil

/-- Appending a record whose line the window holds. -/
def append (file : JournalText limits) (ends : EndsLine file.text) {record : JsonValue}
    (written : Written limits record) (fits : textSize (render record ++ ['\n']) ≤ 4096) :
    JournalText limits where
  text := file.text ++ (render record ++ ['\n'])
  lines := by
    intro line member
    obtain ⟨front, split, old, -⟩ := @fileLines_append_eq limits _ ends (render record ++ ['\n'])
    rw [split, fileLines_append, fileLines_line (written_oneLine written)] at member
    rcases List.mem_append.mp member with before | added
    · exact file.lines line (old line before)
    · rcases List.mem_append.mp added with new | blank
      · have stripped : DecimalText.strip (render record) = render record := strip_fronted written []
        rw [List.mem_singleton.mp new, stripped]
        exact numbered_render written
      · rw [List.mem_singleton.mp blank]
        exact numbered_nil
  pieces := by
    have single : (render record).splitOn '\n' = [render record] := by
      apply List.splitOn_eq_singleton
      intro feed
      have isBreak := written_oneLine written _ feed
      simp [isLineBreak] at isBreak
    have fresh : ∀ piece ∈ (render record ++ ['\n']).splitOn '\n',
        Numbered limits (stripBytes piece) ∧ (stripBytes piece).head? ≠ some '\uFEFF' := by
      intro piece member
      rw [splitOn_feed, single, List.splitOn_nil] at member
      rcases List.mem_pair.mp member with rfl | rfl
      · rw [stripBytes_render written]
        obtain ⟨others, -, starts, -⟩ := written_mapping written
        refine ⟨numbered_render written, ?_⟩
        rw [starts]
        exact fun same => by cases same
      · exact ⟨numbered_nil, fun same => by cases same⟩
    intro piece member
    obtain blank | ⟨front, whole⟩ := ends
    · rw [blank, List.nil_append] at member
      exact fresh piece member
    · rw [whole, List.append_assoc, List.singleton_append, splitOn_feed] at member
      rcases List.mem_append.mp member with before | added
      · apply file.pieces piece
        rw [whole, splitOn_feed]
        exact List.mem_append_left _ before
      · exact fresh piece added
  window := by
    obtain ⟨front, shown, endsFront⟩ := windowText_line ends fits
    have stripped : DecimalText.strip (render record) = render record := strip_fronted written []
    have notEmpty : render record ≠ [] := by
      obtain ⟨others, -, starts, -⟩ := written_mapping written
      rw [starts]
      exact List.cons_ne_nil _ _
    have noFeed : '\n' ∉ render record := by
      intro feed
      have isBreak := written_oneLine written _ feed
      simp [isLineBreak] at isBreak
    rw [shown, strip_lastLine endsFront noFeed (by rwa [stripped]), stripped]
    exact numbered_render written
  noNul := by
    intro nul
    rcases List.mem_append.mp nul with before | added
    · exact file.noNul before
    · rcases List.mem_append.mp added with new | feed
      · have printable := printable_render limits.digits record limits.depth written.fits _ new
        exact absurd printable (by decide)
      · exact absurd (List.mem_singleton.mp feed) (by decide)

end JournalText

/-- The journal of one process. -/
def oneRun : JournalText usualLimits :=
  (JournalText.empty usualLimits).append (Or.inl rfl) written_runA (by decide +kernel)

theorem oneRun_text : oneRun.text = firstLine runA := rfl

/-- The journal of two processes, each of which starts at one. -/
def twoRuns : JournalText usualLimits :=
  oneRun.append (Or.inr ⟨render (firstRecord runA), rfl⟩) written_runB (by decide +kernel)

theorem twoRuns_text : twoRuns.text = firstLine runA ++ firstLine runB := rfl

theorem indexes_twoRuns : (JournalIndex.build usualLimits twoRuns.text).2 = some 2 := by
  rw [twoRuns_text]
  decide +kernel

/-- The stream from one misses the first process's record with the index. -/
theorem index_misses_first_run :
    ∃ (file : JournalText usualLimits) (index : JournalIndex) (count : Nat),
      JournalIndex.build usualLimits file.text = (index, some count) ∧
      ¬ ((∀ startSeq, streamFrom usualLimits index file.text startSeq =
            streamFrom usualLimits {} file.text startSeq) ∧
          ∃ highest, maxSeq usualLimits file.text = some highest ∧
            IsHighest ((journalRecords usualLimits file.text).map Prod.fst) highest) := by
  have built : JournalIndex.build usualLimits twoRuns.text =
      ((JournalIndex.build usualLimits twoRuns.text).1, some 2) := Prod.ext rfl indexes_twoRuns
  refine ⟨twoRuns, _, 2, built, ?_⟩
  rintro ⟨same, _⟩
  have lower := (streamFrom_index_iff built).mp same
  rw [twoRuns_text] at lower
  have ends : EndsLine (firstLine runA) := Or.inr ⟨_, rfl⟩
  have filed : filedSeq usualLimits ((firstLine runB).takeWhile (· ≠ '\n')) = some 1 := by
    decide +kernel
  obtain ⟨line, member, raised⟩ | ⟨_, below⟩ := lower (firstLine runA) (firstLine runB) 1 rfl ends filed
  · have lines : fileLines (firstLine runB) = [render (firstRecord runB), []] := by
      rw [firstLine, fileLines_append, fileLines_line (written_oneLine written_runB)]
      rfl
    rw [lines] at member
    obtain rfl | member := List.mem_cons.mp member
    · rw [readLine_runB] at raised
      cases raised
    · rw [List.mem_singleton.mp member, readLine_blank rfl] at raised
      cases raised
  · rw [records_runA] at below
    have behind : (1 : Int) < 1 := below _ List.mem_cons_self
    omega

theorem indexes_oneRun : (JournalIndex.build usualLimits oneRun.text).2 = some 1 := by
  rw [oneRun_text]
  decide +kernel

/-- The equivalence for the journal of one process. -/
theorem indexed_stream_iff_oneRun :
    ∃ index, JournalIndex.build usualLimits oneRun.text = (index, some 1) ∧
      (((∀ startSeq, streamFrom usualLimits index oneRun.text startSeq =
            streamFrom usualLimits {} oneRun.text startSeq) ∧
          ∃ highest, maxSeq usualLimits oneRun.text = some highest ∧
            IsHighest ((journalRecords usualLimits oneRun.text).map Prod.fst) highest) ↔
        NothingHigherInFront usualLimits oneRun.text ∧ HighestLast usualLimits oneRun.text) := by
  have built : JournalIndex.build usualLimits oneRun.text =
      ((JournalIndex.build usualLimits oneRun.text).1, some 1) := Prod.ext rfl indexes_oneRun
  exact ⟨_, built, indexed_stream_iff built⟩

end LightFee.Persistence
