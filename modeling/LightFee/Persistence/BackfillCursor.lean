import LightFee.Persistence.JournalReadBack
import LightFee.Persistence.ProjectionBackfill

/-!
# What lies behind the cursor

The cursor is one number for the whole file. It vouches for the records behind it
only while the numbers rise along the file: with a second process they start again
below the cursor. It moves over a refused record as soon as a later one of the call
is accepted. An index is safe to start from when every record in front of an offset
has a lower number than the one it is filed under.
-/

namespace LightFee.Persistence

open JsonText TextWindow

variable {limits : Limits}

/-! ## Records of a cut text -/

theorem fileLines_append (front rest : List Char) :
    fileLines (front ++ '\n' :: rest) = fileLines front ++ fileLines rest := by
  have splits : splitLines (front ++ '\n' :: rest) =
      ((splitLines front).1 ++ (splitLines front).2 :: (splitLines rest).1, (splitLines rest).2) := by
    induction front with
    | nil => simp [splitLines, isLineBreak]
    | cons c front ih =>
      rw [List.cons_append, splitLines, ih, splitLines]
      by_cases isBreak : isLineBreak c = true
      · simp [isBreak]
      · simp only [if_neg isBreak]
        cases split : splitLines front with
        | mk lines tail => cases lines <;> simp
  simp [fileLines, splits]

theorem fileLines_line {line : List Char} (oneLine : ∀ c ∈ line, isLineBreak c = false) :
    fileLines line = [line] := by
  have splits : splitLines line = ([], line) := by
    induction line with
    | nil => rfl
    | cons c line ih =>
      have later := ih
        (fun other member => oneLine other (List.mem_cons_of_mem c member))
      rw [splitLines, if_neg (by simp [oneLine c List.mem_cons_self]), later]
  simp [fileLines, splits]

@[simp] theorem numberedLines_append (first second : List (List Char)) :
    numberedLines limits (first ++ second) =
      numberedLines limits first ++ numberedLines limits second :=
  List.filterMap_append

theorem readLine_blank {line : List Char} (blank : DecimalText.strip line = []) :
    readLine limits line = .skipped := if_pos blank

@[simp] theorem journalRecords_nil : journalRecords limits [] = [] := rfl

theorem journalRecords_feed (front rest : List Char) :
    journalRecords limits (front ++ '\n' :: rest) =
      journalRecords limits front ++ journalRecords limits rest := by
  rw [journalRecords, fileLines_append, numberedLines_append]
  rfl

/-- The records in front of a line end and those after it. -/
theorem journalRecords_append {before : List Char} (ends : EndsLine before) (rest : List Char) :
    journalRecords limits (before ++ rest) =
      journalRecords limits before ++ journalRecords limits rest := by
  obtain rfl | ⟨front, rfl⟩ := ends
  · rfl
  · rw [List.append_assoc, List.singleton_append, journalRecords_feed, journalRecords_feed,
      journalRecords_nil, List.append_nil]

theorem journalRecords_line {line : List Char} (oneLine : ∀ c ∈ line, isLineBreak c = false)
    {seq : Int} {record : JsonValue} (read : readLine limits line = .numbered seq record) :
    journalRecords limits line = [(seq, record)] := by
  rw [journalRecords, fileLines_line oneLine]
  simp [numberedLines, read]

theorem mem_numberedLines {lines : List (List Char)} {entry : Int × JsonValue} :
    entry ∈ numberedLines limits lines ↔
      ∃ line ∈ lines, readLine limits line = .numbered entry.1 entry.2 := by
  obtain ⟨seq, record⟩ := entry
  rw [numberedLines, List.mem_filterMap]
  constructor
  · rintro ⟨line, member, found⟩
    refine ⟨line, member, ?_⟩
    cases read : readLine limits line with
    | numbered seq' record' =>
      simp only [read, Option.some.injEq, Prod.mk.injEq] at found
      rw [found.1, found.2]
    | skipped => simp [read] at found
    | raised => simp [read] at found
  · rintro ⟨line, member, read⟩
    exact ⟨line, member, by simp [read]⟩

/-! ## The index -/

/-- Numbers rise along the records. -/
def Rising (records : List (Int × JsonValue)) : Prop :=
  records.Pairwise (fun earlier later => earlier.1 < later.1)

/-- Every offset is the start of a line, and the records in front of it have lower
numbers than the one it is filed under. -/
def IndexSound (limits : Limits) (text : List Char) (index : JournalIndex) : Prop :=
  ∀ seq offset, index.offsetFor seq = some offset →
    ∃ before rest, text = before ++ rest ∧ textSize before = offset ∧ EndsLine before ∧
      ∀ entry ∈ journalRecords limits before, entry.1 < seq

theorem indexSound_grow {text : List Char} {index : JournalIndex}
    (sound : IndexSound limits text index) (more : List Char) :
    IndexSound limits (text ++ more) index := by
  intro seq offset filed
  obtain ⟨before, rest, rfl, size, ends, lower⟩ := sound seq offset filed
  exact ⟨before, rest ++ more, List.append_assoc before rest more, size, ends, lower⟩

/-- A placed line and what stands in front of it. -/
theorem mem_placedLines {start offset : Nat} {line : List Char} {lines : List (List Char)}
    (member : (offset, line) ∈ placedLines start lines) :
    ∃ earlier later, lines = earlier ++ line :: later ∧
      offset = start + textSize (earlier.flatMap (· ++ ['\n'])) := by
  induction lines generalizing start with
  | nil => cases member
  | cons first lines ih =>
    obtain here | later := List.mem_cons.mp member
    · cases here
      exact ⟨[], lines, rfl, rfl⟩
    · obtain ⟨earlier, others, rfl, placed⟩ := ih later
      refine ⟨first :: earlier, others, rfl, ?_⟩
      rw [placed, List.flatMap_cons, textSize_append (first ++ ['\n']), Nat.add_assoc]

theorem intercalate_split (earlier later : List (List Char)) (line : List Char) :
    ['\n'].intercalate (earlier ++ line :: later) =
      earlier.flatMap (· ++ ['\n']) ++ ['\n'].intercalate (line :: later) := by
  induction earlier with
  | nil => rfl
  | cons first earlier ih =>
    have nonempty : earlier ++ line :: later ≠ [] := by simp
    rw [List.cons_append, List.intercalate_cons_of_ne_nil nonempty, ih]
    simp

theorem flatMap_endsLine (lines : List (List Char)) : EndsLine (lines.flatMap (· ++ ['\n'])) := by
  obtain rfl | ⟨others, last, rfl⟩ := lines.eq_nil_or_concat'
  · exact Or.inl rfl
  · refine Or.inr ⟨others.flatMap (· ++ ['\n']) ++ last, ?_⟩
    simp

theorem not_mem_splitOn {separator : Char} {text piece : List Char}
    (member : piece ∈ text.splitOn separator) : separator ∉ piece := by
  induction text generalizing piece with
  | nil =>
    rw [List.splitOn_nil, List.mem_singleton] at member
    rw [member]
    exact List.not_mem_nil
  | cons c text ih =>
    rw [List.splitOn_cons_eq_if_modifyHead] at member
    split_ifs at member with cut
    · obtain rfl | later := List.mem_cons.mp member
      · exact List.not_mem_nil
      · exact ih later
    · obtain ⟨first, others, pieces⟩ := List.exists_cons_of_ne_nil (List.splitOn_ne_nil separator text)
      rw [pieces] at member ih
      obtain rfl | later := List.mem_cons.mp member
      · rw [List.mem_cons, not_or]
        exact ⟨fun same => cut (by simp [same]), ih List.mem_cons_self⟩
      · exact ih (List.mem_cons_of_mem first later)

/-- A line read in bytes, placed in the text. -/
theorem mem_byteLines {text line : List Char} {offset : Nat}
    (member : (offset, line) ∈ byteLines text) :
    ∃ before rest, text = before ++ rest ∧ textSize before = offset ∧ EndsLine before ∧
      (rest = line ∨ ∃ more, rest = line ++ '\n' :: more) ∧ '\n' ∉ line := by
  obtain ⟨earlier, later, split, placed⟩ := mem_placedLines member
  have whole : ['\n'].intercalate (text.splitOn '\n') = text := List.intercalate_splitOn '\n'
  rw [split, intercalate_split] at whole
  refine ⟨_, _, whole.symm, by omega, flatMap_endsLine earlier, ?_, ?_⟩
  · cases later with
    | nil => exact Or.inl (by simp)
    | cons next later =>
      refine Or.inr ⟨['\n'].intercalate (next :: later), ?_⟩
      rw [List.intercalate_cons_of_ne_nil (by simp)]
      simp
  · have piece : line ∈ text.splitOn '\n' := by
      rw [split]
      simp
    exact not_mem_splitOn piece

/-- A file as the journal writes it: no carriage return, and no other white space at the
ends of a line than that of a byte string. -/
structure PlainLines (text : List Char) : Prop where
  noReturn : '\r' ∉ text
  stripped : ∀ entry ∈ byteLines text, stripBytes entry.2 = DecimalText.strip entry.2

theorem seqOf_of_indexed {record : JsonValue} {seq : Int} (filed : indexedSeq record = some (some seq)) :
    seqOf record = some seq := by
  unfold indexedSeq at filed
  unfold seqOf
  split at filed
  · rename_i entries
    split at filed
    · rename_i number found
      split_ifs at filed
      · cases filed
        simp [found]
      · cases filed
    · rename_i value found
      cases value
      · cases filed
      · cases filed
        simp [found]
    · cases filed
  · cases filed

/-- A line that a record is filed for reads as that record. -/
theorem readLine_indexed {line : List Char} {record : JsonValue} {seq : Int}
    (plain : stripBytes line = DecimalText.strip line) (written : stripBytes line ≠ [])
    (read : loads limits (stripBytes line) = .ok record)
    (filed : indexedSeq record = some (some seq)) :
    readLine limits line = .numbered seq record := by
  rw [plain] at written read
  rw [readLine, if_neg written, read]
  simp only [seqOf_of_indexed filed]

theorem indexSound_note {text : List Char} {index : JournalIndex}
    (sound : IndexSound limits text index) (plain : PlainLines text)
    (rising : Rising (journalRecords limits text)) {offset : Nat} {line : List Char}
    (placed : (offset, line) ∈ byteLines text) {seq : Int} {record : JsonValue}
    (read : readLine limits line = .numbered seq record) :
    IndexSound limits text ⟨Function.update index.offsets seq (some offset)⟩ := by
  intro other position filed
  by_cases same : other = seq
  · subst same
    simp only [JournalIndex.offsetFor, Function.update_self, Option.some.injEq] at filed
    subst filed
    obtain ⟨before, rest, whole, size, ends, ending, noFeed⟩ := mem_byteLines placed
    refine ⟨before, rest, whole, size, ends, ?_⟩
    have oneLine : ∀ c ∈ line, isLineBreak c = false := by
      intro c member
      have inText : c ∈ text := by
        rw [whole]
        obtain rfl | ⟨more, rfl⟩ := ending <;> simp [member]
      have notFeed : c ≠ '\n' := by
        rintro rfl
        exact noFeed member
      have notReturn : c ≠ '\r' := by
        rintro rfl
        exact plain.noReturn inText
      simp [isLineBreak, notFeed, notReturn]
    have inRest : (other, record) ∈ journalRecords limits rest := by
      obtain rfl | ⟨more, rfl⟩ := ending
      · simp [journalRecords_line oneLine read]
      · simp [journalRecords_feed, journalRecords_line oneLine read]
    rw [whole, journalRecords_append ends, Rising, List.pairwise_append] at rising
    exact fun entry member => rising.2.2 entry member _ inRest
  · simp only [JournalIndex.offsetFor, Function.update_of_ne same] at filed
    exact sound other position filed

theorem indexLines_sound {text : List Char} (plain : PlainLines text)
    (rising : Rising (journalRecords limits text)) {lines : List (Nat × List Char)}
    (placed : lines ⊆ byteLines text) {index : JournalIndex}
    (sound : IndexSound limits text index) (count : Nat) :
    IndexSound limits text (indexLines limits index count lines).1 := by
  induction lines generalizing index count with
  | nil => exact sound
  | cons entry rest ih =>
    obtain ⟨offset, line⟩ := entry
    have later : rest ⊆ byteLines text := (List.cons_subset.mp placed).2
    have here : (offset, line) ∈ byteLines text := (List.cons_subset.mp placed).1
    rw [indexLines]
    split_ifs with blank
    · exact ih later sound count
    · split
      · rename_i record read
        split
        · exact sound
        · exact ih later sound count
        · rename_i seq filed
          have reads := readLine_indexed (plain.stripped _ here) blank read filed
          exact ih later (indexSound_note sound plain rising here reads) (count + 1)
      · exact ih later sound count
      · exact sound

/-- An index built while the numbers rise is safe to start from. -/
theorem build_sound {text : List Char} (plain : PlainLines text)
    (rising : Rising (journalRecords limits text)) :
    IndexSound limits text (JournalIndex.build limits text).1 := by
  apply indexLines_sound plain rising (List.Subset.refl _)
  intro seq offset filed
  cases filed

/-- The lines that a call starts from hold every record that it is due to look at. -/
theorem streamLines_due {text : List Char} {index : JournalIndex}
    (sound : IndexSound limits text index) (startSeq : Int) :
    ∃ passed, journalRecords limits text =
        passed ++ numberedLines limits (streamLines index text startSeq) ∧
      (∀ entry ∈ passed, entry.1 < startSeq) ∧
      streamLines index text startSeq ⊆ fileLines text := by
  unfold streamLines
  cases filed : index.offsetFor startSeq with
  | none => exact ⟨[], rfl, by simp, List.Subset.refl _⟩
  | some offset =>
    obtain ⟨before, rest, rfl, rfl, ends, lower⟩ := sound startSeq offset filed
    refine ⟨journalRecords limits before, ?_, lower, ?_⟩
    · dsimp only
      rw [seekText_append]
      exact journalRecords_append ends rest
    · dsimp only
      rw [seekText_append]
      obtain rfl | ⟨front, rfl⟩ := ends
      · exact List.Subset.refl _
      · rw [List.append_assoc, List.singleton_append, fileLines_append]
        exact List.subset_append_right _ _

/-! ## One call -/

/-- In a call nothing is accepted after a record was refused. -/
def Steady (answer : Nat → WriterAnswer) : Prop :=
  ∀ earlier later, earlier < later → answer earlier = .refused → answer later ≠ .accepted

/-- After a refusal a steady writer leaves the cursor where it is. -/
theorem projectLines_refused {startSeq endSeq : Int} {answer : Nat → WriterAnswer}
    (steady : Steady answer) {pass : BackfillPass} {refused : Nat} (before : refused < pass.asked)
    (answered : answer refused = .refused) (lines : List (List Char)) :
    (projectLines limits startSeq endSeq answer pass lines).lastProjectedSeq =
        pass.lastProjectedSeq ∧
      (projectLines limits startSeq endSeq answer pass lines).accepted = pass.accepted := by
  induction lines generalizing pass with
  | nil => exact ⟨rfl, rfl⟩
  | cons line rest ih =>
    rw [projectLines]
    cases readLine limits line with
    | skipped => exact ih before
    | raised => exact ⟨rfl, rfl⟩
    | numbered seq record =>
      dsimp only
      split_ifs
      · exact ih before
      · exact ⟨rfl, rfl⟩
      · cases given : answer pass.asked with
        | accepted => exact absurd given (steady refused _ before answered)
        | refused =>
          have stillBefore : refused < pass.refuse.asked := by
            simp only [BackfillPass.asked, BackfillPass.refuse] at before ⊢
            omega
          exact ih stillBefore
        | raised => exact ⟨rfl, rfl⟩

theorem accepted_subset_projectLines (startSeq endSeq : Int) (answer : Nat → WriterAnswer)
    (pass : BackfillPass) (lines : List (List Char)) :
    pass.accepted ⊆ (projectLines limits startSeq endSeq answer pass lines).accepted := by
  induction lines generalizing pass with
  | nil => exact List.Subset.refl _
  | cons line rest ih =>
    rw [projectLines]
    cases readLine limits line with
    | skipped => exact ih pass
    | raised => exact List.Subset.refl _
    | numbered seq record =>
      dsimp only
      split_ifs
      · exact ih pass
      · exact List.Subset.refl _
      · cases answer pass.asked with
        | accepted =>
          exact List.Subset.trans (List.subset_append_left _ [record])
            (ih (pass.accept seq record))
        | refused => exact ih pass.refuse
        | raised => exact List.Subset.refl _

/-- The cursor stays, or moves to the number of a record that was read. -/
theorem projectLines_cursor (startSeq endSeq : Int) (answer : Nat → WriterAnswer)
    (pass : BackfillPass) (lines : List (List Char)) :
    let after := projectLines limits startSeq endSeq answer pass lines
    after.lastProjectedSeq = pass.lastProjectedSeq ∨
      ∃ record, (after.lastProjectedSeq, record) ∈ numberedLines limits lines := by
  induction lines generalizing pass with
  | nil => exact Or.inl rfl
  | cons line rest ih =>
    have later : ∀ entry ∈ numberedLines limits rest, entry ∈ numberedLines limits (line :: rest) := by
      intro entry member
      rw [← List.singleton_append, numberedLines_append]
      exact List.mem_append_right _ member
    have onward : ∀ next : BackfillPass,
        let after := projectLines limits startSeq endSeq answer next rest
        after.lastProjectedSeq = next.lastProjectedSeq ∨
          ∃ record, (after.lastProjectedSeq, record) ∈ numberedLines limits (line :: rest) := by
      intro next
      obtain stays | ⟨record, member⟩ := ih next
      · exact Or.inl stays
      · exact Or.inr ⟨record, later _ member⟩
    rw [projectLines]
    cases read : readLine limits line with
    | skipped => exact onward pass
    | raised => exact Or.inl rfl
    | numbered seq record =>
      dsimp only
      split_ifs
      · exact onward pass
      · exact Or.inl rfl
      · cases answer pass.asked with
        | accepted =>
          obtain stays | moved := onward (pass.accept seq record)
          · refine Or.inr ⟨record, ?_⟩
            dsimp only at stays ⊢
            rw [stays]
            exact mem_numberedLines.mpr ⟨line, List.mem_cons_self, read⟩
          · exact Or.inr moved
        | refused => exact onward pass.refuse
        | raised => exact Or.inl rfl

theorem numberedLines_cons {line : List Char} {seq : Int} {record : JsonValue}
    (read : readLine limits line = .numbered seq record) (rest : List (List Char)) :
    numberedLines limits (line :: rest) = (seq, record) :: numberedLines limits rest := by
  simp [numberedLines, read]

theorem numberedLines_skip {line : List Char}
    (unread : ∀ seq record, readLine limits line ≠ .numbered seq record) (rest : List (List Char)) :
    numberedLines limits (line :: rest) = numberedLines limits rest := by
  cases read : readLine limits line with
  | numbered seq record => exact absurd read (unread seq record)
  | skipped => simp [numberedLines, read]
  | raised => simp [numberedLines, read]

/-- A call of a steady writer over rising numbers accepts what it moves the cursor over. -/
theorem projectLines_accepted {startSeq endSeq : Int} {answer : Nat → WriterAnswer}
    (steady : Steady answer) {lines : List (List Char)}
    (rising : Rising (numberedLines limits lines)) {pass : BackfillPass}
    (above : ∀ entry ∈ numberedLines limits lines, startSeq ≤ entry.1 →
      pass.lastProjectedSeq < entry.1)
    {seq : Int} {record : JsonValue} (member : (seq, record) ∈ numberedLines limits lines)
    (due : startSeq ≤ seq)
    (moved : seq ≤ (projectLines limits startSeq endSeq answer pass lines).lastProjectedSeq) :
    record ∈ (projectLines limits startSeq endSeq answer pass lines).accepted := by
  induction lines generalizing pass with
  | nil => cases member
  | cons line rest ih =>
    rw [projectLines] at moved ⊢
    cases read : readLine limits line with
    | skipped =>
      rw [numberedLines_skip (by simp [read])] at rising above member
      rw [read] at moved
      exact ih rising above member moved
    | raised =>
      rw [read] at moved
      have below := above _ member due
      dsimp only at moved below
      omega
    | numbered first firstRecord =>
      have beyond := above _ member due
      rw [numberedLines_cons read] at rising above member
      rw [Rising, List.pairwise_cons] at rising
      rw [read] at moved
      dsimp only at moved beyond ⊢
      split_ifs at moved ⊢ with early late
      · obtain same | later := List.mem_cons.mp member
        · cases same
          omega
        · exact ih rising.2
            (fun entry inRest => above entry (List.mem_cons_of_mem _ inRest)) later moved
      · omega
      · cases given : answer pass.asked with
        | accepted =>
          rw [given] at moved
          obtain same | later := List.mem_cons.mp member
          · cases same
            apply accepted_subset_projectLines
            simp [BackfillPass.accept]
          · exact ih rising.2 (fun entry inRest _ => rising.1 entry inRest) later moved
        | refused =>
          rw [given] at moved
          -- from here on the cursor stays, and the record is still ahead of it
          have asked : pass.asked < pass.refuse.asked := by
            simp only [BackfillPass.asked, BackfillPass.refuse]
            omega
          rw [(projectLines_refused steady asked given rest).1] at moved
          simp only [BackfillPass.refuse] at moved
          omega
        | raised =>
          rw [given] at moved
          simp only [BackfillPass.fail] at moved
          omega

/-- A writer that always accepts is handed every due record up to the end. -/
theorem projectLines_all {startSeq endSeq : Int} {answer : Nat → WriterAnswer}
    (accepts : ∀ asked, answer asked = .accepted) {lines : List (List Char)}
    (calm : ∀ line ∈ lines, readLine limits line ≠ .raised)
    (inReach : ∀ entry ∈ numberedLines limits lines, entry.1 ≤ endSeq) {pass : BackfillPass}
    {seq : Int} {record : JsonValue} (member : (seq, record) ∈ numberedLines limits lines)
    (due : startSeq ≤ seq) :
    record ∈ (projectLines limits startSeq endSeq answer pass lines).accepted := by
  induction lines generalizing pass with
  | nil => cases member
  | cons line rest ih =>
    have calmRest : ∀ line ∈ rest, readLine limits line ≠ .raised :=
      fun other inRest => calm other (List.mem_cons_of_mem line inRest)
    rw [projectLines]
    cases read : readLine limits line with
    | skipped =>
      rw [numberedLines_skip (by simp [read])] at inReach member
      exact ih calmRest inReach member
    | raised => exact absurd read (calm line List.mem_cons_self)
    | numbered first firstRecord =>
      rw [numberedLines_cons read] at inReach member
      have reachRest := fun entry inRest => inReach entry (List.mem_cons_of_mem _ inRest)
      have reached := inReach _ List.mem_cons_self
      dsimp only at reached ⊢
      rw [accepts]
      split_ifs with early late
      · obtain same | later := List.mem_cons.mp member
        · cases same
          omega
        · exact ih calmRest reachRest later
      · omega
      · obtain same | later := List.mem_cons.mp member
        · cases same
          apply accepted_subset_projectLines
          simp [BackfillPass.accept]
        · exact ih calmRest reachRest later

/-! ## Runs -/

/-- A text that adds records with higher numbers and leaves the ones before it. -/
def Extends (limits : Limits) (text more : List Char) : Prop :=
  ∃ fresh, journalRecords limits (text ++ more) = journalRecords limits text ++ fresh ∧
    Rising (journalRecords limits (text ++ more)) ∧ ∀ entry ∈ fresh, 0 < entry.1

/-- The file is empty or ends with a record's whole line, which the last 4096 bytes
hold, and no line raises. -/
structure ReadsToEnd (limits : Limits) (text : List Char) : Prop where
  calm : ∀ line ∈ fileLines text, readLine limits line ≠ .raised
  ending : text = [] ∨ ∃ before line seq record, text = before ++ (line ++ ['\n']) ∧
    EndsLine before ∧ (∀ c ∈ line, isLineBreak c = false) ∧
    readLine limits line = .numbered seq record ∧ textSize (line ++ ['\n']) ≤ 4096

namespace ProjectionBackfill

/-- What each operation of a run has to meet: the file belongs to one process, which
numbers upwards; an index is built of plain lines; in no call is anything accepted
after a refusal; and a call that is to accept everything reads to the end. -/
def SoundOp (limits : Limits) (state : ProjectionBackfill) : BackfillOp → Prop
  | .grow more => Extends limits state.text more
  | .buildIndex => PlainLines state.text
  | .backfill targetSeq answer =>
    Steady answer ∧
      (targetSeq = none → (∀ asked, answer asked = .accepted) → ReadsToEnd limits state.text)

def SoundOps (limits : Limits) : ProjectionBackfill → List BackfillOp → Prop
  | _, [] => True
  | state, op :: rest => state.SoundOp limits op ∧ (state.apply limits op).SoundOps limits rest

/-- What holds between the operations of a sound run. -/
structure Sound (limits : Limits) (state : ProjectionBackfill) : Prop where
  rising : Rising (journalRecords limits state.text)
  positive : ∀ entry ∈ journalRecords limits state.text, 0 < entry.1
  indexed : IndexSound limits state.text state.index
  cursor : state.cursorSeq = 0 ∨
    ∃ record, (state.cursorSeq, record) ∈ journalRecords limits state.text
  behind : state.NothingPassedOver limits

theorem sound_empty : Sound limits {} where
  rising := List.Pairwise.nil
  positive := by simp
  indexed := by
    intro seq offset filed
    cases filed
  cursor := Or.inl rfl
  behind := by
    intro seq record member
    cases member

theorem sound_grow {state : ProjectionBackfill} (sound : state.Sound limits) {more : List Char}
    (larger : Extends limits state.text more) :
    (state.apply limits (.grow more)).Sound limits := by
  obtain ⟨fresh, records, rising, positive⟩ := larger
  have lower : ∀ entry ∈ fresh, state.cursorSeq < entry.1 := by
    intro entry member
    obtain atStart | ⟨record, inFile⟩ := sound.cursor
    · rw [atStart]
      exact positive entry member
    · rw [records, Rising, List.pairwise_append] at rising
      exact rising.2.2 _ inFile entry member
  refine ⟨rising, ?_, indexSound_grow sound.indexed more, ?_, ?_⟩
  · intro entry member
    simp only [apply, records, List.mem_append] at member
    exact member.elim (sound.positive entry) (positive entry)
  · obtain atStart | ⟨record, inFile⟩ := sound.cursor
    · exact Or.inl atStart
    · refine Or.inr ⟨record, ?_⟩
      simp only [apply, records]
      exact List.mem_append_left fresh inFile
  · intro seq record member within
    simp only [apply, records, List.mem_append] at member within ⊢
    obtain old | new := member
    · exact sound.behind seq record old within
    · have beyond := lower _ new
      dsimp only at beyond
      omega

/-- A due record of the file is among the lines that the call reads. -/
theorem due_streamed {state : ProjectionBackfill} (sound : state.Sound limits) {seq : Int}
    {record : JsonValue} (member : (seq, record) ∈ journalRecords limits state.text)
    (due : state.cursorSeq + 1 ≤ seq) :
    (seq, record) ∈
      numberedLines limits (streamLines state.index state.text (state.cursorSeq + 1)) := by
  obtain ⟨passed, records, lower, _⟩ := streamLines_due sound.indexed (state.cursorSeq + 1)
  rw [records, List.mem_append] at member
  obtain before | streamed := member
  · have below := lower _ before
    dsimp only at below
    omega
  · exact streamed

/-- The state after a call that ends at a number. -/
theorem backfill_ends {state : ProjectionBackfill} {targetSeq : Option Int} {endSeq : Int}
    (ending : targetSeq.or (maxSeq limits state.text) = some endSeq)
    (answer : Nat → WriterAnswer) :
    (state.backfill limits targetSeq answer).1 =
      if endSeq < state.cursorSeq + 1 then state
      else { state with
        cursorSeq := (state.pass limits endSeq answer).lastProjectedSeq
        accepted := (state.pass limits endSeq answer).accepted } := by
  rw [backfill, ending]
  dsimp only
  split_ifs <;> rfl

theorem backfill_eq {state : ProjectionBackfill} {targetSeq : Option Int}
    (answer : Nat → WriterAnswer) :
    (state.backfill limits targetSeq answer).1 = state ∨
      ∃ endSeq, (state.backfill limits targetSeq answer).1 =
        { state with
          cursorSeq := (state.pass limits endSeq answer).lastProjectedSeq
          accepted := (state.pass limits endSeq answer).accepted } := by
  cases ending : targetSeq.or (maxSeq limits state.text) with
  | none =>
    refine Or.inl ?_
    rw [backfill, ending]
  | some endSeq =>
    rw [backfill_ends ending]
    split_ifs
    · exact Or.inl rfl
    · exact Or.inr ⟨endSeq, rfl⟩

theorem sound_pass {state : ProjectionBackfill} (sound : state.Sound limits) (endSeq : Int)
    {answer : Nat → WriterAnswer} (steady : Steady answer) :
    Sound limits { state with
      cursorSeq := (state.pass limits endSeq answer).lastProjectedSeq
      accepted := (state.pass limits endSeq answer).accepted } := by
  obtain ⟨passed, records, _, _⟩ := streamLines_due sound.indexed (state.cursorSeq + 1)
  have rising := sound.rising
  rw [records, Rising, List.pairwise_append] at rising
  refine ⟨sound.rising, sound.positive, sound.indexed, ?_, ?_⟩
  · obtain stays | ⟨record, member⟩ := @projectLines_cursor limits
      (state.cursorSeq + 1) endSeq answer
      { lastProjectedSeq := state.cursorSeq, accepted := state.accepted,
        result := { startedSeq := state.cursorSeq + 1, endedSeq := endSeq } }
      (streamLines state.index state.text (state.cursorSeq + 1))
    · obtain atStart | known := sound.cursor
      · exact Or.inl (stays.trans atStart)
      · refine Or.inr ?_
        rw [pass, stays]
        exact known
    · refine Or.inr ⟨record, ?_⟩
      rw [records]
      exact List.mem_append_right passed member
  · intro seq record member within
    dsimp only at member within ⊢
    by_cases old : seq ≤ state.cursorSeq
    · exact accepted_subset_projectLines _ _ _ _ _ (sound.behind seq record member old)
    · have due : state.cursorSeq + 1 ≤ seq := by omega
      exact projectLines_accepted steady rising.2.1
        (fun entry _ dueEntry => by dsimp only; omega) (due_streamed sound member due) due within

/-- One operation keeps a run sound. -/
theorem sound_apply {state : ProjectionBackfill} (sound : state.Sound limits) {op : BackfillOp}
    (soundOp : state.SoundOp limits op) : (state.apply limits op).Sound limits := by
  cases op with
  | grow more => exact sound_grow sound soundOp
  | buildIndex =>
    exact ⟨sound.rising, sound.positive, build_sound soundOp sound.rising, sound.cursor, sound.behind⟩
  | backfill targetSeq answer =>
    obtain same | ⟨endSeq, moved⟩ := @backfill_eq limits state targetSeq answer
    · rw [apply, same]
      exact sound
    · rw [apply, moved]
      exact sound_pass sound endSeq soundOp.1

end ProjectionBackfill

theorem readLine_numbered {line : List Char} {seq : Int} {record : JsonValue}
    (read : readLine limits line = .numbered seq record) :
    DecimalText.strip line ≠ [] ∧ loads limits (DecimalText.strip line) = .ok record ∧
      seqOf record = some seq := by
  unfold readLine at read
  split_ifs at read with blank
  cases loaded : loads limits (DecimalText.strip line) with
  | error error => cases error <;> simp [loaded] at read
  | ok value =>
    cases numbered : seqOf value with
    | none => simp [loaded, numbered] at read
    | some number =>
      simp only [loaded, numbered, LineRead.numbered.injEq] at read
      obtain ⟨rfl, rfl⟩ := read
      exact ⟨blank, rfl, numbered⟩

/-- The number of a whole last line is the one that a call without a target ends at. -/
theorem maxSeq_last {before line : List Char} (ends : EndsLine before)
    (oneLine : ∀ c ∈ line, isLineBreak c = false) {seq : Int} {record : JsonValue}
    (read : readLine limits line = .numbered seq record)
    (fits : textSize (line ++ ['\n']) ≤ 4096) :
    maxSeq limits (before ++ (line ++ ['\n'])) = some seq := by
  obtain ⟨written, loaded, numbered⟩ := readLine_numbered read
  obtain ⟨front, window, endsFront⟩ := windowText_line ends fits
  have noFeed : '\n' ∉ line := by
    intro member
    have isBreak := oneLine _ member
    simp [isLineBreak] at isBreak
  rw [maxSeq, window, strip_lastLine endsFront noFeed written]
  simp only [if_neg written, loaded, numbered]

theorem journalRecords_last {before line : List Char} (ends : EndsLine before)
    (oneLine : ∀ c ∈ line, isLineBreak c = false) {seq : Int} {record : JsonValue}
    (read : readLine limits line = .numbered seq record) :
    journalRecords limits (before ++ (line ++ ['\n'])) =
      journalRecords limits before ++ [(seq, record)] := by
  rw [journalRecords_append ends, journalRecords_feed, journalRecords_line oneLine read,
    journalRecords_nil, List.append_nil]

namespace ProjectionBackfill

/-- A call without a target leaves no record when its writer accepts everything. -/
theorem all_accepted {state : ProjectionBackfill} (sound : state.Sound limits)
    {answer : Nat → WriterAnswer} (accepts : ∀ asked, answer asked = .accepted)
    (reads : ReadsToEnd limits state.text) :
    (state.apply limits (.backfill none answer)).AllAccepted limits := by
  obtain empty | ⟨before, line, lastSeq, last, whole, ends, oneLine, read, fits⟩ := reads.ending
  · intro seq record member
    have same : (state.apply limits (.backfill none answer)).text = state.text := by
      obtain unmoved | ⟨endSeq, moved⟩ := @backfill_eq limits state none answer
      · rw [apply, unmoved]
      · rw [apply, moved]
    rw [same, empty, journalRecords_nil] at member
    cases member
  · have ending : maxSeq limits state.text = some lastSeq := by
      rw [whole]
      exact maxSeq_last ends oneLine read fits
    have inReach : ∀ entry ∈ journalRecords limits state.text, entry.1 ≤ lastSeq := by
      have rising := sound.rising
      rw [whole, journalRecords_last ends oneLine read] at rising ⊢
      rw [Rising, List.pairwise_append] at rising
      intro entry member
      obtain earlier | here := List.mem_append.mp member
      · exact (rising.2.2 entry earlier _ List.mem_cons_self).le
      · rw [List.mem_singleton.mp here]
    obtain ⟨passed, records, _, inside⟩ := streamLines_due sound.indexed (state.cursorSeq + 1)
    intro seq record member
    rw [apply, backfill_ends (Option.none_or.trans ending)] at member ⊢
    split_ifs at member ⊢ with nothing
    · have reached := inReach _ member
      dsimp only at reached
      exact sound.behind seq record member (by omega)
    · dsimp only at member ⊢
      by_cases old : seq ≤ state.cursorSeq
      · exact accepted_subset_projectLines _ _ _ _ _ (sound.behind seq record member old)
      · have due : state.cursorSeq + 1 ≤ seq := by omega
        refine projectLines_all accepts (fun line streamed => reads.calm line (inside streamed)) ?_
          (due_streamed sound member due) due
        intro entry streamed
        apply inReach
        rw [records]
        exact List.mem_append_right passed streamed

theorem sound_keeps_promise {state : ProjectionBackfill} (sound : state.Sound limits)
    {ops : List BackfillOp} (soundOps : state.SoundOps limits ops) :
    state.KeepsPromise limits ops := by
  induction ops generalizing state with
  | nil => trivial
  | cons op rest ih =>
    obtain ⟨soundOp, later⟩ := soundOps
    have after := sound_apply sound soundOp
    cases op with
    | grow more => exact ih after later
    | buildIndex => exact ih after later
    | backfill targetSeq answer =>
      refine ⟨after.behind, ?_, ih after later⟩
      rintro rfl accepts
      exact all_accepted sound accepts (soundOp.2 rfl accepts)

/-- In a run whose operations are all sound, nothing is ever passed over, and nothing is
left by a backfill without a target whose writer accepts everything. -/
theorem sound_backfills_keep_promise (limits : Limits) (ops : List BackfillOp)
    (sound : SoundOps limits {} ops) : KeepsPromise limits {} ops :=
  sound_keeps_promise sound_empty sound

end ProjectionBackfill

/-! ## A second process -/

theorem readLine_render {record : JsonValue} (written : Written limits record) {seq : Int}
    (numbered : seqOf (asRead record) = some seq) :
    readLine limits (render record) = .numbered seq (asRead record) := by
  have stripped : DecimalText.strip (render record) = render record :=
    strip_fronted written []
  obtain ⟨others, front, starts, _⟩ := written_mapping written
  have notEmpty : render record ≠ [] := by
    rw [starts]
    exact List.cons_ne_nil _ _
  rw [readLine, stripped, if_neg notEmpty, loads_render written]
  simp only [numbered]

/-- What a process writes first. -/
def firstRecord (runId : CodePoints) : JsonValue :=
  journalRecord 1 runId ⟨fieldName ['s', 't', 'a', 'r', 't'], .dict [], 1000⟩

def firstLine (runId : CodePoints) : List Char := render (firstRecord runId) ++ ['\n']

def alwaysAccepts (_ : Nat) : WriterAnswer := .accepted

/-- The limits of an interpreter. -/
def usualLimits : Limits := ⟨1000, 4300⟩

def runA : CodePoints := fieldName ['a']

def runB : CodePoints := fieldName ['b']

theorem written_runA : Written usualLimits (firstRecord runA) where
  fits := by decide +kernel
  named := ⟨_, _, _, rfl⟩

theorem written_runB : Written usualLimits (firstRecord runB) where
  fits := by decide +kernel
  named := ⟨_, _, _, rfl⟩

theorem readLine_runA :
    readLine usualLimits (render (firstRecord runA)) = .numbered 1 (asRead (firstRecord runA)) :=
  readLine_render written_runA rfl

theorem readLine_runB :
    readLine usualLimits (render (firstRecord runB)) = .numbered 1 (asRead (firstRecord runB)) :=
  readLine_render written_runB rfl

theorem fileLines_runA : fileLines (firstLine runA) = [render (firstRecord runA), []] := by
  rw [firstLine, fileLines_append, fileLines_line (written_oneLine written_runA)]
  rfl

theorem records_runA : journalRecords usualLimits (firstLine runA) = [(1, asRead (firstRecord runA))] :=
  journalRecords_last (Or.inl rfl) (written_oneLine written_runA) readLine_runA

theorem maxSeq_runA : maxSeq usualLimits (firstLine runA) = some 1 :=
  maxSeq_last (Or.inl rfl) (written_oneLine written_runA) readLine_runA (by decide +kernel)

/-- The process that a record came from. -/
def runIdOf : JsonValue → CodePoints
  | .dict entries =>
    match entries.lookup (fieldName ['r', 'u', 'n', '_', 'i', 'd']) with
    | some (.str points) => points
    | _ => []
  | _ => []

/-- The state of a projection that nothing has been read for yet. -/
def unread (text : List Char) : ProjectionBackfill := { text := text }

theorem grow_text (state : ProjectionBackfill) (more : List Char) :
    (state.apply limits (.grow more)).text = state.text ++ more := rfl

/-- The projection of the first process's journal. -/
def projectedA : ProjectionBackfill :=
  { text := firstLine runA, cursorSeq := 1, accepted := [asRead (firstRecord runA)] }

theorem backfill_runA :
    (unread (firstLine runA)).apply usualLimits (.backfill none alwaysAccepts) = projectedA := by
  have ending : (none : Option Int).or (maxSeq usualLimits (unread (firstLine runA)).text) = some 1 :=
    maxSeq_runA
  have lines : streamLines {} (firstLine runA) 1 = [render (firstRecord runA), []] := fileLines_runA
  have blank : readLine usualLimits [] = .skipped := readLine_blank rfl
  rw [ProjectionBackfill.apply, ProjectionBackfill.backfill_ends ending, if_neg (by decide)]
  simp [unread, projectedA, ProjectionBackfill.pass, lines, projectLines, readLine_runA, blank,
    alwaysAccepts, BackfillPass.accept]

/-- What the second process wrote is behind the cursor before it is read. -/
theorem second_process_passed_over : ¬ ProjectionBackfill.KeepsPromise usualLimits {}
    [.grow (firstLine runA), .backfill none alwaysAccepts,
      .grow (firstLine runB), .backfill none alwaysAccepts] := by
  rintro ⟨_, _, promised, _⟩
  have grown : ({} : ProjectionBackfill).apply usualLimits (.grow (firstLine runA)) =
      unread (firstLine runA) := rfl
  rw [grown, backfill_runA] at promised
  have ends : EndsLine (firstLine runA) := Or.inr ⟨_, rfl⟩
  have ending : maxSeq usualLimits (firstLine runA ++ firstLine runB) = some 1 :=
    maxSeq_last ends (written_oneLine written_runB) readLine_runB (by decide +kernel)
  have records : journalRecords usualLimits (firstLine runA ++ firstLine runB) =
      journalRecords usualLimits (firstLine runA) ++ [(1, asRead (firstRecord runB))] :=
    journalRecords_last ends (written_oneLine written_runB) readLine_runB
  have text : (projectedA.apply usualLimits (.grow (firstLine runB))).text =
      firstLine runA ++ firstLine runB := by
    rw [grow_text, projectedA]
  have unmoved : (projectedA.apply usualLimits (.grow (firstLine runB))).apply usualLimits
      (.backfill none alwaysAccepts) = projectedA.apply usualLimits (.grow (firstLine runB)) := by
    rw [← text] at ending
    exact (ProjectionBackfill.backfill_ends (Option.none_or.trans ending) _).trans
      (if_pos (by decide))
  rw [unmoved] at promised
  have present : (1, asRead (firstRecord runB)) ∈
      journalRecords usualLimits (projectedA.apply usualLimits (.grow (firstLine runB))).text := by
    rw [text, records]
    exact List.mem_append_right _ List.mem_cons_self
  have seen := promised 1 _ present (by decide)
  have different : runIdOf (asRead (firstRecord runB)) ≠ runIdOf (asRead (firstRecord runA)) := by
    decide +kernel
  exact different (congrArg runIdOf (List.mem_singleton.mp seen))

/-- A journal of one process, indexed and backfilled. -/
theorem sound_backfills_keep_promise_runA : ProjectionBackfill.KeepsPromise usualLimits {}
    [.grow (firstLine runA), .buildIndex, .backfill none alwaysAccepts] := by
  apply ProjectionBackfill.sound_backfills_keep_promise
  have rising : Rising (journalRecords usualLimits (firstLine runA)) := by
    rw [records_runA]
    exact List.pairwise_singleton _ _
  have grows : Extends usualLimits [] (firstLine runA) :=
    ⟨[(1, asRead (firstRecord runA))], records_runA, rising, by simp⟩
  have plain : PlainLines (firstLine runA) :=
    ⟨by decide +kernel, by decide +kernel⟩
  have steady : Steady alwaysAccepts := by
    intro earlier later _ refused
    cases refused
  have reads : ReadsToEnd usualLimits (firstLine runA) := by
    refine ⟨?_, Or.inr ⟨[], _, _, _, rfl, Or.inl rfl, written_oneLine written_runA, readLine_runA,
      by decide +kernel⟩⟩
    intro line member
    rw [fileLines_runA] at member
    obtain rfl | member := List.mem_cons.mp member
    · rw [readLine_runA]
      exact LineRead.noConfusion
    · rw [List.mem_singleton.mp member, readLine_blank rfl]
      exact LineRead.noConfusion
  exact ⟨grows, plain, ⟨steady, fun _ _ => reads⟩, trivial⟩

end LightFee.Persistence
