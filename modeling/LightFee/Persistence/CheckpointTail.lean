import LightFee.Persistence.RotatingJournal

/-!
# The journal tail after a checkpoint

While the checkpoint's file is retained, the files with lower numbers hold what
was appended after it, in order: rotation moves them up together and every
append goes to the live file. Two things break this. A new file may get the
checkpoint's inode number after its file is gone, and an archive between the
checkpoint's file and the live file may be unlinked while the checkpoint's file,
left behind above a lowered limit, survives.
-/

namespace LightFee.Persistence

open JsonText

namespace Directory

/-! ## Files after an operation -/

theorem find_rename (directory : Directory) (source : Nat) {destination : Nat}
    (vacant : directory.find? destination = none) (number : Nat) :
    (directory.rename source destination).find? number =
      if number = destination then directory.find? source
      else if number = source then none else directory.find? number := by
  rw [rename]
  cases found : directory.find? source with
  | none =>
    split_ifs with isDestination isSource
    · rw [isDestination, vacant]
    · rw [isSource, found]
    · rfl
  | some file =>
    dsimp only
    rw [OrderedDict.find_insert, OrderedDict.find_erase]
    split_ifs <;> first | rfl | omega

/-- Moving archives up leaves number one free and everything above the limit alone. -/
theorem find_shifted (limit : Nat) (directory : Directory)
    (vacant : directory.find? (limit + 1) = none) (number : Nat) :
    ((numbersBelow limit).foldl (fun current number => rename current number (number + 1))
      directory).find? number =
      if number = 1 then none
      else if 2 ≤ number ∧ number ≤ limit + 1 then directory.find? (number - 1)
      else directory.find? number := by
  induction limit generalizing directory with
  | zero =>
    have outside : ¬ (2 ≤ number ∧ number ≤ 0 + 1) := by omega
    rw [if_neg outside]
    split_ifs with one
    · rw [one]
      exact vacant
    · rfl
  | succ limit ih =>
    have moved := find_rename directory (limit + 1) vacant
    have nextVacant : (directory.rename (limit + 1) (limit + 1 + 1)).find? (limit + 1) = none := by
      rw [moved, if_neg (by omega), if_pos rfl]
    rw [numbersBelow, List.foldl_cons, ih _ nextVacant, moved (number - 1),
      moved number]
    by_cases top : number = limit + 1 + 1
    · rw [if_neg (by omega), if_neg (by omega), if_pos top, if_neg (by omega), if_pos (by omega), top,
        Nat.add_sub_cancel]
    · rw [if_neg top]
      -- every number below the one just vacated is where the shorter shift left it
      split_ifs <;> first | rfl | omega

/-- After a shift the live number is free, archives up to the limit come from one
below, and archives above the limit stay. -/
theorem find_shiftArchives (directory : Directory) {limit : Nat} (positive : 0 < limit)
    (number : Nat) :
    (directory.shiftArchives limit).find? number =
      if number = 0 then none
      else if number ≤ limit then directory.find? (number - 1) else directory.find? number := by
  obtain ⟨below, rfl⟩ := Nat.exists_eq_succ_of_ne_zero (Nat.ne_of_gt positive)
  have cleared : OrderedDict.find? (directory.erase (below + 1)) (below + 1) = none := by
    rw [OrderedDict.find_erase, if_pos rfl]
  have shifted := find_shifted below (directory.erase (below + 1)) cleared
  rw [shiftArchives, Nat.succ_eq_add_one, Nat.add_sub_cancel,
    find_rename _ _ (by rw [shifted, if_pos rfl]), shifted 0, shifted number]
  simp only [OrderedDict.find_erase]
  by_cases zero : number = 0
  · rw [if_neg (by omega), if_pos zero, if_pos zero]
  · rw [if_neg zero, if_neg zero]
    by_cases one : number = 1
    · subst one
      simp
    · rw [if_neg one]
      split_ifs <;> first | rfl | omega

theorem find_pruneArchive (settings : JournalSettings) (now : ℚ) (directory : Directory)
    (pruned number : Nat) :
    (pruneArchive settings now directory pruned).find? number =
      if number = pruned then (directory.find? number).filter (fun file => !isExpired settings now file)
      else directory.find? number := by
  rw [pruneArchive]
  cases found : directory.find? pruned with
  | none =>
    split_ifs with same
    · rw [same, found]
      rfl
    · rfl
  | some file =>
    dsimp only
    by_cases expired : isExpired settings now file = true
    · rw [if_pos expired, OrderedDict.find_erase]
      by_cases same : number = pruned
      · rw [if_pos same.symm, if_pos same, same, found, Option.filter_some, if_neg (by simp [expired])]
      · rw [if_neg (fun other => same other.symm), if_neg same]
    · rw [if_neg expired]
      split_ifs with same
      · rw [same, found, Option.filter_some, if_pos (by simp [expired])]
      · rfl

theorem find_pruneAll (settings : JournalSettings) (now : ℚ) (numbers : List Nat)
    (directory : Directory) (number : Nat) :
    (numbers.foldl (pruneArchive settings now) directory).find? number =
      if number ∈ numbers then (directory.find? number).filter (fun file => !isExpired settings now file)
      else directory.find? number := by
  induction numbers generalizing directory with
  | nil => simp
  | cons pruned rest ih =>
    rw [List.foldl_cons, ih, find_pruneArchive]
    by_cases here : number = pruned
    · by_cases later : number ∈ rest
      · simp [here, Option.filter_filter]
      · simp [here]
    · by_cases later : number ∈ rest
      · simp [here, later]
      · simp [here, later]

theorem mem_numbersBelow (limit number : Nat) :
    number ∈ numbersBelow limit ↔ 0 < number ∧ number ≤ limit := by
  induction limit with
  | zero =>
    rw [numbersBelow]
    simp
    omega
  | succ limit ih =>
    rw [numbersBelow, List.mem_cons, ih]
    omega

/-- Pruning removes the expired archives up to the limit. -/
theorem find_pruneExpired (directory : Directory) (settings : JournalSettings) (now : ℚ)
    (number : Nat) :
    (directory.pruneExpired settings now).find? number =
      if 0 < number ∧ number ≤ settings.archiveLimit then
        (directory.find? number).filter (fun file => !isExpired settings now file)
      else directory.find? number := by
  rw [pruneExpired, find_pruneAll]
  simp only [List.mem_reverse, mem_numbersBelow]

theorem find_openLive (directory : Directory) (choice : InodeChoice) (now : ℚ) (number : Nat) :
    (directory.openLive choice now).find? number =
      if number = 0 then some ((directory.find? 0).getD ⟨choice.pick directory.inodes, [], now⟩)
      else directory.find? number := by
  rw [openLive, OrderedDict.contains]
  cases live : directory.find? 0 with
  | none =>
    rw [if_neg (by simp), OrderedDict.find_insert]
    by_cases zero : number = 0
    · rw [if_pos zero.symm, if_pos zero]
      rfl
    · rw [if_neg (fun same => zero same.symm), if_neg zero]
  | some file =>
    rw [if_pos (by simp)]
    split_ifs with zero
    · rw [zero, live]
      rfl
    · rfl

theorem find_writeLive (directory : Directory) (bytes : List UInt8) (now : ℚ) (number : Nat) :
    (directory.writeLive bytes now).find? number =
      if number = 0 then (directory.find? 0).map (fun file =>
        { file with content := file.content ++ bytes, modifiedAt := now })
      else directory.find? number := by
  rw [writeLive]
  cases live : directory.find? 0 with
  | none =>
    split_ifs with zero
    · rw [zero, live]
      rfl
    · rfl
  | some file =>
    dsimp only
    rw [OrderedDict.find_insert]
    by_cases zero : number = 0
    · rw [if_pos zero.symm, if_pos zero]
      rfl
    · rw [if_neg (fun same => zero same.symm), if_neg zero]

theorem mem_inodes {directory : Directory} {number : Nat} {file : StoredFile}
    (found : directory.find? number = some file) : file.inode ∈ directory.inodes := by
  have entry := (OrderedDict.mem_entries directory number file).mpr found
  exact List.mem_map_of_mem (List.mem_map_of_mem entry)

end Directory

/-! ## Files of whole lines -/

open Directory

def fileBytes (records : List JsonValue) : List UInt8 :=
  Utf8Text.encode ((records.map render).flatMap (· ++ ['\n']))

/-- The bytes are lines of written records. -/
def LineFile (limits : Limits) (bytes : List UInt8) : Prop :=
  ∃ records, (∀ record ∈ records, Written limits record) ∧ bytes = fileBytes records

/-- The records read from bytes, where reading does not raise. -/
def readOf (limits : Limits) (bytes : List UInt8) : List JsonValue :=
  (readRecords limits bytes).getD []

theorem fileBytes_append (first second : List JsonValue) :
    fileBytes (first ++ second) = fileBytes first ++ fileBytes second := by
  simp [fileBytes]

theorem lineFile_nil (limits : Limits) : LineFile limits [] := ⟨[], by simp, rfl⟩

/-- Whole lines are read as the records they were written from. -/
theorem readRecords_fileBytes (limits : Limits) (records : List JsonValue)
    (written : ∀ record ∈ records, Written limits record) :
    readRecords limits (fileBytes records) = some (records.map asRead) := by
  rw [readRecords, fileBytes, Utf8Text.decode_encode, Option.bind_some]
  cases records with
  | nil => rfl
  | cons first rest =>
    have lines := fileLines_appended [] written
    have calm := calm_appended [] [] rfl written (by simp)
    have read := filterMap_written written
    rw [List.nil_append] at lines
    rw [lines, parseLines_some_iff]
    refine ⟨calm, ?_⟩
    rw [List.map_cons] at read
    rw [splitLines, List.nil_append, List.nil_append, List.filterMap_append, read]
    have blank : recordOf limits [] = none := recordOf_blank rfl
    simp [blank]

theorem readRecords_lineFile {limits : Limits} {bytes : List UInt8} (lines : LineFile limits bytes) :
    readRecords limits bytes = some (readOf limits bytes) := by
  obtain ⟨records, written, rfl⟩ := lines
  rw [readOf, readRecords_fileBytes limits _ written, Option.getD_some]

theorem lineFile_append {limits : Limits} {bytes : List UInt8} {record : JsonValue}
    (lines : LineFile limits bytes) (written : Written limits record) :
    LineFile limits (bytes ++ fileBytes [record]) ∧
      readOf limits (bytes ++ fileBytes [record]) = readOf limits bytes ++ [asRead record] := by
  obtain ⟨records, all, rfl⟩ := lines
  have both : ∀ other ∈ records ++ [record], Written limits other := by
    intro other member
    obtain old | new := List.mem_append.mp member
    · exact all other old
    · exact (List.mem_singleton.mp new) ▸ written
  rw [← fileBytes_append]
  refine ⟨⟨records ++ [record], both, rfl⟩, ?_⟩
  rw [readOf, readOf, readRecords_fileBytes _ _ both, readRecords_fileBytes _ _ all]
  simp

/-! ## The tail below a file -/

namespace Directory

/-- The bytes under a number, none when there is no file. -/
def bytesAt (directory : Directory) (number : Nat) : List UInt8 :=
  ((directory.find? number).map StoredFile.content).getD []

/-- The records of the files newer than a number, in the order of the appends. -/
def newer (limits : Limits) (directory : Directory) : Nat → List JsonValue
  | 0 => []
  | number + 1 => readOf limits (directory.bytesAt number) ++ newer limits directory number

/-- An archive newer than a number is missing. -/
def Hole (directory : Directory) (number : Nat) : Prop :=
  ∃ missing, 0 < missing ∧ missing < number ∧ directory.find? missing = none

/-- Files hold whole lines, and no two of them share an inode number. -/
structure Sound (limits : Limits) (directory : Directory) : Prop where
  lines : ∀ number file, directory.find? number = some file → LineFile limits file.content
  distinct : ∀ first second one other, directory.find? first = some one →
    directory.find? second = some other → one.inode = other.inode → first = second

/-- A file with the checkpoint's inode number starts the tail: what it holds behind
the offset, and the newer files, are the records appended since, unless an archive
in between is missing. -/
def Tracks (limits : Limits) (inode offset : Nat) (records : List JsonValue)
    (directory : Directory) : Prop :=
  ∀ number file, directory.find? number = some file → file.inode = inode →
    (offset ≤ file.content.length ∧ LineFile limits (file.content.drop offset)) ∧
      (directory.Hole number ∨
        readOf limits (file.content.drop offset) ++ directory.newer limits number =
          records.map asRead)

theorem newer_congr {limits : Limits} {first second : Directory} (number : Nat)
    (same : ∀ lower, lower < number → first.bytesAt lower = second.bytesAt lower) :
    first.newer limits number = second.newer limits number := by
  induction number with
  | zero => rfl
  | succ number ih =>
    have lowerSame := ih (fun lower below => same lower (by omega))
    rw [newer, newer, lowerSame, same number (by omega)]

theorem readOf_nil (limits : Limits) : readOf limits [] = [] := by
  have read := readRecords_fileBytes limits [] (by simp)
  rw [readOf, show ([] : List UInt8) = fileBytes [] from rfl, read]
  rfl

/-- Moving every file below a number up by one keeps what is newer. -/
theorem newer_shift {limits : Limits} {before after : Directory} (number : Nat)
    (empty : after.bytesAt 0 = [])
    (moved : ∀ lower, lower < number → after.bytesAt (lower + 1) = before.bytesAt lower) :
    after.newer limits (number + 1) = before.newer limits number := by
  induction number with
  | zero => rw [newer, newer, newer, empty, readOf_nil, List.nil_append]
  | succ number ih =>
    have lowerSame := ih (fun lower below => moved lower (by omega))
    rw [newer, lowerSame, newer, moved number (by omega)]

/-- The files that are left are as they were, and only archives are gone. -/
def LeftBy (before after : Directory) : Prop :=
  ∀ number, after.find? number = before.find? number ∨
    (0 < number ∧ after.find? number = none)

theorem leftBy_pruneExpired (directory : Directory) (settings : JournalSettings) (now : ℚ) :
    LeftBy directory (directory.pruneExpired settings now) := by
  intro number
  rw [find_pruneExpired]
  split_ifs with archive
  · cases found : directory.find? number with
    | none => exact Or.inl rfl
    | some file =>
      by_cases expired : isExpired settings now file = true
      · apply Or.inr
        simp [archive.1, expired]
      · apply Or.inl
        simp [expired]
  · exact Or.inl rfl

theorem LeftBy.found {before after : Directory} (left : LeftBy before after) {number : Nat}
    {file : StoredFile} (found : after.find? number = some file) :
    before.find? number = some file := by
  obtain same | ⟨_, gone⟩ := left number
  · rw [← same, found]
  · rw [gone] at found
    cases found

theorem LeftBy.sound {limits : Limits} {before after : Directory} (left : LeftBy before after)
    (sound : Sound limits before) : Sound limits after where
  lines := fun number file found => sound.lines number file (left.found found)
  distinct := fun first second one other foundOne foundOther =>
    sound.distinct first second one other (left.found foundOne) (left.found foundOther)

/-- An archive that is gone leaves a hole; otherwise nothing newer changed. -/
theorem LeftBy.tracks {limits : Limits} {inode offset : Nat} {records : List JsonValue}
    {before after : Directory} (left : LeftBy before after)
    (tracks : Tracks limits inode offset records before) :
    Tracks limits inode offset records after := by
  intro number file found named
  obtain ⟨readable, tail⟩ := tracks number file (left.found found) named
  refine ⟨readable, ?_⟩
  by_cases hole : after.Hole number
  · exact Or.inl hole
  · have same : ∀ lower, lower < number → after.find? lower = before.find? lower := by
      intro lower below
      obtain same | ⟨archive, gone⟩ := left lower
      · exact same
      · exact absurd ⟨lower, archive, below, gone⟩ hole
    obtain ⟨missing, archive, below, gone⟩ | complete := tail
    · exact absurd ⟨missing, archive, below, by rw [same missing below, gone]⟩ hole
    · apply Or.inr
      have newerSame : after.newer limits number = before.newer limits number := by
        apply newer_congr
        intro lower below
        rw [bytesAt, bytesAt, same lower below]
      rw [newerSame, complete]

theorem shiftArchives_sound {limits : Limits} {directory : Directory} {limit : Nat}
    (positive : 0 < limit) (sound : Sound limits directory) :
    Sound limits (directory.shiftArchives limit) where
  lines := by
    intro number file found
    rw [find_shiftArchives directory positive] at found
    split_ifs at found
    · exact sound.lines _ file found
    · exact sound.lines _ file found
  distinct := by
    intro first second one other foundOne foundOther named
    rw [find_shiftArchives directory positive] at foundOne foundOther
    split_ifs at foundOne foundOther
    all_goals
      have same := sound.distinct _ _ one other foundOne foundOther named
      omega

/-- A shift moves the tail up as a whole when its first file is not above the limit. -/
theorem shiftArchives_tracks {limits : Limits} {inode offset : Nat} {records : List JsonValue}
    {directory : Directory} {limit : Nat} (positive : 0 < limit)
    (inReach : ∀ number file, directory.find? number = some file → file.inode = inode →
      number ≤ limit)
    (tracks : Tracks limits inode offset records directory) :
    Tracks limits inode offset records (directory.shiftArchives limit) := by
  intro number file found named
  have moved := find_shiftArchives directory positive
  rw [moved] at found
  by_cases zero : number = 0
  · rw [if_pos zero] at found
    cases found
  by_cases low : number ≤ limit
  · rw [if_neg zero, if_pos low] at found
    obtain ⟨readable, tail⟩ := tracks (number - 1) file found named
    refine ⟨readable, ?_⟩
    obtain ⟨missing, archive, below, gone⟩ | complete := tail
    · refine Or.inl ⟨missing + 1, by omega, by omega, ?_⟩
      rw [moved, if_neg (by omega), if_pos (by omega), Nat.add_sub_cancel, gone]
    · apply Or.inr
      have newerSame : (directory.shiftArchives limit).newer limits (number - 1 + 1) =
          directory.newer limits (number - 1) := by
        apply newer_shift
        · rw [bytesAt, moved, if_pos rfl]
          rfl
        · intro lower below
          rw [bytesAt, bytesAt, moved, if_neg (by omega), if_pos (by omega), Nat.add_sub_cancel]
      rw [← complete, ← newerSame, Nat.sub_add_cancel (by omega)]
  · rw [if_neg zero, if_neg low] at found
    exact absurd (inReach number file found named) low

theorem openLive_sound {limits : Limits} {directory : Directory} (choice : InodeChoice) (now : ℚ)
    (sound : Sound limits directory) : Sound limits (directory.openLive choice now) := by
  cases live : directory.find? 0 with
  | some file =>
    have same : directory.openLive choice now = directory := by
      rw [openLive, OrderedDict.contains, live, if_pos (by simp)]
    rw [same]
    exact sound
  | none =>
    have unused := choice.unused directory.inodes
    constructor
    · intro number file found
      rw [find_openLive, live] at found
      split_ifs at found
      · cases found
        exact lineFile_nil limits
      · exact sound.lines number file found
    · intro first second one other foundOne foundOther named
      rw [find_openLive, live] at foundOne foundOther
      split_ifs at foundOne foundOther with isFirst isSecond isSecond
      · rw [isFirst, isSecond]
      · cases foundOne
        exact absurd (mem_inodes foundOther) (named ▸ unused)
      · cases foundOther
        exact absurd (mem_inodes foundOne) (named ▸ unused)
      · exact sound.distinct first second one other foundOne foundOther named

/-- A fresh live file under another inode number adds nothing to the tail. -/
theorem openLive_tracks {limits : Limits} {inode offset : Nat} {records : List JsonValue}
    {directory : Directory} (choice : InodeChoice) (now : ℚ)
    (other : directory.find? 0 = none → choice.pick directory.inodes ≠ inode)
    (tracks : Tracks limits inode offset records directory) :
    Tracks limits inode offset records (directory.openLive choice now) := by
  intro number file found named
  have opened := find_openLive directory choice now
  have bytesSame : ∀ lower, (directory.openLive choice now).bytesAt lower = directory.bytesAt lower := by
    intro lower
    rw [bytesAt, bytesAt, opened]
    split_ifs with zero
    · cases live : directory.find? 0 with
      | none => simp [zero, live]
      | some file => simp [zero, live]
    · rfl
  have wasThere : directory.find? number = some file := by
    rw [opened] at found
    split_ifs at found with zero
    · cases live : directory.find? 0 with
      | none =>
        rw [live] at found
        cases found
        exact absurd named (other live)
      | some old =>
        rw [live] at found
        rw [zero, live, ← found, Option.getD_some]
    · exact found
  obtain ⟨readable, tail⟩ := tracks number file wasThere named
  refine ⟨readable, ?_⟩
  obtain ⟨missing, archive, below, gone⟩ | complete := tail
  · refine Or.inl ⟨missing, archive, below, ?_⟩
    rw [opened, if_neg (by omega), gone]
  · apply Or.inr
    rw [← complete, newer_congr number (fun lower _ => bytesSame lower)]

theorem writeLive_sound {limits : Limits} {directory : Directory} {record : JsonValue}
    (written : Written limits record) (now : ℚ) (sound : Sound limits directory) :
    Sound limits (directory.writeLive (fileBytes [record]) now) := by
  have wrote := find_writeLive directory (fileBytes [record]) now
  -- every file after the write has the inode number of the file that was there
  have source : ∀ number file, (directory.writeLive (fileBytes [record]) now).find? number = some file →
      ∃ old, directory.find? number = some old ∧ old.inode = file.inode ∧
        LineFile limits file.content := by
    intro number file found
    rw [wrote] at found
    split_ifs at found with zero
    · obtain ⟨old, live, rfl⟩ := Option.map_eq_some_iff.mp found
      refine ⟨old, by rw [zero, live], rfl, ?_⟩
      exact (lineFile_append (sound.lines 0 old live) written).1
    · exact ⟨file, found, rfl, sound.lines number file found⟩
  constructor
  · intro number file found
    obtain ⟨_, _, _, lines⟩ := source number file found
    exact lines
  · intro first second one other foundOne foundOther named
    obtain ⟨oldOne, wasOne, inodeOne, _⟩ := source first one foundOne
    obtain ⟨oldOther, wasOther, inodeOther, _⟩ := source second other foundOther
    apply sound.distinct first second oldOne oldOther wasOne wasOther
    rw [inodeOne, inodeOther, named]

theorem newer_writeLive {limits : Limits} {directory : Directory} {record : JsonValue}
    (written : Written limits record) (now : ℚ) {live : StoredFile}
    (isLive : directory.find? 0 = some live) (lines : LineFile limits live.content) (number : Nat) :
    (directory.writeLive (fileBytes [record]) now).newer limits (number + 1) =
      directory.newer limits (number + 1) ++ [asRead record] := by
  have wrote := find_writeLive directory (fileBytes [record]) now
  induction number with
  | zero =>
    rw [newer, newer, newer, newer, bytesAt, bytesAt, wrote, if_pos rfl, isLive]
    simpa using (lineFile_append lines written).2
  | succ number ih =>
    have sameBytes : (directory.writeLive (fileBytes [record]) now).bytesAt (number + 1) =
        directory.bytesAt (number + 1) := by
      rw [bytesAt, bytesAt, wrote, if_neg (by omega)]
    rw [newer, sameBytes, ih, ← List.append_assoc]
    rfl

/-- A write to the live file extends the tail by its record. -/
theorem writeLive_tracks {limits : Limits} {inode offset : Nat} {records : List JsonValue}
    {directory : Directory} {record : JsonValue} (written : Written limits record) (now : ℚ)
    {live : StoredFile} (isLive : directory.find? 0 = some live) (sound : Sound limits directory)
    (tracks : Tracks limits inode offset records directory) :
    Tracks limits inode offset (records ++ [record])
      (directory.writeLive (fileBytes [record]) now) := by
  intro number file found named
  have wrote := find_writeLive directory (fileBytes [record]) now
  cases number with
  | zero =>
    rw [wrote, if_pos rfl, isLive, Option.map_some, Option.some.injEq] at found
    subst found
    obtain ⟨⟨within, lines⟩, tail⟩ := tracks 0 live isLive named
    obtain ⟨grown, extended⟩ := lineFile_append lines written
    dsimp only
    rw [List.drop_append_of_le_length within]
    refine ⟨⟨?_, grown⟩, ?_⟩
    · rw [List.length_append]
      omega
    · obtain ⟨missing, _, below, _⟩ | complete := tail
      · omega
      · apply Or.inr
        rw [newer, List.append_nil] at complete
        rw [newer, List.append_nil, extended, complete, List.map_append]
        rfl
  | succ number =>
    rw [wrote, if_neg (by omega)] at found
    obtain ⟨readable, tail⟩ := tracks (number + 1) file found named
    refine ⟨readable, ?_⟩
    obtain ⟨missing, archive, below, gone⟩ | complete := tail
    · refine Or.inl ⟨missing, archive, below, ?_⟩
      rw [wrote, if_neg (by omega), gone]
    · apply Or.inr
      rw [newer_writeLive written now isLive (sound.lines 0 live isLive) number, ← List.append_assoc,
        complete, List.map_append]
      rfl

end Directory

end LightFee.Persistence
