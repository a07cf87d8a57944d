import LightFee.Persistence.CheckpointTail

/-!
# Reading after a checkpoint, over whole histories

A checkpoint taken anywhere in a history is read later either without an answer
or with exactly the records acknowledged since, provided no rotation happens
while the checkpoint's file stands above the archive limit and no rotation's
fresh file gets the checkpoint's inode number. Archives removed for their age
need no condition: the hole they leave moves up with the checkpoint's file.
-/

namespace LightFee.Persistence

open JsonText

namespace Directory

/-! ## Reading the tail -/

/-- The numbers below a bound, highest first. -/
def pathsBelow : Nat → List Nat
  | 0 => []
  | number + 1 => number :: pathsBelow number

theorem numbersBelow_live (highest : Nat) : numbersBelow highest ++ [0] = pathsBelow (highest + 1) := by
  induction highest with
  | zero => rfl
  | succ highest ih =>
    rw [numbersBelow, List.cons_append, ih]
    rfl

/-- The retained chain is empty or runs from some archive down without a gap. -/
theorem retained_chain (directory : Directory) :
    directory.retainedPathsOldestFirst = [] ∨
      ∃ highest, directory.retainedPathsOldestFirst = pathsBelow (highest + 1) ∧
        ∀ number, 0 < number → number ≤ highest → ∃ file, directory.find? number = some file := by
  rw [retainedPathsOldestFirst]
  cases archives : directory.archiveNumbers with
  | nil => exact Or.inr ⟨0, rfl, fun number positive low => by omega⟩
  | cons highest rest =>
    dsimp only
    split_ifs with chain
    · refine Or.inr ⟨highest, by rw [chain, numbersBelow_live], fun number positive low => ?_⟩
      have listed : number ∈ directory.archiveNumbers := by
        rw [archives, chain, mem_numbersBelow]
        exact ⟨positive, low⟩
      rw [archiveNumbers, List.mem_insertionSort, List.mem_filter, OrderedDict.mem_keys] at listed
      exact listed.1
    · exact Or.inl rfl

/-- A checkpoint is found at a number of its inode, with the lower numbers after it. -/
theorem findCheckpoint_below (directory : Directory) (device : Nat)
    (checkpoint : SnapshotCheckpoint) (number : Nat) :
    directory.findCheckpoint device checkpoint (pathsBelow number) = none ∨
      ∃ lower file, lower < number ∧ directory.find? lower = some file ∧
        file.inode = checkpoint.inode ∧
        directory.findCheckpoint device checkpoint (pathsBelow number) =
          some (file, pathsBelow lower) := by
  induction number with
  | zero => exact Or.inl rfl
  | succ number ih =>
    rw [pathsBelow, findCheckpoint]
    have later : directory.findCheckpoint device checkpoint (pathsBelow number) = none ∨
        ∃ lower file, lower < number + 1 ∧ directory.find? lower = some file ∧
          file.inode = checkpoint.inode ∧
          directory.findCheckpoint device checkpoint (pathsBelow number) =
            some (file, pathsBelow lower) := by
      obtain missed | ⟨lower, file, below, found⟩ := ih
      · exact Or.inl missed
      · exact Or.inr ⟨lower, file, by omega, found⟩
    cases found : directory.find? number with
    | none => exact later
    | some file =>
      dsimp only
      split_ifs with named short
      · exact Or.inl rfl
      · exact Or.inr ⟨number, file, by omega, found, named.2, rfl⟩
      · exact later

/-- A gapless chain of whole-line files reads as their records. -/
theorem readPaths_below {limits : Limits} {directory : Directory} (sound : Sound limits directory)
    (number : Nat)
    (present : ∀ lower, lower < number → ∃ file, directory.find? lower = some file) :
    readPaths limits directory (pathsBelow number) = some (some (directory.newer limits number)) := by
  induction number with
  | zero => rfl
  | succ number ih =>
    obtain ⟨file, found⟩ := present number (by omega)
    have bytes : directory.bytesAt number = file.content := by
      rw [bytesAt, found]
      rfl
    rw [pathsBelow, readPaths, found]
    dsimp only
    rw [readRecords_lineFile (sound.lines number file found), Option.bind_some,
      ih (fun lower below => present lower (by omega)), newer, bytes]
    rfl

/-- Where the tail is tracked, reading gives it or nothing. -/
theorem read_tracked {limits : Limits} {directory : Directory} {device : Nat}
    {checkpoint : SnapshotCheckpoint} {records : List JsonValue}
    (sound : Sound limits directory) (live : ∃ file, directory.find? 0 = some file)
    (tracks : Tracks limits checkpoint.inode checkpoint.offset.toNat records directory) :
    directory.readAfterSnapshotCheckpoint limits device checkpoint = some none ∨
      directory.readAfterSnapshotCheckpoint limits device checkpoint =
        some (some (records.map asRead)) := by
  rw [readAfterSnapshotCheckpoint]
  split_ifs
  · exact Or.inl rfl
  · exact Or.inl rfl
  · obtain none | ⟨highest, chain, present⟩ := retained_chain directory
    · rw [none]
      exact Or.inl rfl
    · rw [chain]
      obtain missed | ⟨number, file, below, found, named, result⟩ :=
        findCheckpoint_below directory device checkpoint (highest + 1)
      · rw [missed]
        exact Or.inl rfl
      · have allPresent : ∀ lower, lower < number → ∃ file, directory.find? lower = some file := by
          intro lower lowerBelow
          cases lower with
          | zero => exact live
          | succ lower => exact present (lower + 1) (by omega) (by omega)
        obtain ⟨⟨_, lines⟩, tail⟩ := tracks number file found named
        obtain ⟨missing, archive, missingBelow, gone⟩ | complete := tail
        · obtain ⟨other, there⟩ := allPresent missing missingBelow
          rw [gone] at there
          cases there
        · apply Or.inr
          rw [result]
          dsimp only
          rw [readRecords_lineFile lines, readPaths_below sound number allPresent, Option.bind_some,
            Option.map_some, Option.map_some, complete]

end Directory

/-! ## One use of a journal -/

namespace RotatingJournal

open Directory

/-- The rotation an append would make keeps the tail of the checkpoint: the
checkpoint's file is not above the archive limit, and the fresh live file gets
another inode number. -/
def RotationKeeps (checkpoint : SnapshotCheckpoint) (journal : RotatingJournal)
    (choice : InodeChoice) (now : ℚ) : Prop :=
  (∀ number file, journal.directory.find? number = some file → file.inode = checkpoint.inode →
    number ≤ journal.settings.archiveLimit) ∧
  choice.pick ((journal.directory.shiftArchives journal.settings.archiveLimit).pruneExpired
    journal.settings now).inodes ≠ checkpoint.inode

/-- Only an append that rotates can lose the tail. -/
def SafeOp (limits : Limits) (checkpoint : SnapshotCheckpoint) (journal : RotatingJournal) :
    JournalOp → Prop
  | .append call choice now _ =>
    ∀ line, journal.isOpen = true → dumps limits (journal.nextRecord call) = some line →
      journal.directory.needsRotation journal.settings (lineBytes line).length = true →
        journal.RotationKeeps checkpoint choice now
  | _ => True

def SafeRun (limits : Limits) (checkpoint : SnapshotCheckpoint) :
    RotatingJournal → List JournalOp → Prop
  | _, [] => True
  | journal, op :: rest =>
    journal.SafeOp limits checkpoint op ∧ (journal.apply limits op).1.SafeRun limits checkpoint rest

theorem archiveLimit_positive (settings : JournalSettings) : 0 < settings.archiveLimit :=
  lt_of_lt_of_le Nat.zero_lt_one (le_max_right settings.archiveCount 1)

theorem lineBytes_render (record : JsonValue) :
    lineBytes (render record) = fileBytes [record] := by
  rw [lineBytes, fileBytes, List.map_singleton, List.flatMap_singleton]

theorem rotate_sound {limits : Limits} {directory : Directory} (settings : JournalSettings)
    (choice : InodeChoice) (now : ℚ) (sound : Sound limits directory) :
    Sound limits (directory.rotate settings choice now) := by
  apply openLive_sound
  apply (leftBy_pruneExpired _ settings now).sound
  exact shiftArchives_sound (archiveLimit_positive settings) sound

theorem openLive_live (directory : Directory) (choice : InodeChoice) (now : ℚ) :
    ∃ file, (directory.openLive choice now).find? 0 = some file := by
  rw [find_openLive, if_pos rfl]
  exact ⟨_, rfl⟩

/-- What an append does: it takes a number, and a record that can be written goes
to the live file of the directory made ready for it. -/
theorem append_cases (limits : Limits) (journal : RotatingJournal) (call : AppendCall)
    (choice : InodeChoice) (now writtenAt : ℚ) :
    ((journal.apply limits (.append call choice now writtenAt)).1.directory = journal.directory ∧
      (journal.apply limits (.append call choice now writtenAt)).2 = none) ∨
    (journal.isOpen = true ∧ Written limits (journal.nextRecord call) ∧
      dumps limits (journal.nextRecord call) = some (render (journal.nextRecord call)) ∧
      (journal.apply limits (.append call choice now writtenAt)).1.directory =
        (journal.roomFor (fileBytes [journal.nextRecord call]) choice now).writeLive
          (fileBytes [journal.nextRecord call]) writtenAt ∧
      (journal.apply limits (.append call choice now writtenAt)).2 =
        some (journal.nextRecord call)) := by
  rw [apply]
  by_cases isOpen : journal.isOpen = true
  · rw [if_pos isOpen, dumps]
    by_cases fits : writable limits.digits limits.depth (journal.nextRecord call) = true
    · rw [if_pos fits]
      have written : Written limits (journal.nextRecord call) :=
        ⟨fits, ⟨journal.seq + 1, journal.runId, call, rfl⟩⟩
      rw [← lineBytes_render]
      exact Or.inr ⟨isOpen, written, rfl, rfl, rfl⟩
    · rw [if_neg fits]
      exact Or.inl ⟨rfl, rfl⟩
  · rw [if_neg isOpen]
    exact Or.inl ⟨rfl, rfl⟩

theorem roomFor_sound {limits : Limits} {journal : RotatingJournal} (bytes : List UInt8)
    (choice : InodeChoice) (now : ℚ) (sound : Sound limits journal.directory) :
    Sound limits (journal.roomFor bytes choice now) := by
  rw [roomFor]
  split_ifs
  · exact rotate_sound journal.settings choice now sound
  · exact sound

theorem apply_sound {limits : Limits} {journal : RotatingJournal} (op : JournalOp)
    (sound : Sound limits journal.directory) :
    Sound limits (journal.apply limits op).1.directory := by
  cases op with
  | «open» settings runId choice now =>
    exact openLive_sound choice now ((leftBy_pruneExpired _ settings now).sound sound)
  | reopen choice now =>
    exact openLive_sound choice now ((leftBy_pruneExpired _ journal.settings now).sound sound)
  | append call choice now writtenAt =>
    obtain ⟨same, _⟩ | ⟨_, written, _, after, _⟩ :=
      append_cases limits journal call choice now writtenAt
    · rw [same]
      exact sound
    · rw [after]
      exact writeLive_sound written writtenAt (roomFor_sound _ choice now sound)
  | close => exact sound

theorem run_sound {limits : Limits} (journal : RotatingJournal) (ops : List JournalOp)
    (sound : Sound limits journal.directory) :
    Sound limits (journal.run limits ops).1.directory := by
  induction ops generalizing journal with
  | nil => exact sound
  | cons op rest ih => exact ih _ (apply_sound op sound)

/-! ## The tail of a checkpoint -/

/-- The tail is tracked on a sound directory with a live file. -/
structure Follows (limits : Limits) (checkpoint : SnapshotCheckpoint) (records : List JsonValue)
    (directory : Directory) : Prop where
  sound : Sound limits directory
  live : ∃ file, directory.find? 0 = some file
  tracks : Tracks limits checkpoint.inode checkpoint.offset.toNat records directory

/-- At the checkpoint nothing has been appended since. -/
theorem follows_checkpoint {limits : Limits} {directory : Directory} {device : Nat}
    {checkpoint : SnapshotCheckpoint} (sound : Sound limits directory)
    (taken : directory.snapshotCheckpoint device = some checkpoint) :
    Follows limits checkpoint [] directory := by
  obtain ⟨live, isLive, rfl⟩ := Option.map_eq_some_iff.mp taken
  refine ⟨sound, ⟨live, isLive⟩, ?_⟩
  intro number file found named
  have isZero : number = 0 := sound.distinct number 0 file live found isLive named
  subst isZero
  rw [isLive, Option.some.injEq] at found
  subst found
  dsimp only
  rw [Int.toNat_natCast, List.drop_length]
  refine ⟨⟨le_refl _, lineFile_nil limits⟩, Or.inr ?_⟩
  rw [readOf_nil, newer]
  rfl

theorem roomFor_follows {limits : Limits} {checkpoint : SnapshotCheckpoint}
    {records : List JsonValue} {journal : RotatingJournal} (bytes : List UInt8)
    (choice : InodeChoice) (now : ℚ)
    (keeps : journal.directory.needsRotation journal.settings bytes.length = true →
      journal.RotationKeeps checkpoint choice now)
    (follows : Follows limits checkpoint records journal.directory) :
    Follows limits checkpoint records (journal.roomFor bytes choice now) := by
  rw [roomFor]
  split_ifs with rotates
  · obtain ⟨inReach, other⟩ := keeps rotates
    have positive := archiveLimit_positive journal.settings
    refine ⟨rotate_sound journal.settings choice now follows.sound, openLive_live _ choice now, ?_⟩
    apply openLive_tracks choice now (fun _ => other)
    apply (leftBy_pruneExpired _ journal.settings now).tracks
    exact shiftArchives_tracks positive inReach follows.tracks
  · exact follows

/-- Opening a journal loses nothing of the tail. -/
theorem openLive_follows {limits : Limits} {checkpoint : SnapshotCheckpoint}
    {records : List JsonValue} {directory : Directory} (settings : JournalSettings)
    (choice : InodeChoice) (now : ℚ) (follows : Follows limits checkpoint records directory) :
    Follows limits checkpoint records ((directory.pruneExpired settings now).openLive choice now) := by
  have left := leftBy_pruneExpired directory settings now
  obtain ⟨live, isLive⟩ := follows.live
  have stillLive : (directory.pruneExpired settings now).find? 0 = some live := by
    obtain same | ⟨impossible, _⟩ := left 0
    · rw [same, isLive]
    · omega
  refine ⟨openLive_sound choice now (left.sound follows.sound), openLive_live _ choice now, ?_⟩
  apply openLive_tracks choice now
  · intro missing
    rw [stillLive] at missing
    cases missing
  · exact left.tracks follows.tracks

/-- One safe use extends the tail by the record it acknowledges. -/
theorem apply_follows {limits : Limits} {checkpoint : SnapshotCheckpoint}
    {records : List JsonValue} {journal : RotatingJournal} (op : JournalOp)
    (safe : journal.SafeOp limits checkpoint op)
    (follows : Follows limits checkpoint records journal.directory) :
    Follows limits checkpoint (records ++ (journal.apply limits op).2.toList)
      (journal.apply limits op).1.directory := by
  cases op with
  | «open» settings runId choice now =>
    rw [apply, Option.toList_none, List.append_nil]
    exact openLive_follows settings choice now follows
  | reopen choice now =>
    rw [apply, Option.toList_none, List.append_nil]
    exact openLive_follows journal.settings choice now follows
  | append call choice now writtenAt =>
    obtain ⟨same, nothing⟩ | ⟨isOpen, written, line, after, acknowledged⟩ :=
      append_cases limits journal call choice now writtenAt
    · rw [same, nothing, Option.toList_none, List.append_nil]
      exact follows
    · have keeps : journal.directory.needsRotation journal.settings
          (fileBytes [journal.nextRecord call]).length = true →
          journal.RotationKeeps checkpoint choice now := by
        intro rotates
        apply safe _ isOpen line
        rw [lineBytes_render]
        exact rotates
      have room := roomFor_follows (fileBytes [journal.nextRecord call]) choice now keeps follows
      obtain ⟨live, isLive⟩ := room.live
      rw [after, acknowledged, Option.toList_some]
      refine ⟨writeLive_sound written writtenAt room.sound, ?_,
        writeLive_tracks written writtenAt isLive room.sound room.tracks⟩
      rw [find_writeLive, if_pos rfl, isLive]
      exact ⟨_, rfl⟩
  | close =>
    rw [apply, Option.toList_none, List.append_nil]
    exact follows

theorem run_follows {limits : Limits} {checkpoint : SnapshotCheckpoint} {records : List JsonValue}
    (journal : RotatingJournal) (ops : List JournalOp)
    (safe : journal.SafeRun limits checkpoint ops)
    (follows : Follows limits checkpoint records journal.directory) :
    Follows limits checkpoint (records ++ (journal.run limits ops).2)
      (journal.run limits ops).1.directory := by
  induction ops generalizing journal records with
  | nil =>
    rw [run, List.append_nil]
    exact follows
  | cons op rest ih =>
    obtain ⟨safeOp, safeRest⟩ := safe
    have step := ih _ safeRest (apply_follows op safeOp follows)
    rw [List.append_assoc] at step
    exact step

theorem empty_sound (limits : Limits) : Sound limits OrderedDict.empty where
  lines := by
    intro number file found
    cases found
  distinct := by
    intro first second one other found
    cases found

/-- A checkpoint is read without an answer or with the records acknowledged since. -/
def TailExact (limits : Limits) (before after : List JournalOp) (device : Nat)
    (checkpoint : SnapshotCheckpoint) : Prop :=
  let taken := (run limits ⟨OrderedDict.empty, {}, false, 0, []⟩ before).1
  let final := taken.run limits after
  final.1.directory.readAfterSnapshotCheckpoint limits device checkpoint = some none ∨
    final.1.directory.readAfterSnapshotCheckpoint limits device checkpoint =
      some (some (final.2.map asRead))

/-- Every checkpoint of every history is exact, as long as the history after it
rotates safely. -/
theorem checkpoint_tail_exact (limits : Limits) (before after : List JournalOp) (device : Nat)
    (checkpoint : SnapshotCheckpoint)
    (taken : (run limits ⟨OrderedDict.empty, {}, false, 0, []⟩ before).1.directory.snapshotCheckpoint
      device = some checkpoint)
    (safe : (run limits ⟨OrderedDict.empty, {}, false, 0, []⟩ before).1.SafeRun limits checkpoint
      after) :
    TailExact limits before after device checkpoint := by
  have sound := run_sound ⟨OrderedDict.empty, {}, false, 0, []⟩ before (empty_sound limits)
  have follows := run_follows _ after safe (follows_checkpoint sound taken)
  rw [List.nil_append] at follows
  exact read_tracked follows.sound follows.live follows.tracks

/-! ## Histories on a small journal -/

theorem le_foldr_max (used : List Nat) : ∀ number ∈ used, number ≤ used.foldr max 0 := by
  induction used with
  | nil => simp
  | cons first rest ih =>
    intro number member
    obtain rfl | later := List.mem_cons.mp member
    · exact le_max_left _ _
    · exact le_trans (ih number later) (le_max_right _ _)

/-- Number one when it is free, and otherwise a number above all in use. -/
def reusing : InodeChoice where
  pick := fun used => if 1 ∈ used then used.foldr max 0 + 1 else 1
  unused := by
    intro used member
    by_cases taken : 1 ∈ used
    · rw [if_pos taken] at member
      have bound := le_foldr_max used _ member
      omega
    · rw [if_neg taken] at member
      exact taken member

def smallLimits : Limits := ⟨1000, 4300⟩

/-- A journal that rotates at every append. -/
def rotating (archiveCount : Nat) : JournalOp :=
  .open { maxBytes := 1, archiveCount := archiveCount } [] reusing 0

def appending (kind : Nat) : JournalOp := .append ⟨[kind], .dict [], 0⟩ reusing 0 0

/-- The checkpoint after the first record. -/
def firstCheckpoint : SnapshotCheckpoint := ⟨1, 0, 1, 65⟩

/-- Rotation within the archive limit keeps the tail. -/
theorem tail_exact_after_rotation :
    TailExact smallLimits [rotating 3, appending 97] [appending 98] 0 firstCheckpoint := by
  apply checkpoint_tail_exact
  · decide +kernel
  · refine ⟨fun line isOpen written rotates => ⟨?_, by decide +kernel⟩, trivial⟩
    intro number file found named
    have keys : (run smallLimits ⟨OrderedDict.empty, {}, false, 0, []⟩
        [rotating 3, appending 97]).1.directory.keys = [0] := by decide +kernel
    have listed := (OrderedDict.mem_keys _ number).mpr ⟨file, found⟩
    rw [keys, List.mem_singleton] at listed
    omega

theorem not_exact_of_fewer {before after : List JournalOp} {device : Nat}
    {checkpoint : SnapshotCheckpoint} {limits : Limits} (count : Nat)
    (read : (((run limits ⟨OrderedDict.empty, {}, false, 0, []⟩ before).1.run limits
      after).1.directory.readAfterSnapshotCheckpoint limits device checkpoint).map
        (Option.map List.length) = some (some count))
    (fewer : count < ((run limits ⟨OrderedDict.empty, {}, false, 0, []⟩ before).1.run limits
      after).2.length) : ¬ TailExact limits before after device checkpoint := by
  intro exactTail
  obtain nothing | records := exactTail
  · rw [nothing] at read
    cases read
  · rw [records, Option.map_some, Option.map_some, List.length_map, Option.some.injEq,
      Option.some.injEq] at read
    omega

/-- A restart with a lower archive count unlinks the record after the checkpoint and
keeps the older file; a rotation that unlinks the checkpoint's file gives its inode
number to a newer one. Either way records are missing from the answer. -/
theorem tail_loses_records :
    ((run smallLimits ⟨OrderedDict.empty, {}, false, 0, []⟩
        [rotating 3, appending 97]).1.directory.snapshotCheckpoint 0 = some firstCheckpoint ∧
      ¬ TailExact smallLimits [rotating 3, appending 97]
        [appending 98, appending 99, .close, rotating 1, appending 100] 0 firstCheckpoint) ∧
    ((run smallLimits ⟨OrderedDict.empty, {}, false, 0, []⟩
        [rotating 1, appending 97]).1.directory.snapshotCheckpoint 0 = some firstCheckpoint ∧
      ¬ TailExact smallLimits [rotating 1, appending 97]
        [appending 98, appending 99] 0 firstCheckpoint) := by
  refine ⟨⟨by decide +kernel, ?_⟩, by decide +kernel, ?_⟩
  · exact not_exact_of_fewer 2 (by decide +kernel) (by decide +kernel)
  · exact not_exact_of_fewer 0 (by decide +kernel) (by decide +kernel)

end RotatingJournal

end LightFee.Persistence
