import LightFee.Persistence.JournalReadBack
import Mathlib.Algebra.Order.Field.Rat

/-!
# The rotating journal

The live file and its archives stand in one directory: number zero is the live
file, archive one the newest archive. Rotation unlinks the archive at the limit,
moves every lower one up by one and the live file to archive one, unlinks
expired archives and creates a fresh live file. A reopened journal may have a
lower limit than the archives it finds, which then stay where they are.

A file keeps its inode number when it is renamed. A new file gets any number that
no linked file has, so the number of an unlinked file may come back.
-/

namespace LightFee.Persistence

open JsonText

structure StoredFile where
  inode : Nat
  content : List UInt8
  modifiedAt : ℚ

/-- The journal's files by archive number; the live file is number zero. -/
abbrev Directory := OrderedDict Nat StoredFile

/-- The inode number a new file gets, by the numbers in use. -/
structure InodeChoice where
  pick : List Nat → Nat
  unused : ∀ used, pick used ∉ used

/-- Settings as the constructor leaves them, none of them negative. -/
structure JournalSettings where
  maxBytes : Nat := 0
  archiveCount : Nat := 0
  retentionHours : Nat := 0

def JournalSettings.archiveLimit (settings : JournalSettings) : Nat := max settings.archiveCount 1

namespace Directory

/-- `source.replace(destination)`, when the source exists. -/
def rename (directory : Directory) (source destination : Nat) : Directory :=
  match directory.find? source with
  | none => directory
  | some file => (directory.erase source).insert destination file

def inodes (directory : Directory) : List Nat := directory.values.map StoredFile.inode

/-- The live file, created when it is missing. -/
def openLive (directory : Directory) (choice : InodeChoice) (now : ℚ) : Directory :=
  if directory.contains 0 then directory
  else directory.insert 0 ⟨choice.pick directory.inodes, [], now⟩

/-- The archive numbers from a limit down to one. -/
def numbersBelow : Nat → List Nat
  | 0 => []
  | limit + 1 => (limit + 1) :: numbersBelow limit

/-- The file is older than the settings retain. -/
def isExpired (settings : JournalSettings) (now : ℚ) (file : StoredFile) : Bool :=
  0 < settings.retentionHours && decide (file.modifiedAt < now - settings.retentionHours * 3600)

def pruneArchive (settings : JournalSettings) (now : ℚ) (directory : Directory) (number : Nat) :
    Directory :=
  match directory.find? number with
  | none => directory
  | some file => if isExpired settings now file then directory.erase number else directory

/-- `_prune_expired_archives`. -/
def pruneExpired (directory : Directory) (settings : JournalSettings) (now : ℚ) : Directory :=
  (numbersBelow settings.archiveLimit).reverse.foldl (pruneArchive settings now) directory

/-- The archives and the live file moved up by one; the archive at the limit is gone. -/
def shiftArchives (directory : Directory) (limit : Nat) : Directory :=
  let cleared := directory.erase limit
  let shifted := (numbersBelow (limit - 1)).foldl
    (fun current number => rename current number (number + 1)) cleared
  rename shifted 0 1

def rotate (directory : Directory) (settings : JournalSettings) (choice : InodeChoice) (now : ℚ) :
    Directory :=
  ((directory.shiftArchives settings.archiveLimit).pruneExpired settings now).openLive choice now

def liveSize (directory : Directory) : Nat :=
  ((directory.find? 0).map (fun file => file.content.length)).getD 0

/-- `_rotate_if_needed` finds that the next bytes do not fit. -/
def needsRotation (directory : Directory) (settings : JournalSettings) (upcoming : Nat) : Bool :=
  0 < settings.maxBytes && 0 < directory.liveSize &&
    decide (settings.maxBytes < directory.liveSize + upcoming)

/-- Bytes written to the live file. -/
def writeLive (directory : Directory) (bytes : List UInt8) (now : ℚ) : Directory :=
  match directory.find? 0 with
  | none => directory
  | some file => directory.insert 0 { file with content := file.content ++ bytes, modifiedAt := now }

end Directory

/-- A journal object on its directory. -/
structure RotatingJournal where
  directory : Directory
  settings : JournalSettings := {}
  isOpen : Bool := false
  seq : Int := 0
  runId : CodePoints := []

/-- One use of a journal. Times are those of the prune and of the write. -/
inductive JournalOp where
  /-- A journal made with these settings and opened. -/
  | open (settings : JournalSettings) (runId : CodePoints) (choice : InodeChoice) (now : ℚ)
  /-- The same journal opened once more: it goes on counting. -/
  | reopen (choice : InodeChoice) (now : ℚ)
  | append (call : AppendCall) (choice : InodeChoice) (now writtenAt : ℚ)
  | close

namespace RotatingJournal

def nextRecord (journal : RotatingJournal) (call : AppendCall) : JsonValue :=
  journalRecord (journal.seq + 1) journal.runId call

def lineBytes (line : List Char) : List UInt8 := Utf8Text.encode (line ++ ['\n'])

/-- The directory an append writes to. -/
def roomFor (journal : RotatingJournal) (bytes : List UInt8) (choice : InodeChoice) (now : ℚ) :
    Directory :=
  if journal.directory.needsRotation journal.settings bytes.length then
    journal.directory.rotate journal.settings choice now
  else journal.directory

/-- The journal after one use, and the record it acknowledges. -/
def apply (limits : Limits) (journal : RotatingJournal) :
    JournalOp → RotatingJournal × Option JsonValue
  | .open settings runId choice now =>
    ({ directory := (journal.directory.pruneExpired settings now).openLive choice now
       settings := settings
       isOpen := true
       seq := 0
       runId := runId }, none)
  | .reopen choice now =>
    ({ journal with
        directory :=
          (journal.directory.pruneExpired journal.settings now).openLive choice now
        isOpen := true }, none)
  | .append call choice now writtenAt =>
    if journal.isOpen then
      match dumps limits (journal.nextRecord call) with
      | none => ({ journal with seq := journal.seq + 1 }, none)
      | some line =>
        ({ journal with
            seq := journal.seq + 1
            directory :=
              (journal.roomFor (lineBytes line) choice now).writeLive (lineBytes line) writtenAt },
          some (journal.nextRecord call))
    else (journal, none)
  | .close => ({ journal with isOpen := false }, none)

/-- The journal after a history, and the records acknowledged in it. -/
def run (limits : Limits) : RotatingJournal → List JournalOp → RotatingJournal × List JsonValue
  | journal, [] => (journal, [])
  | journal, op :: rest =>
    let (applied, acknowledged) := journal.apply limits op
    let (final, later) := applied.run limits rest
    (final, acknowledged.toList ++ later)

end RotatingJournal

/-! ## Checkpoints -/

structure SnapshotCheckpoint where
  version : Int
  device : Nat
  inode : Nat
  offset : Int
deriving DecidableEq

/-- `snapshot_checkpoint`: the live file and its size, when there is one. -/
def Directory.snapshotCheckpoint (directory : Directory) (device : Nat) :
    Option SnapshotCheckpoint :=
  (directory.find? 0).map (fun file => ⟨1, device, file.inode, file.content.length⟩)

namespace Directory

/-- Archive numbers, highest first. -/
def archiveNumbers (directory : Directory) : List Nat :=
  (directory.keys.filter (fun number => decide (0 < number))).insertionSort (fun left right => right ≤ left)

/-- `_retained_paths_oldest_first`: nothing when an archive number is missing. -/
def retainedPathsOldestFirst (directory : Directory) : List Nat :=
  match directory.archiveNumbers with
  | [] => [0]
  | highest :: rest =>
    if highest :: rest = numbersBelow highest then (highest :: rest) ++ [0] else []

/-- The path of the checkpoint's file and the paths after it. -/
def findCheckpoint (directory : Directory) (device : Nat) (checkpoint : SnapshotCheckpoint) :
    List Nat → Option (StoredFile × List Nat)
  | [] => none
  | number :: rest =>
    match directory.find? number with
    | none => findCheckpoint directory device checkpoint rest
    | some file =>
      if device = checkpoint.device ∧ file.inode = checkpoint.inode then
        if (file.content.length : Int) < checkpoint.offset then none else some (file, rest)
      else findCheckpoint directory device checkpoint rest

/-- The records of a file's bytes, or nothing where reading raises. -/
def readRecords (limits : Limits) (bytes : List UInt8) : Option (List JsonValue) :=
  (Utf8Text.decode bytes).bind (fun text => parseLines limits (fileLines text))

/-- The records of later files; a missing one ends the read without an answer. -/
def readPaths (limits : Limits) (directory : Directory) :
    List Nat → Option (Option (List JsonValue))
  | [] => some (some [])
  | number :: rest =>
    match directory.find? number with
    | none => some none
    | some file =>
      (readRecords limits file.content).bind (fun records =>
        (readPaths limits directory rest).map (Option.map (records ++ ·)))

/-- `read_after_snapshot_checkpoint`: raising, no answer, or the records. -/
def readAfterSnapshotCheckpoint (limits : Limits) (directory : Directory) (device : Nat)
    (checkpoint : SnapshotCheckpoint) : Option (Option (List JsonValue)) :=
  if checkpoint.version ≠ 1 then some none
  else if checkpoint.offset < 0 then some none
  else
    match directory.findCheckpoint device checkpoint directory.retainedPathsOldestFirst with
    | none => some none
    | some (file, rest) =>
      (readRecords limits (file.content.drop checkpoint.offset.toNat)).bind (fun records =>
        (readPaths limits directory rest).map (Option.map (records ++ ·)))

end Directory

end LightFee.Persistence
