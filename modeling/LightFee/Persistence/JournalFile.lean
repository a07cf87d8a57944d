import LightFee.Library.DecimalText
import LightFee.Library.JsonTail
import LightFee.Library.Utf8Text

/-!
# The journal file

A journal without rotation is one file of JSON lines. Appending writes a
numbered record behind whatever the file holds; reading decodes the file, cuts
it into lines and skips the lines that do not load.

A line ends at a line feed or a carriage return. A pair of both gives one empty
line more, which is skipped like every blank line.
-/

namespace LightFee.Persistence

open JsonText

/-! ## Lines -/

def isLineBreak (c : Char) : Bool := c = '\n' || c = '\r'

/-- The lines that a break ends, and the text after the last break. -/
def splitLines : List Char → List (List Char) × List Char
  | [] => ([], [])
  | c :: rest =>
    if isLineBreak c then ([] :: (splitLines rest).1, (splitLines rest).2)
    else
      match splitLines rest with
      | ([], tail) => ([], c :: tail)
      | (first :: more, tail) => ((c :: first) :: more, tail)

/-- The lines that iterating over a text file gives. -/
def fileLines (text : List Char) : List (List Char) := (splitLines text).1 ++ [(splitLines text).2]

/-- `_parse_lines`: the records of the lines that load; nothing when a line raises
something other than a malformed text. -/
def parseLines (limits : Limits) : List (List Char) → Option (List JsonValue)
  | [] => some []
  | line :: rest =>
    if DecimalText.strip line = [] then parseLines limits rest
    else
      match loads limits (DecimalText.strip line) with
      | .ok record => (parseLines limits rest).map (record :: ·)
      | .error .malformed => parseLines limits rest
      | .error .raises => none

/-- `read_all`'s own loop over the lines. -/
def collectLines (limits : Limits) (records : List JsonValue) :
    List (List Char) → Option (List JsonValue)
  | [] => some records
  | line :: rest =>
    if DecimalText.strip line = [] then collectLines limits records rest
    else
      match loads limits (DecimalText.strip line) with
      | .ok record => collectLines limits (records ++ [record]) rest
      | .error .malformed => collectLines limits records rest
      | .error .raises => none

/-! ## The journal -/

structure Journal where
  seq : Int := 0
  runId : CodePoints
  content : List UInt8

/-- A journal opened on a file with this content, which appending leaves in place. -/
def Journal.openOn (runId : CodePoints) (content : List UInt8) : Journal where
  runId := runId
  content := content

/-- The code points of a field's name. -/
def fieldName (name : List Char) : CodePoints := name.map Char.toNat

structure AppendCall where
  kind : CodePoints
  payload : JsonValue
  tsMs : Int

def journalRecord (seq : Int) (runId : CodePoints) (call : AppendCall) : JsonValue :=
  .dict [(fieldName ['s', 'e', 'q'], .int seq),
    (fieldName ['r', 'u', 'n', '_', 'i', 'd'], .str runId),
    (fieldName ['t', 's', '_', 'm', 's'], .int call.tsMs),
    (fieldName ['k', 'i', 'n', 'd'], .str call.kind),
    (fieldName ['p', 'a', 'y', 'l', 'o', 'a', 'd'], call.payload)]

namespace Journal

/-- The record of a call that the journal numbers next. -/
def nextRecord (journal : Journal) (call : AppendCall) : JsonValue :=
  journalRecord (journal.seq + 1) journal.runId call

/-- The journal after a call, and the record it acknowledges. A call whose record
cannot be written raises after it took a number. -/
def append (limits : Limits) (journal : Journal) (call : AppendCall) :
    Journal × Option JsonValue :=
  match dumps limits (journal.nextRecord call) with
  | none => ({ journal with seq := journal.seq + 1 }, none)
  | some line =>
    ({ journal with
        seq := journal.seq + 1
        content := journal.content ++ Utf8Text.encode (line ++ ['\n']) },
      some (journal.nextRecord call))

/-- The journal after a list of calls, and the records of those that returned. -/
def appendAll (limits : Limits) : Journal → List AppendCall → Journal × List JsonValue
  | journal, [] => (journal, [])
  | journal, call :: rest =>
    let (appended, acknowledged) := journal.append limits call
    let (final, later) := appended.appendAll limits rest
    (final, acknowledged.toList ++ later)

/-- `read_all`, or nothing where it raises. -/
def readAll (limits : Limits) (journal : Journal) : Option (List JsonValue) :=
  (Utf8Text.decode journal.content).bind (fun text => collectLines limits [] (fileLines text))

/-- `stream_records`, read to its end. -/
def streamRecords (limits : Limits) (journal : Journal) : Option (List JsonValue) :=
  (Utf8Text.decode journal.content).bind (fun text => parseLines limits (fileLines text))

end Journal

end LightFee.Persistence
