import LightFee.Library.TextWindow
import LightFee.Persistence.JournalFile

/-!
# Backfilling a projection from the journal

A backfill reads the journal from the number after its cursor, hands each record
to a row writer and moves the cursor to the number of each record that was
accepted. An index of byte offsets spares it the lines before that number, and
without a target it ends at the number of the file's last line.

The file is a text, which may grow between calls. Numbers start again with every
process that writes to it.
-/

namespace LightFee.Persistence

open JsonText TextWindow

/-! ## Reading numbered records -/

/-- `record.get("seq", 0)` as the number it is compared as. `append` numbers with integers, and
only these are modelled: the code compares a float too, and `int()` reads a float or a text, so
results hold of it where every record that loads is numbered by an integer. -/
def seqOf : JsonValue → Option Int
  | .dict entries =>
    match entries.lookup (fieldName ['s', 'e', 'q']) with
    | none => some 0
    | some (.int seq) => some seq
    | some (.bool value) => some (if value then 1 else 0)
    | some _ => none
  | _ => none

inductive LineRead where
  | skipped
  | raised
  | numbered (seq : Int) (record : JsonValue)

/-- What a line of the file gives a reader of numbered records. -/
def readLine (limits : Limits) (line : List Char) : LineRead :=
  if DecimalText.strip line = [] then .skipped
  else
    match loads limits (DecimalText.strip line) with
    | .ok record =>
      match seqOf record with
      | some seq => .numbered seq record
      | none => .raised
    | .error .malformed => .skipped
    | .error .raises => .raised

/-- `Journal.max_seq`: the number on the last line, as far as the last 4096 bytes show
it; nothing where reading it raises. As for `seqOf`, that number is an integer. -/
def maxSeq (limits : Limits) (text : List Char) : Option Int :=
  let last := DecimalText.strip (lastLine (DecimalText.strip (windowText 4096 text)))
  if last = [] then some 0
  else
    match loads limits last with
    | .ok record => seqOf record
    | .error .malformed => some 0
    | .error .raises => none

/-! ## The index -/

/-- The byte offset at which the line of a number starts. -/
structure JournalIndex where
  offsets : Int → Option Nat := fun _ => none

def JournalIndex.offsetFor (index : JournalIndex) (seq : Int) : Option Nat := index.offsets seq

/-- The white space of a byte string. -/
def isByteSpace (c : Char) : Bool := c = ' ' || (9 ≤ c.toNat && c.toNat ≤ 13)

/-- A line stripped before it was decoded. -/
def stripBytes (line : List Char) : List Char :=
  ((line.dropWhile isByteSpace).reverse.dropWhile isByteSpace).reverse

/-- Lines with the offsets they start at, each ended by a line feed. -/
def placedLines : Nat → List (List Char) → List (Nat × List Char)
  | _, [] => []
  | offset, line :: rest => (offset, line) :: placedLines (offset + textSize (line ++ ['\n'])) rest

/-- The lines of a file read in bytes. -/
def byteLines (text : List Char) : List (Nat × List Char) := placedLines 0 (text.splitOn '\n')

/-- The number that the index files a record under; nothing at all where asking for it
raises. -/
def indexedSeq : JsonValue → Option (Option Int)
  | .dict entries =>
    match entries.lookup (fieldName ['s', 'e', 'q']) with
    | some (.int seq) => some (if 0 < seq then some seq else none)
    | some (.bool value) => some (if value then some 1 else none)
    | _ => some none
  | _ => none

/-- The loop of `JournalIndex.build`: the index and the number of records filed, which is
not returned where the loop raises. The code parses bytes and guesses their encoding from a byte
order mark or a NUL at the front of a line; a journal's lines have neither there. -/
def indexLines (limits : Limits) (index : JournalIndex) (count : Nat) :
    List (Nat × List Char) → JournalIndex × Option Nat
  | [] => (index, some count)
  | (offset, line) :: rest =>
    if stripBytes line = [] then indexLines limits index count rest
    else
      match loads limits (stripBytes line) with
      | .ok record =>
        match indexedSeq record with
        | none => (index, none)
        | some none => indexLines limits index count rest
        | some (some seq) =>
          indexLines limits ⟨Function.update index.offsets seq (some offset)⟩ (count + 1) rest
      | .error .malformed => indexLines limits index count rest
      | .error .raises => (index, none)

/-- `JournalIndex.build`. -/
def JournalIndex.build (limits : Limits) (text : List Char) : JournalIndex × Option Nat :=
  indexLines limits {} 0 (byteLines text)

/-- `Journal.stream_from` before it compares numbers: the lines it reads. -/
def streamLines (index : JournalIndex) (text : List Char) (startSeq : Int) : List (List Char) :=
  match index.offsetFor startSeq with
  | some offset => fileLines (seekText offset text)
  | none => fileLines text

/-! ## Backfill -/

/-- What the row writer does with a record. -/
inductive WriterAnswer where
  | accepted
  | refused
  | raised
deriving DecidableEq

structure BackfillResult where
  recordsProcessed : Nat := 0
  recordsSkipped : Nat := 0
  errors : Nat := 0
  startedSeq : Int := 0
  endedSeq : Int := 0

/-- A call on its way: the cursor, the records accepted in any call, and the result. -/
structure BackfillPass where
  lastProjectedSeq : Int
  accepted : List JsonValue
  result : BackfillResult
  raised : Bool := false

namespace BackfillPass

/-- How many records this call has handed to the writer. -/
def asked (pass : BackfillPass) : Nat := pass.result.recordsProcessed + pass.result.recordsSkipped

def accept (pass : BackfillPass) (seq : Int) (record : JsonValue) : BackfillPass :=
  { pass with
    lastProjectedSeq := seq
    accepted := pass.accepted ++ [record]
    result := { pass.result with recordsProcessed := pass.result.recordsProcessed + 1 } }

def refuse (pass : BackfillPass) : BackfillPass :=
  { pass with result := { pass.result with recordsSkipped := pass.result.recordsSkipped + 1 } }

def fail (pass : BackfillPass) : BackfillPass :=
  { pass with result := { pass.result with errors := pass.result.errors + 1 } }

end BackfillPass

/-- The loop of `backfill`, whose writer gives its answers in the order it is asked. -/
def projectLines (limits : Limits) (startSeq endSeq : Int) (answer : Nat → WriterAnswer) :
    BackfillPass → List (List Char) → BackfillPass
  | pass, [] => pass
  | pass, line :: rest =>
    match readLine limits line with
    | .skipped => projectLines limits startSeq endSeq answer pass rest
    | .raised => { pass with raised := true }
    | .numbered seq record =>
      if seq < startSeq then projectLines limits startSeq endSeq answer pass rest
      else if endSeq < seq then pass
      else
        match answer pass.asked with
        | .accepted => projectLines limits startSeq endSeq answer (pass.accept seq record) rest
        | .refused => projectLines limits startSeq endSeq answer pass.refuse rest
        -- the first error ends the call, so that a retry resumes here
        | .raised => pass.fail

/-- The journal's file, the index, the cursor, and what the writer has accepted. -/
structure ProjectionBackfill where
  text : List Char := []
  index : JournalIndex := {}
  cursorSeq : Int := 0
  accepted : List JsonValue := []

namespace ProjectionBackfill

/-- The loop of a call that ends at a number. -/
def pass (limits : Limits) (state : ProjectionBackfill) (endSeq : Int)
    (answer : Nat → WriterAnswer) : BackfillPass :=
  projectLines limits (state.cursorSeq + 1) endSeq answer
    { lastProjectedSeq := state.cursorSeq
      accepted := state.accepted
      result := { startedSeq := state.cursorSeq + 1, endedSeq := endSeq } }
    (streamLines state.index state.text (state.cursorSeq + 1))

/-- `backfill`, and its result where it returns. -/
def backfill (limits : Limits) (state : ProjectionBackfill) (targetSeq : Option Int)
    (answer : Nat → WriterAnswer) : ProjectionBackfill × Option BackfillResult :=
  match targetSeq.or (maxSeq limits state.text) with
  | none => (state, none)
  | some endSeq =>
    if endSeq < state.cursorSeq + 1 then
      (state, some { startedSeq := state.cursorSeq + 1, endedSeq := endSeq })
    else
      let pass := state.pass limits endSeq answer
      ({ state with cursorSeq := pass.lastProjectedSeq, accepted := pass.accepted },
        if pass.raised then none else some pass.result)

end ProjectionBackfill

/-- What happens to a journal and its projection. -/
inductive BackfillOp where
  | grow (more : List Char)
  | buildIndex
  | backfill (targetSeq : Option Int) (answer : Nat → WriterAnswer)

namespace ProjectionBackfill

def apply (limits : Limits) (state : ProjectionBackfill) : BackfillOp → ProjectionBackfill
  | .grow more => { state with text := state.text ++ more }
  | .buildIndex => { state with index := (JournalIndex.build limits state.text).1 }
  | .backfill targetSeq answer => (state.backfill limits targetSeq answer).1

end ProjectionBackfill

/-! ## What the cursor promises -/

/-- The records among some lines, with their numbers. -/
def numberedLines (limits : Limits) (lines : List (List Char)) : List (Int × JsonValue) :=
  lines.filterMap (fun line =>
    match readLine limits line with
    | .numbered seq record => some (seq, record)
    | _ => none)

/-- The journal's records, with their numbers. -/
def journalRecords (limits : Limits) (text : List Char) : List (Int × JsonValue) :=
  numberedLines limits (fileLines text)

namespace ProjectionBackfill

/-- Every record up to the cursor has been accepted. -/
def NothingPassedOver (limits : Limits) (state : ProjectionBackfill) : Prop :=
  ∀ seq record, (seq, record) ∈ journalRecords limits state.text →
    seq ≤ state.cursorSeq → record ∈ state.accepted

def AllAccepted (limits : Limits) (state : ProjectionBackfill) : Prop :=
  ∀ seq record, (seq, record) ∈ journalRecords limits state.text → record ∈ state.accepted

/-- After each backfill of a run nothing is passed over, and nothing is left by one
without a target whose writer accepts everything. -/
def KeepsPromise (limits : Limits) (state : ProjectionBackfill) : List BackfillOp → Prop
  | [] => True
  | .backfill targetSeq answer :: rest =>
    let after := state.apply limits (.backfill targetSeq answer)
    after.NothingPassedOver limits ∧
      (targetSeq = none → (∀ asked, answer asked = .accepted) → after.AllAccepted limits) ∧
      after.KeepsPromise limits rest
  | op :: rest => (state.apply limits op).KeepsPromise limits rest

end ProjectionBackfill

end LightFee.Persistence
