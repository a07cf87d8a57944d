import LightFee.Library.DynValue
import LightFee.MarketData.RawChecksum

/-!
# Venue rules and payloads

Per-venue depth, tolerated sequence gap and checksum mode, and the parsers of
the two venues that sign their books. A parser that raises answers `none`. Wire
numbers are finite decimals; a level with an infinite number is rejected here,
as no exchange sends one.
-/

namespace LightFee.MarketData

inductive ChecksumMode where
  | crc32 | okxCrc32 | none
deriving DecidableEq, Repr

structure LocalL2VenueRules where
  venue : String
  defaultDepth : Int := 50
  checksumMode : ChecksumMode := .none
  maxSequenceGap : Int := 0
deriving DecidableEq, Repr

def LocalL2VenueRules.shouldVerifyChecksum (rules : LocalL2VenueRules) : Bool :=
  rules.checksumMode ≠ .none

/-- An unknown venue gets the default rules. -/
def getVenueRules (venue : String) : LocalL2VenueRules :=
  match venue with
  | "aster" => { venue := "aster", defaultDepth := 20 }
  | "okx" => { venue := "okx", checksumMode := .okxCrc32, maxSequenceGap := 2 }
  | "bybit" => { venue := "bybit", maxSequenceGap := 2 }
  | "bitget" => { venue := "bitget", checksumMode := .crc32, maxSequenceGap := 2 }
  | other => { venue := other }

/-! ## Payload levels -/

/-- `level[index]`. -/
def wireIndex (level : DynValue) (index : Nat) : Option DynValue :=
  match level with
  | .list items => items[index]?
  | .str text => (text.toList[index]?).map (fun c => .str c.toString)
  | _ => none

/-- The values that a loop over a payload field sees. -/
def wireLevels (field : DynValue) : Option (List DynValue) :=
  match field with
  | .list items => some items
  | .str text => some (text.toList.map (fun c => .str c.toString))
  | .dict entries => some (entries.map (fun entry => .str entry.1))
  | _ => none

/-- One execution level; a level without a positive quantity is left out. -/
def executionLevel (level : DynValue) : Option (Option PriceLevel) :=
  match (wireIndex level 1).bind DynValue.toFloat? with
  | some (.finite quantity) =>
    if 0 < quantity then
      match (wireIndex level 0).bind DynValue.toFloat? with
      | some (.finite price) => some (some ⟨price, quantity⟩)
      | _ => none
    else some none
  | some .notANumber => some none
  | _ => none

def executionSide : List DynValue → Option (List PriceLevel)
  | [] => some []
  | level :: rest =>
    match executionLevel level, executionSide rest with
    | some kept, some levels => some (kept.toList ++ levels)
    | _, _ => none

/-- The wire texts of every level, deleted ones included. -/
def textSide : List DynValue → Option (List (String × String))
  | [] => some []
  | level :: rest =>
    match wireIndex level 0, wireIndex level 1, textSide rest with
    | some price, some quantity, some texts => some ((price.text, quantity.text) :: texts)
    | _, _, _ => none

/-- The symbol argument, or the payload's instrument. -/
def instrument (payload : DynValue) (symbol : String) : Option String :=
  if symbol ≠ "" then some symbol
  else
    match payload.get "arg" (.dict []) with
    | .dict arguments =>
      match DynValue.get (.dict arguments) "instId" (.str "") with
      | .str name => some name
      | _ => none
    | _ => none

/-! ## Parsers -/

/-- The data record of a payload: the first of a list, or the record itself. -/
def dataEntry (data : DynValue) : Option DynValue :=
  match data with
  | .list (first :: _) => if first.isMapping then some first else none
  | .dict entries => if entries = [] then none else some (.dict entries)
  | _ => none

def okxEntry (payload : DynValue) : Option DynValue :=
  if payload.isMapping then dataEntry (payload.get "data" (.list [payload])) else none

/-- Bid and ask levels of an OKX entry. -/
def okxLevels (entry : DynValue) : Option (List DynValue × List DynValue) :=
  match wireLevels (entry.get "bids" (.list [])), wireLevels (entry.get "asks" (.list [])) with
  | some bids, some asks => some (bids, asks)
  | _, _ => none

def parseOkxL2Update (payload : DynValue) (symbol : String) (nowMs : Int)
    (venue : String := "okx") : Option LocalL2Update := do
  let entry ← okxEntry payload
  let (bidsRaw, asksRaw) ← okxLevels entry
  let bids ← executionSide bidsRaw
  let asks ← executionSide asksRaw
  let sequence ← (entry.get "seqId" (.int 0)).toInt?
  let previousSequence ←
    ((entry.get "prevSeqId" (payload.get "prevSeqId" (.int 0))).orElse (.int 0)).toInt?
  let checksum ← (entry.get "checksum" (.int 0)).toInt?
  let kind : LocalL2UpdateKind :=
    match payload.get "action" with
    | .null => .snapshot
    | .str "snapshot" => .snapshot
    | _ => .delta
  let symbol ← instrument payload symbol
  let timestamp ← (entry.get "ts" (.int nowMs)).toInt?
  let rawBids ← textSide bidsRaw
  let rawAsks ← textSide asksRaw
  return { venue := venue, symbol := symbol, bids := bids, asks := asks, sequence := sequence
           previousSequence := previousSequence
           previousSequencePresent := entry.hasKey "prevSeqId" || payload.hasKey "prevSeqId"
           checksum := checksum, rawBids := rawBids, rawAsks := rawAsks
           eventTimeMs := timestamp, receivedAtMs := nowMs, updateKind := kind }

/-- A REST answer keeps its levels in one record under short names. -/
def isBitgetRest (data : DynValue) : Bool := data.hasKey "a" || data.hasKey "b"

/-- Empty levels of a REST answer are skipped. -/
def bitgetRestLevels (data : DynValue) : Option (List DynValue × List DynValue) :=
  match wireLevels (data.get "b" (.list [])), wireLevels (data.get "a" (.list [])) with
  | some bids, some asks => some (bids.filter DynValue.truthy, asks.filter DynValue.truthy)
  | _, _ => none

def bitgetLevels (entry : DynValue) : Option (List DynValue × List DynValue) :=
  match wireLevels (entry.get "bids" (entry.get "b" (.list []))),
    wireLevels (entry.get "asks" (entry.get "a" (.list []))) with
  | some bids, some asks => some (bids, asks)
  | _, _ => none

def bitgetData (payload : DynValue) : Option DynValue :=
  if payload.isMapping then some ((payload.get "data" (.dict [])).orElse (.dict [])) else none

/-- The REST branch carries neither texts nor a checksum. -/
def parseBitgetRest (payload data : DynValue) (symbol : String) (nowMs : Int) (venue : String) :
    Option LocalL2Update := do
  let (bidsRaw, asksRaw) ← bitgetRestLevels data
  let bids ← executionSide bidsRaw
  let asks ← executionSide asksRaw
  let observedAtMs ←
    (((data.get "ts").orElse (payload.get "requestTime")).orElse (.int nowMs)).toInt?
  return { venue := venue, symbol := symbol, bids := bids, asks := asks, sequence := observedAtMs
           eventTimeMs := observedAtMs, receivedAtMs := nowMs, updateKind := .snapshot }

def parseBitgetWs (payload data : DynValue) (symbol : String) (nowMs : Int) (venue : String) :
    Option LocalL2Update := do
  let entry ← dataEntry data
  let (bidsRaw, asksRaw) ← bitgetLevels entry
  let bids ← executionSide bidsRaw
  let asks ← executionSide asksRaw
  let sequence ← ((entry.get "seq" (entry.get "seqId" (.int 0))).orElse (.int 0)).toInt?
  let previousSequence ←
    ((entry.get "pseq" (entry.get "prevSeqId" (.int 0))).orElse (.int 0)).toInt?
  let checksum ← ((entry.get "checksum" (.int 0)).orElse (.int 0)).toInt?
  let kind : LocalL2UpdateKind :=
    match payload.get "action" (.str "update") with
    | .str "snapshot" => .snapshot
    | _ => .delta
  let symbol ← instrument payload symbol
  let rawBids ← textSide bidsRaw
  let rawAsks ← textSide asksRaw
  let timestamp ← (entry.get "ts" (.int nowMs)).toInt?
  return { venue := venue, symbol := symbol, bids := bids, asks := asks, sequence := sequence
           previousSequence := previousSequence
           previousSequencePresent := entry.hasKey "pseq" || entry.hasKey "prevSeqId"
           checksum := checksum, rawBids := rawBids, rawAsks := rawAsks
           eventTimeMs := timestamp, receivedAtMs := nowMs, updateKind := kind }

def parseBitgetL2Update (payload : DynValue) (symbol : String) (nowMs : Int)
    (venue : String := "bitget") : Option LocalL2Update := do
  let data ← bitgetData payload
  if isBitgetRest data then parseBitgetRest payload data symbol nowMs venue
  else parseBitgetWs payload data symbol nowMs venue

end LightFee.MarketData
