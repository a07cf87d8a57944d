import LightFee.MarketData.L2

/-!
# Checksums over the exchange's own texts

An exchange signs the first levels of its book as texts. The book therefore
keeps the wire texts beside the parsed numbers, merges deltas into them, and
recomputes the signature from the texts. A book without texts falls back to
formatting its numbers.

Wire numbers are finite decimals; a text that is not one makes its level
malformed, and malformed levels are skipped.
-/

namespace LightFee.MarketData

/-! ## The texts -/

/-- Price and quantity of a wire level, kept beside its texts. -/
def rawChecksumLevel (level : String × String) : Option RawChecksumLevel :=
  match readsPrice : DecimalText.decimal level.1, readsQuantity : DecimalText.decimal level.2 with
  | some price, some quantity =>
    if 0 < price then some ⟨price, quantity, level.1, level.2, readsPrice, readsQuantity⟩ else none
  | _, _ => none

/-- Sort texts as the execution side with the same name is sorted. -/
def sortRaw (side : BookSide) (levels : List RawChecksumLevel) : List RawChecksumLevel :=
  match side with
  | .bid => Ladder.sort RawChecksumLevel.price (· ≥ ·) levels
  | .ask => Ladder.sort RawChecksumLevel.price (· ≤ ·) levels

def sanitizeRawChecksumSide (levels : List (String × String)) (side : BookSide) (maxDepth : Nat) :
    List RawChecksumLevel :=
  (sortRaw side ((levels.filterMap rawChecksumLevel).filter (fun item =>
    decide (0 < item.quantity)))).take maxDepth

def mergeRawChecksumSide (existing : List RawChecksumLevel) (incoming : List (String × String))
    (side : BookSide) (maxDepth : Nat) : List RawChecksumLevel :=
  let known : OrderedDict ℚ RawChecksumLevel :=
    existing.foldl (fun byPrice level => byPrice.insert level.price level) .empty
  let byPrice := incoming.foldl (fun byPrice rawLevel =>
    match rawChecksumLevel rawLevel with
    | none => byPrice
    | some parsed =>
      if parsed.quantity ≤ 0 then byPrice.erase parsed.price
      else byPrice.insert parsed.price parsed) known
  (sortRaw side byPrice.values).take maxDepth

/-- A snapshot replaces both sides of texts; anything else merges into them. -/
def LocalL2Book.applyRawChecksumUpdate (book : LocalL2Book) (bids asks : List (String × String))
    (updateKind : LocalL2UpdateKind) (maxDepth : Nat := 200) : LocalL2Book :=
  let depth := max 1 maxDepth
  if updateKind = .snapshot then
    { book with
      rawChecksumBids := sanitizeRawChecksumSide bids .bid depth
      rawChecksumAsks := sanitizeRawChecksumSide asks .ask depth }
  else
    { book with
      rawChecksumBids := mergeRawChecksumSide book.rawChecksumBids bids .bid depth
      rawChecksumAsks := mergeRawChecksumSide book.rawChecksumAsks asks .ask depth }

/-! ## The signature -/

/-- One byte of the reflected CRC-32 with polynomial `0xEDB88320`. -/
def crc32Byte (crc : UInt32) (byte : UInt8) : UInt32 :=
  (List.range 8).foldl (fun current _ =>
    if current &&& 1 = 1 then (current >>> 1) ^^^ 0xEDB88320 else current >>> 1)
    (crc ^^^ byte.toUInt32)

/-- `binascii.crc32`. -/
def crc32 (bytes : List UInt8) : UInt32 := (bytes.foldl crc32Byte 0xFFFFFFFF) ^^^ 0xFFFFFFFF

example : crc32 [49, 50, 51, 52, 53, 54, 55, 56, 57] = 0xCBF43926 := by decide +kernel

/-- The signature as a signed 32-bit number. -/
def signedCrc32 (parts : List String) : Int :=
  let checksum : Int := (crc32 (":".intercalate parts).toUTF8.data.toList).toNat
  if 2 ^ 31 ≤ checksum then checksum - 2 ^ 32 else checksum

/-- The first 25 levels of both sides, bid before ask at each rank. -/
def interleaveTop {α : Type} (bids asks : List α) (part : α → List String) : List String :=
  (List.range 25).flatMap (fun idx =>
    (bids[idx]?.map part).getD [] ++ (asks[idx]?.map part).getD [])

def LocalL2Book.computeRawChecksum (book : LocalL2Book) : Int :=
  if book.rawChecksumBids = [] ∨ book.rawChecksumAsks = [] then 0
  else signedCrc32 (interleaveTop book.rawChecksumBids book.rawChecksumAsks (fun level =>
    [level.priceText ++ ":" ++ level.quantityText]))

/-- Millionths of a non-negative value, ties to even. -/
def millionths (value : ℚ) : Nat :=
  let numerator := value.num.natAbs * 10 ^ 6
  let floor := numerator / value.den
  let rest := 2 * (numerator % value.den)
  if rest < value.den ∨ (rest = value.den ∧ floor % 2 = 0) then floor else floor + 1

/-- A whole number is printed as such; any other value with at most six decimals
and no trailing zeros. -/
def checksumNumber (value : ℚ) : String :=
  if value.den = 1 then toString value.num
  else
    let scaled := millionths value
    let decimals := (toString (10 ^ 6 + scaled % 10 ^ 6)).toList.drop 1
    let significant := (decimals.reverse.dropWhile (· == '0')).reverse
    (if value < 0 then "-" else "") ++ toString (scaled / 10 ^ 6) ++
      (if significant = [] then "" else "." ++ String.ofList significant)

def LocalL2Book.computeChecksum (book : LocalL2Book) : Int :=
  if book.bids = [] ∨ book.asks = [] then 0
  else signedCrc32 (interleaveTop book.bids book.asks (fun level =>
    [checksumNumber level.price, checksumNumber level.quantity]))

/-- A mismatch between two non-zero signatures is a fault. -/
def checksumVerdict (book : LocalL2Book) (actual expected nowMs : Int) : LocalL2UpdateResult :=
  if actual ≠ 0 ∧ expected ≠ 0 ∧ actual ≠ expected then
    let detail := FaultReason.checksumMismatch expected actual
    { applied := true
      events := [makeEvent book .checksumMismatch nowMs book.sequence (some detail)]
      faultReason := some detail }
  else { applied := true }

def LocalL2Book.verifyRawChecksum (book : LocalL2Book) (expected nowMs : Int) :
    LocalL2UpdateResult :=
  checksumVerdict book book.computeRawChecksum expected nowMs

def LocalL2Book.verifyChecksum (book : LocalL2Book) (expected nowMs : Int) : LocalL2UpdateResult :=
  checksumVerdict book book.computeChecksum expected nowMs

/-- Both books empty their texts after a mismatch. -/
def LocalL2Book.dropRawChecksum (book : LocalL2Book) : LocalL2Book :=
  { book with rawChecksumBids := [], rawChecksumAsks := [], pendingSnapshotBridge := false }

end LightFee.MarketData
