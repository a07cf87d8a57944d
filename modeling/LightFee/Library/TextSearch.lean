import LightFee.Library.DynValue

/-!
# Searching texts

Texts searched and rewritten character by character: stripping white space,
occurrence, replacement from left to right without overlap, and splitting at a
separator.
-/

namespace TextSearch

/-- `text.strip()`. -/
def strip (text : String) : String := String.ofList (DecimalText.strip text.toList)

/-- `needle in text`. -/
def occursIn (needle text : String) : Bool :=
  text.toList.tails.any (fun rest => needle.toList.isPrefixOf rest)

/-- `text.endswith(suffix)`. -/
def endsWith (suffix text : String) : Bool := suffix.toList.isSuffixOf text.toList

/-- `text.startswith(start)`. -/
def startsWith (start text : String) : Bool := start.toList.isPrefixOf text.toList

/-- Skip some characters, then replace every occurrence. -/
def replaceFrom (pattern fresh : List Char) : Nat → List Char → List Char
  | _, [] => []
  | skip + 1, _ :: rest => replaceFrom pattern fresh skip rest
  | 0, c :: rest =>
    if pattern.isPrefixOf (c :: rest) then fresh ++ replaceFrom pattern fresh (pattern.length - 1) rest
    else c :: replaceFrom pattern fresh 0 rest

/-- `text.replace(pattern, fresh)` for a pattern that is not empty. -/
def replaceAll (pattern fresh text : String) : String :=
  String.ofList (replaceFrom pattern.toList fresh.toList 0 text.toList)

example : replaceAll "-SWAP" "" "BTC-SWAP-SWAPPED" = "BTCPED" := by decide +kernel
example : occursIn "timed out" "request timed out" = true := by decide +kernel

/-- A character at the front of the first part. -/
def growFirst (c : Char) : List (List Char) → List (List Char)
  | [] => [[c]]
  | part :: parts => (c :: part) :: parts

/-- Skip some characters, then cut at every occurrence. -/
def splitFrom (pattern : List Char) : Nat → List Char → List (List Char)
  | _, [] => [[]]
  | skip + 1, _ :: rest => splitFrom pattern skip rest
  | 0, c :: rest =>
    if pattern.isPrefixOf (c :: rest) then [] :: splitFrom pattern (pattern.length - 1) rest
    else growFirst c (splitFrom pattern 0 rest)

/-- `text.split(separator)` for a separator that is not empty. -/
def split (separator text : String) : List String :=
  (splitFrom separator.toList 0 text.toList).map String.ofList

end TextSearch
