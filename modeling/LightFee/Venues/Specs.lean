import LightFee.Library.TextSearch

/-!
# Venues and their symbols

A venue's wire symbol is converted to the canonical upper-case symbol. A venue
that is not known keeps the raw symbol.
-/

namespace LightFee.Venues

variable [TextCase]

inductive Venue where
  | binance | okx | bybit | bitget | gate | aster | hyperliquid
deriving DecidableEq, Repr

def Venue.value : Venue → String
  | .binance => "binance"
  | .okx => "okx"
  | .bybit => "bybit"
  | .bitget => "bitget"
  | .gate => "gate"
  | .aster => "aster"
  | .hyperliquid => "hyperliquid"

/-- The venue of a name; two other spellings of one are accepted. -/
def Venue.fromStr (name : String) : Option Venue :=
  let lowered := TextCase.lower (TextSearch.strip name)
  let value := if lowered = "gateio" ∨ lowered = "gate_io" then "gate" else lowered
  [Venue.binance, .okx, .bybit, .bitget, .gate, .aster, .hyperliquid].find? (fun venue =>
    venue.value == value)

/-- The venue's own symbol conversion. -/
def Venue.symbolFromVenue (venue : Venue) (symbol : String) : String :=
  match venue with
  | .okx => TextSearch.replaceAll "-SWAP" "" (TextSearch.replaceAll "-USDT-SWAP" "USDT" symbol)
  | .gate => TextSearch.replaceAll "_" "" (TextSearch.replaceAll "_USDT" "USDT" symbol)
  | .hyperliquid =>
    if TextSearch.occursIn "USDT" (TextCase.upper symbol) then symbol else symbol ++ "USDT"
  | _ => symbol

/-- The canonical symbol of a venue's wire symbol. -/
def canonicalSymbolFromVenue (venue symbol : String) : String :=
  let rawSymbol := TextCase.upper symbol
  if rawSymbol = "" then ""
  else
    match Venue.fromStr venue with
    | none => rawSymbol
    | some known =>
      let converted := known.symbolFromVenue rawSymbol
      TextCase.upper (if converted = "" then rawSymbol else converted)

/-- Venues that take reduce-only closes of any notional. -/
def Venue.reduceOnlyCloseExemptsMinNotional (venue : Venue) : Bool :=
  venue = .aster || venue = .binance || venue = .gate

end LightFee.Venues
