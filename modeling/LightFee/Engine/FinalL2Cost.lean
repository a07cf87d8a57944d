import LightFee.Engine.EntryTracking
import LightFee.Engine.FinalL2Slippage
import LightFee.Venues.Specs
import Mathlib.Tactic.Linarith
import Mathlib.Tactic.Positivity

/-!
# The final price of a candidate

Before a candidate may enter, its economics are computed again from the two books of its own
session: what each leg pays for liquidity, the fees of the roles, and the route with one maker leg
that is worth most. What the candidate says about itself is written again each time, so pricing a
candidate a second time changes nothing.

The account's fees are numbers; a schedule that is not is replaced by the configured one before.
-/

namespace LightFee.Engine

open LightFee.MarketData LightFee.Venues

/-! ## Routes -/

inductive MakerLeg where
  | long
  | short
deriving DecidableEq

def MakerLeg.value : MakerLeg → String
  | .long => "long"
  | .short => "short"

/-- A route without a maker leg has no name. -/
def makerLegText : Option MakerLeg → String
  | some leg => leg.value
  | none => ""

structure FinalL2Config where
  live : Bool
  makerLegDefault : String
  entryExitReserveBps : ℚ
  capitalBufferBps : ℚ
  executionBufferBps : ℚ
  minExpectedEdgeBps : ℚ
  minWorstCaseEdgeBps : ℚ
  maxEntrySlippageBps : ℚ
  smallTestMaxEntryNotionalQuote : ℚ
  smallTestExpectedEdgeRelaxationBps : ℚ
  smallTestWorstCaseEdgeRelaxationBps : ℚ
  smallTestMaxEntrySlippageRelaxationBps : ℚ

structure AccountFees where
  makerFeeBps : ℚ
  takerFeeBps : ℚ

/-- What a route is priced from. -/
structure FinalL2Inputs where
  fundingEdgeBps : ℚ
  longBid : ℚ
  longAsk : ℚ
  shortBid : ℚ
  shortAsk : ℚ
  longBuySlippageBps : ℚ
  longSellSlippageBps : ℚ
  shortBuySlippageBps : ℚ
  shortSellSlippageBps : ℚ
  longFees : AccountFees
  shortFees : AccountFees

structure FinalL2Cost where
  entryMakerLeg : Option MakerLeg
  exitMakerLeg : Option MakerLeg
  entryCrossBps : ℚ
  longEntrySlippageBps : ℚ
  shortEntrySlippageBps : ℚ
  entryFeeBps : ℚ
  entrySlippageBps : ℚ
  longExitSlippageBps : ℚ
  shortExitSlippageBps : ℚ
  exitFeeBps : ℚ
  exitSlippageBps : ℚ
  expectedEdgeBps : ℚ

namespace FinalL2Inputs

def referenceMid (inputs : FinalL2Inputs) : ℚ := (inputs.longAsk + inputs.shortBid) / 2

/-- The cross of two taker legs. -/
def rawCross (inputs : FinalL2Inputs) : ℚ :=
  (inputs.shortBid - inputs.longAsk) / inputs.referenceMid * 10000

/-- `entry_route`: the cross, the fee and the slippage. -/
def entryRoute (inputs : FinalL2Inputs) : MakerLeg → ℚ × ℚ × ℚ
  | .long =>
    (inputs.rawCross + (inputs.longAsk - inputs.longBid) / inputs.referenceMid * 10000,
      inputs.longFees.makerFeeBps + inputs.shortFees.takerFeeBps, inputs.shortSellSlippageBps)
  | .short =>
    (inputs.rawCross + (inputs.shortAsk - inputs.shortBid) / inputs.referenceMid * 10000,
      inputs.longFees.takerFeeBps + inputs.shortFees.makerFeeBps, inputs.longBuySlippageBps)

/-- `exit_route`: the fee, the slippage, and the slippage of each leg. -/
def exitRoute (inputs : FinalL2Inputs) : MakerLeg → ℚ × ℚ × ℚ × ℚ
  | .long =>
    (inputs.longFees.makerFeeBps + inputs.shortFees.takerFeeBps, inputs.shortBuySlippageBps, 0,
      inputs.shortBuySlippageBps)
  | .short =>
    (inputs.longFees.takerFeeBps + inputs.shortFees.makerFeeBps, inputs.longSellSlippageBps,
      inputs.longSellSlippageBps, 0)

/-- The leg that is passive on exit: the taker leg's slippage decides, and not the fees. -/
def exitMakerLeg (inputs : FinalL2Inputs) (tieMakerLeg : MakerLeg) : MakerLeg :=
  if (inputs.exitRoute .long).2.1 < (inputs.exitRoute .short).2.1 then .long
  else if (inputs.exitRoute .short).2.1 < (inputs.exitRoute .long).2.1 then .short
  else tieMakerLeg

/-- The price of one entry route. -/
def routeCost (inputs : FinalL2Inputs) (config : FinalL2Config) (tieMakerLeg makerLeg : MakerLeg) :
    FinalL2Cost :=
  let entry := inputs.entryRoute makerLeg
  let exitLeg := inputs.exitMakerLeg tieMakerLeg
  let exit := inputs.exitRoute exitLeg
  { entryMakerLeg := some makerLeg
    exitMakerLeg := some exitLeg
    entryCrossBps := entry.1
    longEntrySlippageBps := if makerLeg = .long then 0 else inputs.longBuySlippageBps
    shortEntrySlippageBps := if makerLeg = .long then inputs.shortSellSlippageBps else 0
    entryFeeBps := entry.2.1
    entrySlippageBps := entry.2.2
    longExitSlippageBps := exit.2.2.1
    shortExitSlippageBps := exit.2.2.2
    exitFeeBps := exit.1
    exitSlippageBps := exit.2.1
    expectedEdgeBps := inputs.fundingEdgeBps + entry.1 - entry.2.1 - entry.2.2 - exit.1 - exit.2.1 -
      config.entryExitReserveBps - config.capitalBufferBps }

/-- `price_final_l2_cost`. -/
def priceFinalL2Cost (inputs : FinalL2Inputs) (config : FinalL2Config) (tieMakerLeg : MakerLeg)
    (forcedEntryMakerLeg : Option MakerLeg) : Except String FinalL2Cost :=
  if inputs.referenceMid ≤ 0 then .error "invalid_l2_reference_mid"
  else
    match forcedEntryMakerLeg with
    | some makerLeg => .ok (inputs.routeCost config tieMakerLeg makerLeg)
    | none =>
      let longRoute := inputs.routeCost config tieMakerLeg .long
      let shortRoute := inputs.routeCost config tieMakerLeg .short
      if shortRoute.expectedEdgeBps < longRoute.expectedEdgeBps then .ok longRoute
      else if longRoute.expectedEdgeBps < shortRoute.expectedEdgeBps then .ok shortRoute
      else .ok (if tieMakerLeg = .short then shortRoute else longRoute)

/-- The price of taking both legs, in and out. -/
def dualTakerCost (inputs : FinalL2Inputs) (config : FinalL2Config) : FinalL2Cost :=
  let fee := inputs.longFees.takerFeeBps + inputs.shortFees.takerFeeBps
  let entrySlippage := inputs.longBuySlippageBps + inputs.shortSellSlippageBps
  let exitSlippage := inputs.longSellSlippageBps + inputs.shortBuySlippageBps
  { entryMakerLeg := none
    exitMakerLeg := none
    entryCrossBps := inputs.rawCross
    longEntrySlippageBps := inputs.longBuySlippageBps
    shortEntrySlippageBps := inputs.shortSellSlippageBps
    entryFeeBps := fee
    entrySlippageBps := entrySlippage
    longExitSlippageBps := inputs.longSellSlippageBps
    shortExitSlippageBps := inputs.shortBuySlippageBps
    exitFeeBps := fee
    exitSlippageBps := exitSlippage
    expectedEdgeBps := inputs.fundingEdgeBps + inputs.rawCross - fee - entrySlippage - fee -
      exitSlippage - config.entryExitReserveBps - config.capitalBufferBps }

end FinalL2Inputs

/-! ## The best route -/

namespace FinalL2Inputs

variable (inputs : FinalL2Inputs) (config : FinalL2Config) (tieMakerLeg : MakerLeg)

/-- A route that is not forced is worth as much as each forced one. -/
theorem priced_route_best (priceable : 0 < inputs.referenceMid) :
    ∃ best, inputs.priceFinalL2Cost config tieMakerLeg none =
        inputs.priceFinalL2Cost config tieMakerLeg (some best) ∧
      ∀ makerLeg, (inputs.routeCost config tieMakerLeg makerLeg).expectedEdgeBps ≤
        (inputs.routeCost config tieMakerLeg best).expectedEdgeBps := by
  simp only [priceFinalL2Cost, if_neg (not_le.mpr priceable)]
  split_ifs with longBetter shortBetter tie
  · refine ⟨.long, rfl, fun makerLeg => ?_⟩
    cases makerLeg with
    | long => exact le_refl _
    | short => exact longBetter.le
  · refine ⟨.short, rfl, fun makerLeg => ?_⟩
    cases makerLeg with
    | long => exact shortBetter.le
    | short => exact le_refl _
  · refine ⟨.short, rfl, fun makerLeg => ?_⟩
    cases makerLeg with
    | long => exact not_lt.mp longBetter
    | short => exact le_refl _
  · refine ⟨.long, rfl, fun makerLeg => ?_⟩
    cases makerLeg with
    | long => exact le_refl _
    | short => exact not_lt.mp shortBetter

/-- What the prices of two books and a fee schedule are like. -/
structure Regular : Prop where
  longSpread : inputs.longBid ≤ inputs.longAsk
  shortSpread : inputs.shortBid ≤ inputs.shortAsk
  longFee : inputs.longFees.makerFeeBps ≤ inputs.longFees.takerFeeBps
  shortFee : inputs.shortFees.makerFeeBps ≤ inputs.shortFees.takerFeeBps
  longBuy : 0 ≤ inputs.longBuySlippageBps
  longSell : 0 ≤ inputs.longSellSlippageBps
  shortBuy : 0 ≤ inputs.shortBuySlippageBps
  shortSell : 0 ≤ inputs.shortSellSlippageBps

variable {inputs}

/-- An exit with one maker leg costs no more than one that takes both. -/
theorem exit_cheaper (regular : inputs.Regular) (makerLeg : MakerLeg) :
    (inputs.exitRoute makerLeg).1 + (inputs.exitRoute makerLeg).2.1 ≤
      inputs.longFees.takerFeeBps + inputs.shortFees.takerFeeBps +
        (inputs.longSellSlippageBps + inputs.shortBuySlippageBps) := by
  have longFee := regular.longFee
  have shortFee := regular.shortFee
  have longSell := regular.longSell
  have shortBuy := regular.shortBuy
  cases makerLeg with
  | long =>
    dsimp only [exitRoute]
    linarith
  | short =>
    dsimp only [exitRoute]
    linarith

/-- Entering with one maker leg, whichever it is, is worth no less than taking both. -/
theorem maker_route_dominates (regular : inputs.Regular) (priceable : 0 < inputs.referenceMid)
    (makerLeg : MakerLeg) :
    (inputs.dualTakerCost config).expectedEdgeBps ≤
      (inputs.routeCost config tieMakerLeg makerLeg).expectedEdgeBps := by
  have exit := exit_cheaper regular (inputs.exitMakerLeg tieMakerLeg)
  have longFee := regular.longFee
  have shortFee := regular.shortFee
  have longBuy := regular.longBuy
  have shortSell := regular.shortSell
  have longSpread : 0 ≤ (inputs.longAsk - inputs.longBid) / inputs.referenceMid * 10000 :=
    mul_nonneg (div_nonneg (sub_nonneg.mpr regular.longSpread) priceable.le) (by norm_num)
  have shortSpread : 0 ≤ (inputs.shortAsk - inputs.shortBid) / inputs.referenceMid * 10000 :=
    mul_nonneg (div_nonneg (sub_nonneg.mpr regular.shortSpread) priceable.le) (by norm_num)
  cases makerLeg with
  | long =>
    dsimp only [dualTakerCost, routeCost, entryRoute]
    linarith
  | short =>
    dsimp only [dualTakerCost, routeCost, entryRoute]
    linarith

end FinalL2Inputs

def plainConfig : FinalL2Config where
  live := true
  makerLegDefault := "buy"
  entryExitReserveBps := 1
  capitalBufferBps := 1
  executionBufferBps := 2
  minExpectedEdgeBps := 10
  minWorstCaseEdgeBps := 5
  maxEntrySlippageBps := 3
  smallTestMaxEntryNotionalQuote := 0
  smallTestExpectedEdgeRelaxationBps := 0
  smallTestWorstCaseEdgeRelaxationBps := 0
  smallTestMaxEntrySlippageRelaxationBps := 0

def plainFees : AccountFees := ⟨2, 5⟩

def plainInputs : FinalL2Inputs where
  fundingEdgeBps := 100
  longBid := 99
  longAsk := 101
  shortBid := 99
  shortAsk := 102
  longBuySlippageBps := 1
  longSellSlippageBps := 2
  shortBuySlippageBps := 3
  shortSellSlippageBps := 4
  longFees := plainFees
  shortFees := plainFees

theorem maker_route_dominates_long : (plainInputs.dualTakerCost plainConfig).expectedEdgeBps ≤
    (plainInputs.routeCost plainConfig .short .long).expectedEdgeBps :=
  FinalL2Inputs.maker_route_dominates plainConfig .short
    ⟨by decide +kernel, by decide +kernel, by decide +kernel, by decide +kernel, by decide +kernel,
      by decide +kernel, by decide +kernel, by decide +kernel⟩ (by decide +kernel) .long

/-! ## Candidates -/

/-- A candidate, with the fields that its selection and its pricing read or write. -/
structure CandidateInput where
  longVenue : String
  shortVenue : String
  symbol : String
  pairId : String := ""
  fundingEdgeBps : ExactFloat := .finite 0
  transferBiasBps : ExactFloat := .finite 0
  entryNotionalQuote : ExactFloat := .finite 0
  expectedEdgeBps : ExactFloat := .finite 0
  worstCaseEdgeBps : ExactFloat := .finite 0
  rankingEdgeBps : ExactFloat := .finite 0
  entryCrossBps : ExactFloat := .finite 0
  longEntrySlippageBps : ExactFloat := .finite 0
  shortEntrySlippageBps : ExactFloat := .finite 0
  feeBps : ExactFloat := .finite 0
  entrySlippageBps : ExactFloat := .finite 0
  longExitSlippageBps : ExactFloat := .finite 0
  shortExitSlippageBps : ExactFloat := .finite 0
  exitFeeBps : ExactFloat := .finite 0
  exitSlippageBps : ExactFloat := .finite 0
  entryMakerLeg : String := ""
  exitMakerLeg : String := ""
  longEntryVwap : Option ExactFloat := none
  shortEntryVwap : Option ExactFloat := none
  entryLiquiditySourceAtEntry : Option String := none
  fundingTimestampMs : Int := 0
  firstFundingTimestampMs : Int := 0
  longFundingTimestampMs : Int := 0
  shortFundingTimestampMs : Int := 0
  runtimeRiskScore : Option ExactFloat := none
  selectionRiskScore : ExactFloat := .finite 0
  blocked : Bool := false
  blockedReasons : List String := []
deriving DecidableEq

def repriceReasons : List String :=
  ["final_l2_expected_edge_below_floor", "final_l2_worst_case_edge_below_floor",
    "final_l2_entry_slippage_above_vwap_limit", "final_l2_unavailable",
    "final_l2_insufficient_depth", "final_l2_invalid_price", "final_l2_quantity_scale_unavailable"]

/-- `_final_l2_clear_reprice_blockers`. -/
def finalL2ClearRepriceBlockers (candidate : CandidateInput) : CandidateInput :=
  let remaining := candidate.blockedReasons.filter fun reason => !repriceReasons.contains reason
  { candidate with blockedReasons := remaining, blocked := !remaining.isEmpty }

/-- `_final_l2_block`. -/
def finalL2Block (candidate : CandidateInput) (reason : String) : Bool × CandidateInput :=
  (false, { candidate with
    blockedReasons := if candidate.blockedReasons.contains reason then candidate.blockedReasons
      else candidate.blockedReasons ++ [reason]
    blocked := true })

/-- What an adapter says about the quantities of its books. -/
inductive QuantityScaleReader where
  | noAdapter
  /-- No function, or one that raises. -/
  | unreadable
  | reads (rawScale : Option ExactFloat)

/-- `_final_l2_quantity_to_base_scale`. -/
def finalL2QuantityToBaseScale : QuantityScaleReader → Option ℚ
  | .noAdapter => some 1
  | .unreadable => none
  | .reads (some (.finite scale)) => if 0 < scale then some scale else none
  | .reads _ => none

structure FinalL2Environment where
  config : FinalL2Config
  fees : Venue → AccountFees
  quantityScale : Venue → String → QuantityScaleReader

namespace FinalL2Environment

variable [TextCase]

/-- `_final_l2_tie_maker_leg`. -/
def finalL2TieMakerLeg (env : FinalL2Environment) : MakerLeg :=
  if TextCase.lower env.config.makerLegDefault = "buy" then .long else .short

omit [TextCase] in
/-- `_final_l2_thresholds`: the least expected and worst edge and the most slippage. -/
def finalL2Thresholds (env : FinalL2Environment) (entryNotionalQuote : ExactFloat) : ℚ × ℚ × ℚ :=
  let config := env.config
  if config.live = true ∧ 0 < config.smallTestMaxEntryNotionalQuote ∧
      entryNotionalQuote.le (.finite (config.smallTestMaxEntryNotionalQuote + 1 / 10 ^ 9)) = true then
    (config.minExpectedEdgeBps - max config.smallTestExpectedEdgeRelaxationBps 0,
      config.minWorstCaseEdgeBps - max config.smallTestWorstCaseEdgeRelaxationBps 0,
      config.maxEntrySlippageBps + max config.smallTestMaxEntrySlippageRelaxationBps 0)
  else (config.minExpectedEdgeBps, config.minWorstCaseEdgeBps, config.maxEntrySlippageBps)

/-- The price of a candidate, with the average prices of the legs that it takes. -/
structure PricedCandidate where
  cost : FinalL2Cost
  longEntryVwap : ℚ
  shortEntryVwap : ℚ

/-- Whether both legs take, and which leg has to be the maker. -/
structure RepriceOptions where
  forcedEntryMakerLeg : Option MakerLeg := none
  dualTaker : Bool := false

omit [TextCase] in
/-- The four walks over the two books: buying and selling on each. -/
def takerSlippages (longBook shortBook : LocalL2Book) (targetQuantity : ExactFloat)
    (longScale shortScale : ℚ) : Except SlippageError ((ℚ × ℚ) × (ℚ × ℚ) × (ℚ × ℚ) × (ℚ × ℚ)) := do
  let longBuy ← finalL2TakerSlippageBps longBook .buy targetQuantity longScale
  let longSell ← finalL2TakerSlippageBps longBook .sell targetQuantity longScale
  let shortBuy ← finalL2TakerSlippageBps shortBook .buy targetQuantity shortScale
  let shortSell ← finalL2TakerSlippageBps shortBook .sell targetQuantity shortScale
  return (longBuy, longSell, shortBuy, shortSell)

/-- The route that is priced. -/
def finalL2Route (env : FinalL2Environment) (options : RepriceOptions) (inputs : FinalL2Inputs) :
    Except String FinalL2Cost :=
  if options.dualTaker then .ok (inputs.dualTakerCost env.config)
  else inputs.priceFinalL2Cost env.config env.finalL2TieMakerLeg options.forcedEntryMakerLeg

/-- The price of a candidate, or the reason for which it has none. -/
def finalL2Price (env : FinalL2Environment) (sessionBooks : Option (LocalL2Book × LocalL2Book))
    (options : RepriceOptions) (candidate : CandidateInput) : Except String PricedCandidate :=
  match Venue.fromStr candidate.longVenue, Venue.fromStr candidate.shortVenue, sessionBooks with
  | none, _, _ | _, none, _ => .error "final_l2_invalid_price"
  | _, _, none => .error "final_l2_unavailable"
  | some longVenue, some shortVenue, some (longBook, shortBook) =>
    let referenceMid := (longBook.bestAsk + shortBook.bestBid) / 2
    if referenceMid ≤ 0 then .error "final_l2_invalid_price"
    else
      let targetQuantity := candidate.entryNotionalQuote.div (.finite referenceMid)
      match finalL2QuantityToBaseScale (env.quantityScale longVenue candidate.symbol),
        finalL2QuantityToBaseScale (env.quantityScale shortVenue candidate.symbol) with
      | some longScale, some shortScale =>
        match takerSlippages longBook shortBook targetQuantity longScale shortScale with
        | .error .insufficientL2Depth => .error "final_l2_insufficient_depth"
        | .error _ => .error "final_l2_invalid_price"
        | .ok (longBuy, longSell, shortBuy, shortSell) =>
          match candidate.fundingEdgeBps with
          | .finite fundingEdge =>
            let inputs : FinalL2Inputs :=
              { fundingEdgeBps := fundingEdge
                longBid := longBook.bestBid
                longAsk := longBook.bestAsk
                shortBid := shortBook.bestBid
                shortAsk := shortBook.bestAsk
                longBuySlippageBps := longBuy.1
                longSellSlippageBps := longSell.1
                shortBuySlippageBps := shortBuy.1
                shortSellSlippageBps := shortSell.1
                longFees := env.fees longVenue
                shortFees := env.fees shortVenue }
            (env.finalL2Route options inputs).map fun cost =>
              { cost := cost
                longEntryVwap :=
                  if cost.entryMakerLeg = some .long then longBook.bestBid else longBuy.2
                shortEntryVwap :=
                  if cost.entryMakerLeg = some .short then shortBook.bestAsk else shortSell.2 }
          | _ => .error "final_l2_invalid_price"
      | _, _ => .error "final_l2_quantity_scale_unavailable"

omit [TextCase] in
/-- The candidate with its new economics. -/
def writePrice (env : FinalL2Environment) (candidate : CandidateInput) (priced : PricedCandidate) :
    CandidateInput :=
  let cost := priced.cost
  let worstCaseEdgeBps := cost.expectedEdgeBps - env.config.executionBufferBps
  { candidate with
    entryCrossBps := .finite cost.entryCrossBps
    longEntrySlippageBps := .finite cost.longEntrySlippageBps
    shortEntrySlippageBps := .finite cost.shortEntrySlippageBps
    feeBps := .finite cost.entryFeeBps
    entrySlippageBps := .finite cost.entrySlippageBps
    longExitSlippageBps := .finite cost.longExitSlippageBps
    shortExitSlippageBps := .finite cost.shortExitSlippageBps
    exitFeeBps := .finite cost.exitFeeBps
    exitSlippageBps := .finite cost.exitSlippageBps
    entryMakerLeg := makerLegText cost.entryMakerLeg
    exitMakerLeg := makerLegText cost.exitMakerLeg
    longEntryVwap := some (.finite priced.longEntryVwap)
    shortEntryVwap := some (.finite priced.shortEntryVwap)
    entryLiquiditySourceAtEntry := some "true_l2"
    expectedEdgeBps := .finite cost.expectedEdgeBps
    worstCaseEdgeBps := .finite worstCaseEdgeBps
    rankingEdgeBps := (ExactFloat.finite worstCaseEdgeBps).add candidate.transferBiasBps }

omit [TextCase] in
/-- The checks on the new economics. -/
def checkPrice (env : FinalL2Environment) (candidate : CandidateInput) (cost : FinalL2Cost) :
    Bool × CandidateInput :=
  let thresholds := env.finalL2Thresholds candidate.entryNotionalQuote
  -- the other economics are sums of numbers
  if candidate.rankingEdgeBps.isFinite = false then finalL2Block candidate "final_l2_invalid_price"
  else if cost.expectedEdgeBps < thresholds.1 then
    finalL2Block candidate "final_l2_expected_edge_below_floor"
  else if cost.expectedEdgeBps - env.config.executionBufferBps < thresholds.2.1 then
    finalL2Block candidate "final_l2_worst_case_edge_below_floor"
  else if thresholds.2.2 < cost.entrySlippageBps then
    finalL2Block candidate "final_l2_entry_slippage_above_vwap_limit"
  else (true, candidate)

/-- `_reprice_final_l2_candidate`. -/
def repriceFinalL2Candidate (env : FinalL2Environment)
    (sessionBooks : Option (LocalL2Book × LocalL2Book)) (options : RepriceOptions)
    (candidate : CandidateInput) : Bool × CandidateInput :=
  let cleared := finalL2ClearRepriceBlockers candidate
  match env.finalL2Price sessionBooks options cleared with
  | .error reason => finalL2Block cleared reason
  | .ok priced => env.checkPrice (env.writePrice cleared priced) priced.cost

end FinalL2Environment

/-! ## Reasons -/

/-- Everything of a candidate that its price depends on, and what pricing leaves alone. -/
structure SameIdentity (before after : CandidateInput) : Prop where
  longVenue : after.longVenue = before.longVenue
  shortVenue : after.shortVenue = before.shortVenue
  symbol : after.symbol = before.symbol
  pairId : after.pairId = before.pairId
  fundingEdgeBps : after.fundingEdgeBps = before.fundingEdgeBps
  transferBiasBps : after.transferBiasBps = before.transferBiasBps
  entryNotionalQuote : after.entryNotionalQuote = before.entryNotionalQuote
  fundingTimestampMs : after.fundingTimestampMs = before.fundingTimestampMs
  firstFundingTimestampMs : after.firstFundingTimestampMs = before.firstFundingTimestampMs
  longFundingTimestampMs : after.longFundingTimestampMs = before.longFundingTimestampMs
  shortFundingTimestampMs : after.shortFundingTimestampMs = before.shortFundingTimestampMs
  runtimeRiskScore : after.runtimeRiskScore = before.runtimeRiskScore
  selectionRiskScore : after.selectionRiskScore = before.selectionRiskScore

namespace FinalL2Environment

variable [TextCase] (env : FinalL2Environment)
  (sessionBooks : Option (LocalL2Book × LocalL2Book)) (options : RepriceOptions)
  (candidate : CandidateInput)

omit [TextCase] in
theorem cleared_reason {reason : String}
    (left : reason ∈ (finalL2ClearRepriceBlockers candidate).blockedReasons) :
    reason ∉ repriceReasons := by
  have passed := (List.mem_filter.mp left).2
  rw [Bool.not_eq_true', List.contains_eq_mem, decide_eq_false_iff_not] at passed
  exact passed

omit [TextCase] in
/-- Clearing undoes a block. -/
theorem clear_block {reason : String} (owned : reason ∈ repriceReasons) {cleared : CandidateInput}
    (clean : finalL2ClearRepriceBlockers cleared = cleared) :
    finalL2ClearRepriceBlockers (finalL2Block cleared reason).2 = cleared := by
  have kept : cleared.blockedReasons.filter (fun other => !repriceReasons.contains other) =
      cleared.blockedReasons := congrArg CandidateInput.blockedReasons clean
  have flagged : (!(cleared.blockedReasons.filter fun other =>
      !repriceReasons.contains other).isEmpty) = cleared.blocked :=
    congrArg CandidateInput.blocked clean
  rw [kept] at flagged
  have dropped : [reason].filter (fun other => !repriceReasons.contains other) = [] := by
    rw [List.filter_singleton, List.contains_eq_mem, decide_eq_true owned]
    rfl
  have reasons : (if cleared.blockedReasons.contains reason then cleared.blockedReasons
      else cleared.blockedReasons ++ [reason]).filter (fun other => !repriceReasons.contains other) =
        cleared.blockedReasons := by
    split_ifs
    · exact kept
    · rw [List.filter_append, kept, dropped, List.append_nil]
  rw [finalL2ClearRepriceBlockers, finalL2Block]
  dsimp only
  rw [reasons, flagged]

omit [TextCase] in
theorem clear_clear : finalL2ClearRepriceBlockers (finalL2ClearRepriceBlockers candidate) =
    finalL2ClearRepriceBlockers candidate := by
  simp [finalL2ClearRepriceBlockers, List.filter_filter]

/-- Every route has a price once the middle price is positive. -/
theorem route_priced {inputs : FinalL2Inputs} (priceable : 0 < inputs.referenceMid) (text : String) :
    env.finalL2Route options inputs ≠ .error text := by
  intro refused
  rw [finalL2Route] at refused
  split_ifs at refused
  cases forced : options.forcedEntryMakerLeg with
  | some makerLeg =>
    rw [forced, FinalL2Inputs.priceFinalL2Cost, if_neg (not_le.mpr priceable)] at refused
    cases refused
  | none =>
    obtain ⟨best, same, -⟩ := inputs.priced_route_best env.config env.finalL2TieMakerLeg priceable
    rw [forced, same, FinalL2Inputs.priceFinalL2Cost, if_neg (not_le.mpr priceable)] at refused
    cases refused

/-- A candidate has no price for one of the reasons that are cleared before. -/
theorem price_reason {reason : String}
    (refused : env.finalL2Price sessionBooks options candidate = .error reason) :
    reason ∈ repriceReasons := by
  unfold finalL2Price at refused
  split at refused
  · obtain rfl := Except.error.inj refused
    decide
  · obtain rfl := Except.error.inj refused
    decide
  · obtain rfl := Except.error.inj refused
    decide
  · dsimp only at refused
    split at refused
    · obtain rfl := Except.error.inj refused
      decide
    · next unpriced =>
      split at refused
      · split at refused
        · obtain rfl := Except.error.inj refused
          decide
        · obtain rfl := Except.error.inj refused
          decide
        · split at refused
          · -- the middle price was looked at before
            generalize routed : env.finalL2Route options _ = route at refused
            cases route with
            | ok cost => cases refused
            | error text =>
              refine absurd routed (env.route_priced options ?_ text)
              exact not_le.mp unpriced
          · obtain rfl := Except.error.inj refused
            decide
      · obtain rfl := Except.error.inj refused
        decide

omit [TextCase] in
/-- The checks block for one of the reasons that are cleared before. -/
theorem check_cases (cost : FinalL2Cost) :
    env.checkPrice candidate cost = (true, candidate) ∨
      ∃ reason ∈ repriceReasons, env.checkPrice candidate cost = finalL2Block candidate reason := by
  rw [checkPrice]
  split_ifs
  · exact .inr ⟨_, by decide, rfl⟩
  · exact .inr ⟨_, by decide, rfl⟩
  · exact .inr ⟨_, by decide, rfl⟩
  · exact .inr ⟨_, by decide, rfl⟩
  · exact .inl rfl

/-- How a candidate leaves the pricing: as it is when cleared, or with a new price, and then with at
most one reason against it. -/
inductive RepriceEnding (cleared : CandidateInput) : Bool × CandidateInput → Prop where
  | unpriced {reason : String} (owned : reason ∈ repriceReasons)
      (refused : env.finalL2Price sessionBooks options cleared = .error reason) :
      RepriceEnding cleared (finalL2Block cleared reason)
  | refused {priced : PricedCandidate} {reason : String} (owned : reason ∈ repriceReasons)
      (price : env.finalL2Price sessionBooks options cleared = .ok priced)
      (checked : env.checkPrice (env.writePrice cleared priced) priced.cost =
        finalL2Block (env.writePrice cleared priced) reason) :
      RepriceEnding cleared (finalL2Block (env.writePrice cleared priced) reason)
  | accepted {priced : PricedCandidate}
      (price : env.finalL2Price sessionBooks options cleared = .ok priced)
      (checked : env.checkPrice (env.writePrice cleared priced) priced.cost =
        (true, env.writePrice cleared priced)) :
      RepriceEnding cleared (true, env.writePrice cleared priced)

theorem reprice_ends : env.RepriceEnding sessionBooks options
    (finalL2ClearRepriceBlockers candidate)
    (env.repriceFinalL2Candidate sessionBooks options candidate) := by
  rw [repriceFinalL2Candidate]
  cases price : env.finalL2Price sessionBooks options (finalL2ClearRepriceBlockers candidate) with
  | error reason => exact .unpriced (env.price_reason _ _ _ price) price
  | ok priced =>
    dsimp only
    obtain checked | ⟨reason, owned, checked⟩ := env.check_cases
      (env.writePrice (finalL2ClearRepriceBlockers candidate) priced) priced.cost
    · rw [checked]
      exact .accepted price checked
    · rw [checked]
      exact .refused owned price checked

/-- What a price depends on. -/
theorem price_congr {left right : CandidateInput} (same : SameIdentity left right) :
    env.finalL2Price sessionBooks options right = env.finalL2Price sessionBooks options left := by
  simp only [finalL2Price, same.longVenue, same.shortVenue, same.symbol, same.entryNotionalQuote,
    same.fundingEdgeBps]

omit [TextCase] in
theorem write_same (priced : PricedCandidate) :
    SameIdentity candidate (env.writePrice candidate priced) :=
  ⟨rfl, rfl, rfl, rfl, rfl, rfl, rfl, rfl, rfl, rfl, rfl, rfl, rfl⟩

omit [TextCase] in
/-- A block changes the reasons alone. -/
theorem block_same (reason : String) : SameIdentity candidate (finalL2Block candidate reason).2 :=
  ⟨rfl, rfl, rfl, rfl, rfl, rfl, rfl, rfl, rfl, rfl, rfl, rfl, rfl⟩

omit [TextCase] in
theorem clear_same : SameIdentity candidate (finalL2ClearRepriceBlockers candidate) :=
  ⟨rfl, rfl, rfl, rfl, rfl, rfl, rfl, rfl, rfl, rfl, rfl, rfl, rfl⟩

omit [TextCase] in
theorem clear_write (priced : PricedCandidate)
    (clean : finalL2ClearRepriceBlockers candidate = candidate) :
    finalL2ClearRepriceBlockers (env.writePrice candidate priced) =
      env.writePrice candidate priced := by
  have kept := congrArg CandidateInput.blockedReasons clean
  have flagged := congrArg CandidateInput.blocked clean
  dsimp only [finalL2ClearRepriceBlockers] at kept flagged
  rw [finalL2ClearRepriceBlockers, writePrice]
  dsimp only
  rw [flagged, kept]

/-- Pricing a candidate again, with the same books, changes neither it nor the answer. -/
theorem reprice_idempotent :
    env.repriceFinalL2Candidate sessionBooks options
        (env.repriceFinalL2Candidate sessionBooks options candidate).2 =
      env.repriceFinalL2Candidate sessionBooks options candidate := by
  have clean := clear_clear candidate
  generalize outcome : env.repriceFinalL2Candidate sessionBooks options candidate = result
  have ends := env.reprice_ends sessionBooks options candidate
  rw [outcome] at ends
  generalize finalL2ClearRepriceBlockers candidate = cleared at clean ends
  cases ends with
  | @unpriced reason owned refused =>
    rw [repriceFinalL2Candidate, clear_block owned clean]
    rw [refused]
  | @refused priced reason owned price checked =>
    have written := env.clear_write cleared priced clean
    rw [repriceFinalL2Candidate, clear_block owned written]
    rw [env.price_congr sessionBooks options (env.write_same cleared priced), price]
    exact checked
  | @accepted priced price checked =>
    rw [repriceFinalL2Candidate, env.clear_write cleared priced clean]
    rw [env.price_congr sessionBooks options (env.write_same cleared priced), price]
    exact checked

/-- What pricing leaves behind: of its own reasons at most one, and none exactly when it answers
that the candidate may go on; the other reasons as they were. -/
structure Settled (before : CandidateInput) (result : Bool × CandidateInput) : Prop where
  identity : SameIdentity before result.2
  others : result.2.blockedReasons.filter (fun reason => !repriceReasons.contains reason) =
    before.blockedReasons.filter (fun reason => !repriceReasons.contains reason)
  single : (result.2.blockedReasons.filter repriceReasons.contains).length ≤ 1
  answer : result.1 = true ↔ ∀ reason ∈ result.2.blockedReasons, reason ∉ repriceReasons
  flagged : result.2.blocked = !result.2.blockedReasons.isEmpty

omit [TextCase] in
/-- A clean candidate that is blocked has the one reason. -/
theorem block_settled {cleared : CandidateInput} {reason : String} (owned : reason ∈ repriceReasons)
    (clean : finalL2ClearRepriceBlockers cleared = cleared) :
    Settled cleared (finalL2Block cleared reason) := by
  have foreign : ∀ other ∈ cleared.blockedReasons, other ∉ repriceReasons := by
    intro other member
    rw [← clean] at member
    exact cleared_reason cleared member
  have fresh : cleared.blockedReasons.contains reason = false := by
    rw [List.contains_eq_mem, decide_eq_false_iff_not]
    exact fun member => foreign reason member owned
  have reasons : (finalL2Block cleared reason).2.blockedReasons =
      cleared.blockedReasons ++ [reason] := by
    rw [finalL2Block]
    dsimp only
    rw [fresh]
    rfl
  have none : cleared.blockedReasons.filter repriceReasons.contains = [] := by
    refine List.filter_eq_nil_iff.mpr (fun other member => ?_)
    rw [List.contains_eq_mem, decide_eq_true_eq]
    exact foreign other member
  refine ⟨block_same cleared reason, ?_, ?_, ?_, ?_⟩
  · have cleared' := congrArg CandidateInput.blockedReasons (clear_block owned clean)
    have kept := congrArg CandidateInput.blockedReasons clean
    exact cleared'.trans kept.symm
  · rw [reasons, List.filter_append, none, List.nil_append]
    exact List.length_filter_le _ _
  · rw [reasons]
    refine iff_of_false Bool.false_ne_true (fun every => ?_)
    exact every reason (List.mem_append_right _ List.mem_cons_self) owned
  · rw [reasons]
    simp [finalL2Block]

omit [TextCase] in
/-- A clean candidate that goes on. -/
theorem accept_settled {cleared : CandidateInput}
    (clean : finalL2ClearRepriceBlockers cleared = cleared) : Settled cleared (true, cleared) := by
  have foreign : ∀ other ∈ cleared.blockedReasons, other ∉ repriceReasons := by
    intro other member
    rw [← clean] at member
    exact cleared_reason cleared member
  have none : cleared.blockedReasons.filter repriceReasons.contains = [] := by
    refine List.filter_eq_nil_iff.mpr (fun other member => ?_)
    rw [List.contains_eq_mem, decide_eq_true_eq]
    exact foreign other member
  have flagged := congrArg CandidateInput.blocked clean
  have kept := congrArg CandidateInput.blockedReasons clean
  dsimp only [finalL2ClearRepriceBlockers] at flagged kept
  rw [kept] at flagged
  refine ⟨⟨rfl, rfl, rfl, rfl, rfl, rfl, rfl, rfl, rfl, rfl, rfl, rfl, rfl⟩, rfl, ?_,
    iff_of_true rfl foreign, flagged.symm⟩
  rw [none]
  exact Nat.zero_le _

omit [TextCase] in
/-- The candidate may be one whose price is written, or that is cleared, before. -/
theorem Settled.earlier {before cleared : CandidateInput} {result : Bool × CandidateInput}
    (settled : Settled cleared result) (same : SameIdentity before cleared)
    (reasons : cleared.blockedReasons.filter (fun reason => !repriceReasons.contains reason) =
      before.blockedReasons.filter (fun reason => !repriceReasons.contains reason)) :
    Settled before result where
  identity :=
    { longVenue := settled.identity.longVenue.trans same.longVenue
      shortVenue := settled.identity.shortVenue.trans same.shortVenue
      symbol := settled.identity.symbol.trans same.symbol
      pairId := settled.identity.pairId.trans same.pairId
      fundingEdgeBps := settled.identity.fundingEdgeBps.trans same.fundingEdgeBps
      transferBiasBps := settled.identity.transferBiasBps.trans same.transferBiasBps
      entryNotionalQuote := settled.identity.entryNotionalQuote.trans same.entryNotionalQuote
      fundingTimestampMs := settled.identity.fundingTimestampMs.trans same.fundingTimestampMs
      firstFundingTimestampMs :=
        settled.identity.firstFundingTimestampMs.trans same.firstFundingTimestampMs
      longFundingTimestampMs :=
        settled.identity.longFundingTimestampMs.trans same.longFundingTimestampMs
      shortFundingTimestampMs :=
        settled.identity.shortFundingTimestampMs.trans same.shortFundingTimestampMs
      runtimeRiskScore := settled.identity.runtimeRiskScore.trans same.runtimeRiskScore
      selectionRiskScore := settled.identity.selectionRiskScore.trans same.selectionRiskScore }
  others := settled.others.trans reasons
  single := settled.single
  answer := settled.answer
  flagged := settled.flagged

/-- Pricing settles a candidate. -/
theorem reprice_settles : Settled candidate
    (env.repriceFinalL2Candidate sessionBooks options candidate) := by
  have ends := env.reprice_ends sessionBooks options candidate
  have clean := clear_clear candidate
  refine Settled.earlier ?_ (clear_same candidate)
    (congrArg CandidateInput.blockedReasons (clear_clear candidate))
  generalize finalL2ClearRepriceBlockers candidate = cleared at ends clean ⊢
  generalize env.repriceFinalL2Candidate sessionBooks options candidate = result at ends ⊢
  cases ends with
  | unpriced owned _ => exact block_settled owned clean
  | @refused priced reason owned _ _ =>
    exact Settled.earlier (block_settled owned (env.clear_write cleared priced clean))
      (env.write_same cleared priced) rfl
  | @accepted priced _ _ =>
    exact Settled.earlier (accept_settled (env.clear_write cleared priced clean))
      (env.write_same cleared priced) rfl

/-! ## What an accepted candidate has -/

/-- The economics of an accepted candidate keep to the thresholds. -/
structure WithinThresholds (before after : CandidateInput) : Prop where
  expected : ∃ edge, after.expectedEdgeBps = .finite edge ∧
    (env.finalL2Thresholds before.entryNotionalQuote).1 ≤ edge
  worst : ∃ edge, after.worstCaseEdgeBps = .finite edge ∧
    (env.finalL2Thresholds before.entryNotionalQuote).2.1 ≤ edge
  slippage : ∃ slippage, after.entrySlippageBps = .finite slippage ∧
    slippage ≤ (env.finalL2Thresholds before.entryNotionalQuote).2.2
  ranked : after.rankingEdgeBps.isFinite = true

/-- Both books offer the quantity of the candidate, for an entry and for an exit. -/
structure Affordable (longBook shortBook : LocalL2Book) : Prop where
  quantity : ∃ longVenue shortVenue longScale shortScale notional,
    Venue.fromStr candidate.longVenue = some longVenue ∧
    Venue.fromStr candidate.shortVenue = some shortVenue ∧
    finalL2QuantityToBaseScale (env.quantityScale longVenue candidate.symbol) = some longScale ∧
    finalL2QuantityToBaseScale (env.quantityScale shortVenue candidate.symbol) = some shortScale ∧
    candidate.entryNotionalQuote = .finite notional ∧ 0 < notional ∧
    ∀ side,
      notional / ((longBook.bestAsk + shortBook.bestBid) / 2) ≤
          offeredBase longBook side longScale + 1 / 10 ^ 9 ∧
        notional / ((longBook.bestAsk + shortBook.bestBid) / 2) ≤
          offeredBase shortBook side shortScale + 1 / 10 ^ 9

variable {env candidate options}

omit [TextCase] in
/-- A quotient is a number only of a number. -/
theorem finite_of_div {value : ExactFloat} {divisor quotient : ℚ}
    (divided : value.div (.finite divisor) = .finite quotient) :
    ∃ exact, value = .finite exact ∧ quotient = exact / divisor := by
  cases value with
  | finite exact => exact ⟨exact, rfl, (ExactFloat.finite.inj divided).symm⟩
  | infinite negative => cases divided
  | notANumber => cases divided

omit [TextCase] in
theorem slippages_ok {longBook shortBook : LocalL2Book} {quantity : ExactFloat}
    {longScale shortScale : ℚ} {legs : (ℚ × ℚ) × (ℚ × ℚ) × (ℚ × ℚ) × (ℚ × ℚ)}
    (walked : takerSlippages longBook shortBook quantity longScale shortScale = .ok legs)
    (side : Side) :
    (∃ priced, finalL2TakerSlippageBps longBook side quantity longScale = .ok priced) ∧
      ∃ priced, finalL2TakerSlippageBps shortBook side quantity shortScale = .ok priced := by
  unfold takerSlippages at walked
  cases longBuy : finalL2TakerSlippageBps longBook .buy quantity longScale with
  | error raised =>
    rw [longBuy] at walked
    cases walked
  | ok first =>
    cases longSell : finalL2TakerSlippageBps longBook .sell quantity longScale with
    | error raised =>
      rw [longBuy, longSell] at walked
      cases walked
    | ok second =>
      cases shortBuy : finalL2TakerSlippageBps shortBook .buy quantity shortScale with
      | error raised =>
        rw [longBuy, longSell, shortBuy] at walked
        cases walked
      | ok third =>
        cases shortSell : finalL2TakerSlippageBps shortBook .sell quantity shortScale with
        | error raised =>
          rw [longBuy, longSell, shortBuy, shortSell] at walked
          cases walked
        | ok fourth =>
          cases side with
          | buy => exact ⟨⟨first, longBuy⟩, ⟨third, shortBuy⟩⟩
          | sell => exact ⟨⟨second, longSell⟩, ⟨fourth, shortSell⟩⟩

/-- A priced candidate can be afforded. -/
theorem priced_affordable {longBook shortBook : LocalL2Book}
    (longValid : longBook.hasValidExecutionStructure = true)
    (shortValid : shortBook.hasValidExecutionStructure = true) {priced : PricedCandidate}
    (price : env.finalL2Price (some (longBook, shortBook)) options candidate = .ok priced) :
    env.Affordable candidate longBook shortBook := by
  unfold finalL2Price at price
  split at price
  · cases price
  · cases price
  · cases price
  · next longVenue shortVenue long short longNamed shortNamed books =>
    obtain ⟨rfl, rfl⟩ := Prod.mk.inj (Option.some.inj books)
    dsimp only at price
    split at price
    · cases price
    · next unpriced =>
      split at price
      · next longScale shortScale longScaled shortScaled =>
        split at price
        · cases price
        · cases price
        · next legs walked =>
          obtain ⟨⟨_, bought⟩, -⟩ := slippages_ok walked .buy
          obtain ⟨asked, quotient, positive, -⟩ := taker_offered longValid bought
          obtain ⟨notional, numeric, rfl⟩ := finite_of_div quotient
          refine ⟨longVenue, shortVenue, longScale, shortScale, notional, longNamed, shortNamed,
            longScaled, shortScaled, numeric, ?_, fun side => ⟨?_, ?_⟩⟩
          · exact (div_pos_iff_of_pos_right (not_le.mp unpriced)).mp positive
          · obtain ⟨⟨_, answered⟩, -⟩ := slippages_ok walked side
            obtain ⟨same, again, -, offered⟩ := taker_offered longValid answered
            rwa [ExactFloat.finite.inj (quotient.symm.trans again)]
          · obtain ⟨-, ⟨_, answered⟩⟩ := slippages_ok walked side
            obtain ⟨same, again, -, offered⟩ := taker_offered shortValid answered
            rwa [ExactFloat.finite.inj (quotient.symm.trans again)]
      · cases price

/-- An accepted candidate has a price that keeps to the thresholds. -/
theorem accepted_priced {books : Option (LocalL2Book × LocalL2Book)}
    (accepted : (env.repriceFinalL2Candidate books options candidate).1 = true) :
    env.WithinThresholds candidate (env.repriceFinalL2Candidate books options candidate).2 ∧
      ∃ priced, env.finalL2Price books options candidate = .ok priced := by
  have ends := env.reprice_ends books options candidate
  have price_cleared := env.price_congr books options (clear_same candidate)
  generalize env.repriceFinalL2Candidate books options candidate = result at ends accepted ⊢
  cases ends with
  | unpriced _ _ => cases accepted
  | refused _ _ _ => cases accepted
  | @accepted priced price checked =>
    refine ⟨?_, priced, price_cleared.symm.trans price⟩
    rw [checkPrice] at checked
    have passed := congrArg Prod.fst checked
    split_ifs at passed with ranked expected worst slippage
    · exact absurd passed Bool.false_ne_true
    · exact absurd passed Bool.false_ne_true
    · exact absurd passed Bool.false_ne_true
    · exact absurd passed Bool.false_ne_true
    · exact ⟨⟨_, rfl, not_lt.mp expected⟩, ⟨_, rfl, not_lt.mp worst⟩, ⟨_, rfl, not_lt.mp slippage⟩,
        eq_true_of_ne_false ranked⟩

end FinalL2Environment

def plainEnvironment : FinalL2Environment where
  config := plainConfig
  fees _ := plainFees
  quantityScale _ _ := .noAdapter

def plainCandidate : CandidateInput where
  longVenue := "binance"
  shortVenue := "okx"
  symbol := "BTCUSDT"
  pairId := "p"
  fundingEdgeBps := .finite 100
  entryNotionalQuote := .finite 100
  firstFundingTimestampMs := 601200

end LightFee.Engine
