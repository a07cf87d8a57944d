import LightFee.Engine.RecoveryEvidence
import Mathlib.Data.Finset.Card
import Mathlib.Data.Finset.Image

/-!
# Truth about one pair and its close reconciliations

Account truth proves every pair flat; truth by symbols proves a pair flat only if
both venues were probed for positions and orders. The close-reconciliation owners
of a state are its queue and, where a compact state omits the queue, its counts.
-/

namespace LightFee.Engine

open DynValue

variable [TextCase]

/-- The diagnostics shape of account truth, without weaker evidence. -/
def legacyHighConfidenceFlatTruth (exchangeTruth : DynValue) : Bool :=
  exchangeTruth.isMapping &&
    (exchangeTruth.get "available" (exchangeTruth.get "truth_available")).truthy &&
    lowerText (exchangeTruth.get "confidence" (.str "")) = "high" &&
    !hasPartialExchangeEvidence exchangeTruth &&
    !(exchangeTruth.get "positions").isNull && !(exchangeTruth.get "open_orders").isNull &&
    !(exchangeTruth.get "has_nonzero_position").truthy &&
    !(exchangeTruth.get "has_open_order").truthy &&
    (exchangePositions exchangeTruth).all positionIsFlat &&
    (exchangeOpenOrders exchangeTruth).isEmpty

/-- What the probes of a pair cover, or nothing if one of them is a gap. -/
def pairCoverage (probes : List DynValue) (symbol : String) (venues : Finset String) :
    Option (Finset (String × String)) :=
  let relevant := probes.filter (fun probe => venueOf probe ∈ venues && symbolOf probe = symbol)
  if relevant.any probeIsGap then none
  else
    let evidence (probe : DynValue) : Option (String × String) :=
      let classification := lowerText (probe.get "classification" (.str ""))
      if (probe.get "error" (.str "")).truthy then none
      else if classification = "position_truth" then some (venueOf probe, "position")
      else if classification = "open_order_truth" then some (venueOf probe, "open_order")
      else none
    some (relevant.filterMap evidence).toFinset

/-- Truth by symbols that covers both venues and shows them flat. -/
def symbolTruthIsFlat (exchangeTruth : DynValue) (symbol : String) (venues : Finset String) :
    Bool :=
  let probes := (exchangeTruth.get "probe_evidence" (.list [])).items
  let positions := exchangePositions exchangeTruth
  let orders := exchangeOpenOrders exchangeTruth
  let concerns (row : DynValue) : Bool := venueOf row ∈ venues && symbolOf row = symbol
  let named (row : DynValue) : Bool := venueOf row ≠ "" && symbolOf row ≠ ""
  ((exchangeTruthAvailable exchangeTruth && !hasItems (exchangeTruth.get "errors" (.list []))) ||
      probes.any probeIsGap) &&
    pairCoverage probes symbol venues =
      some (venues.image (fun venue => (venue, "position")) ∪
        venues.image (fun venue => (venue, "open_order"))) &&
    positions.all (fun row => named row && (!concerns row || positionIsFlat row)) &&
    ((positions.filter concerns).map venueOf).toFinset = venues &&
    orders.all (fun row => named row && !concerns row)

/-- Current truth completely proves one exact pair flat. -/
def completeFlatTruthForPair (exchangeTruth : DynValue) (symbol : String) (venues : List String) :
    Bool :=
  if isCompleteAccountFlatTruth exchangeTruth then true
  else
    let scope := truthScope exchangeTruth
    if scope = "" then legacyHighConfidenceFlatTruth exchangeTruth
    else
      let normalizedSymbol := TextCase.upper symbol
      let normalizedVenues := ((venues.filter (fun venue => venue ≠ "")).map TextCase.lower).toFinset
      scope = "symbols" && (exchangeTruth.get "truth_supported").isTrue &&
        !(exchangeTruth.get "positions").isNull && !(exchangeTruth.get "open_orders").isNull &&
        !hasItems (exchangeTruth.get "missing_evidence" (.list [])) &&
        normalizedSymbol ≠ "" && normalizedVenues.card = 2 &&
        symbolTruthIsFlat exchangeTruth normalizedSymbol normalizedVenues

/-! ## Close-reconciliation owners -/

/-- `max(int(value or 0), 0)`, or nothing where it fails. -/
def countOf (value : DynValue) : Option Nat := (value.orElse (.int 0)).toInt?.map Int.toNat

def isEvidenceDebt (item : DynValue) : Bool :=
  lowerText (item.get "reconciliation_status" (.str "")) = "evidence_debt"

/-- The queue itself; a single record stands for a queue of one. -/
def materializedReconciliations (collection : DynValue) : List DynValue :=
  match collection with
  | .dict entries =>
    if ["position_id", "close_id", "symbol", "position_snapshot"].any collection.hasKey then
      [collection]
    else entries.map Prod.snd
  | .list items => items
  | _ => []

/-- The queue, and a placeholder for each owner that only the counts know. -/
def pendingCloseReconciliationEvidence (state : DynValue) : List DynValue :=
  let materialized := materializedReconciliations (state.get "pending_close_reconciliations")
  let summary := state.get "pending_close_reconciliation_summary"
  let counted := [state.get "pending_close_reconciliation_count",
    if summary.isMapping then summary.get "total_count" else .null].filterMap countOf
  let count := counted.foldl max materialized.length
  let missing := count - materialized.length
  let summarizedDebts :=
    if summary.isMapping then (countOf (summary.get "evidence_debt_count")).getD 0 else 0
  let debts := min (summarizedDebts - (materialized.filter isEvidenceDebt).length) missing
  materialized ++
    List.replicate debts (.dict [("source", .str "pending_close_reconciliation_summary"),
      ("reconciliation_status", .str "evidence_debt")]) ++
    List.replicate (missing - debts) (.dict [("source", .str "pending_close_reconciliation_count")])

end LightFee.Engine
