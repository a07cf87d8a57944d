import LightFee.Engine.RecoveryPairTruth

/-!
# What a pair proven flat proves

A pair is proven flat by probes of both venues and by the rows of the pair. A row is
found by its venue and symbol as they are spelled. One that a venue's own spelling
hides from this search is not judged at all.
-/

namespace LightFee.Engine

open DynValue

section

variable [TextCase]

/-- The venues of a pair as they are compared. -/
def normalizedVenues (venues : List String) : Finset String :=
  ((venues.filter (fun venue => venue ≠ "")).map TextCase.lower).toFinset

/-- Two names of one venue. -/
def SameVenue (left right : String) : Prop :=
  left = right ∨ ∃ venue, Venues.Venue.fromStr left = some venue ∧
    Venues.Venue.fromStr right = some venue

/-- The row is about the pair: its canonical symbol at one of the pair's venues. -/
def OfPair (symbol : String) (venues : List String) (row : DynValue) : Prop :=
  (∃ venue ∈ normalizedVenues venues, SameVenue (venueOf row) venue) ∧
    Venues.canonicalSymbolFromVenue (venueOf row) (symbolOf row) = TextCase.upper symbol

/-- The row is spelled as the pair is. -/
def SpelledAs (symbol : String) (venues : List String) (row : DynValue) : Prop :=
  venueOf row ∈ normalizedVenues venues ∧ symbolOf row = TextCase.upper symbol

/-- A probe of this kind that succeeded. -/
structure ProbedWell (exchangeTruth : DynValue) (symbol venue classification : String) : Prop where
  probe : ∃ probe ∈ (exchangeTruth.get "probe_evidence" (.list [])).items,
    venueOf probe = venue ∧ symbolOf probe = TextCase.upper symbol ∧
      lowerText (probe.get "classification" (.str "")) = classification ∧
      (probe.get "error" (.str "")).truthy = false ∧ probeIsGap probe = false

/-- Both venues were probed, no position of the pair is live or unreadable, and it has
no open order. -/
structure PairFlat (exchangeTruth : DynValue) (symbol : String) (venues : List String) : Prop where
  positionProbed : ∀ venue ∈ normalizedVenues venues,
    ProbedWell exchangeTruth symbol venue "position_truth"
  orderProbed : ∀ venue ∈ normalizedVenues venues,
    ProbedWell exchangeTruth symbol venue "open_order_truth"
  positions : ∀ row ∈ exchangePositions exchangeTruth, OfPair symbol venues row →
    positionIsFlat row = true
  orders : ∀ row ∈ exchangeOpenOrders exchangeTruth, ¬ OfPair symbol venues row

/-- Of the pair's rows in another spelling none is live. -/
structure RespelledFlat (exchangeTruth : DynValue) (symbol : String) (venues : List String) :
    Prop where
  positions : ∀ row ∈ exchangePositions exchangeTruth, OfPair symbol venues row →
    ¬ SpelledAs symbol venues row → positionIsFlat row = true
  orders : ∀ row ∈ exchangeOpenOrders exchangeTruth, OfPair symbol venues row →
    SpelledAs symbol venues row

/-- A covered kind of evidence comes from a probe that succeeded. -/
theorem probed_of_coverage {exchangeTruth : DynValue} {symbol : String} {venues : Finset String}
    {covered : Finset (String × String)}
    (coverage : pairCoverage (exchangeTruth.get "probe_evidence" (.list [])).items
      (TextCase.upper symbol) venues = some covered) {venue kind : String}
    (member : (venue, kind) ∈ covered) :
    ∃ classification, ProbedWell exchangeTruth symbol venue classification ∧
      ((classification = "position_truth" ∧ kind = "position") ∨
        (classification = "open_order_truth" ∧ kind = "open_order")) := by
  unfold pairCoverage at coverage
  dsimp only at coverage
  split_ifs at coverage with gap
  rw [Option.some.injEq] at coverage
  subst coverage
  obtain ⟨probe, relevant, evidence⟩ := List.mem_filterMap.mp (List.mem_toFinset.mp member)
  have calm : probeIsGap probe = false := by
    rw [Bool.not_eq_true] at gap
    rw [← Bool.not_eq_true]
    exact List.any_eq_false.mp gap probe relevant
  obtain ⟨inProbes, about⟩ := List.mem_filter.mp relevant
  simp only [Bool.and_eq_true, decide_eq_true_eq] at about
  split_ifs at evidence with failed position order
  · rw [Option.some.injEq, Prod.mk.injEq] at evidence
    obtain ⟨rfl, rfl⟩ := evidence
    exact ⟨_, ⟨probe, inProbes, rfl, about.2, position, by simpa using failed, calm⟩,
      Or.inl ⟨rfl, rfl⟩⟩
  · rw [Option.some.injEq, Prod.mk.injEq] at evidence
    obtain ⟨rfl, rfl⟩ := evidence
    exact ⟨_, ⟨probe, inProbes, rfl, about.2, order, by simpa using failed, calm⟩,
      Or.inr ⟨rfl, rfl⟩⟩

/-- What the accepting branch for truth by symbols has checked. -/
structure SymbolTruthChecks (exchangeTruth : DynValue) (symbol : String) (venues : List String) :
    Prop where
  coverage : pairCoverage (exchangeTruth.get "probe_evidence" (.list [])).items
    (TextCase.upper symbol) (normalizedVenues venues) =
      some ((normalizedVenues venues).image (fun venue => (venue, "position")) ∪
        (normalizedVenues venues).image (fun venue => (venue, "open_order")))
  positions : ∀ row ∈ exchangePositions exchangeTruth, SpelledAs symbol venues row →
    positionIsFlat row = true
  orders : ∀ row ∈ exchangeOpenOrders exchangeTruth, ¬ SpelledAs symbol venues row

theorem symbol_truth_checks {exchangeTruth : DynValue} {symbol : String} {venues : List String}
    (scope : truthScope exchangeTruth = "symbols")
    (proven : completeFlatTruthForPair exchangeTruth symbol venues = true) :
    SymbolTruthChecks exchangeTruth symbol venues := by
  have notAccount : isCompleteAccountFlatTruth exchangeTruth = false := by
    simp [isCompleteAccountFlatTruth, isCompleteAccountTruth, scope]
  unfold completeFlatTruthForPair at proven
  rw [notAccount, scope] at proven
  simp only [Bool.false_eq_true, if_false, String.reduceEq] at proven
  simp only [decide_true, Bool.true_and, Bool.and_eq_true] at proven
  have flat := proven.2
  unfold symbolTruthIsFlat at flat
  simp only [Bool.and_eq_true, decide_eq_true_eq] at flat
  obtain ⟨⟨⟨⟨_, coverage⟩, positions⟩, _⟩, orders⟩ := flat
  refine ⟨coverage, ?_, ?_⟩
  · intro row member spelled
    have judged := List.all_eq_true.mp positions row member
    simp only [Bool.and_eq_true, Bool.or_eq_true, Bool.not_eq_true'] at judged
    refine judged.2.resolve_left ?_
    rw [Bool.not_eq_false, Bool.and_eq_true, decide_eq_true_eq, decide_eq_true_eq]
    exact spelled
  · intro row member spelled
    have judged := List.all_eq_true.mp orders row member
    simp only [Bool.and_eq_true, Bool.not_eq_true'] at judged
    have hidden := judged.2
    rw [← Bool.not_eq_true, Bool.and_eq_true, decide_eq_true_eq, decide_eq_true_eq] at hidden
    exact hidden spelled

/-- A pair that is proven flat by symbols is flat exactly when no live row of it is
spelled otherwise. -/
theorem pair_proven_flat_iff (exchangeTruth : DynValue) (symbol : String) (venues : List String)
    (scope : truthScope exchangeTruth = "symbols")
    (proven : completeFlatTruthForPair exchangeTruth symbol venues = true) :
    PairFlat exchangeTruth symbol venues ↔ RespelledFlat exchangeTruth symbol venues := by
  have checks := symbol_truth_checks scope proven
  constructor
  · intro flat
    refine ⟨fun row member ofPair _ => flat.positions row member ofPair, ?_⟩
    intro row member ofPair
    exact absurd ofPair (flat.orders row member)
  · intro respelled
    refine ⟨?_, ?_, ?_, ?_⟩
    · intro venue member
      have covered : (venue, "position") ∈
          (normalizedVenues venues).image (fun venue => (venue, "position")) ∪
            (normalizedVenues venues).image (fun venue => (venue, "open_order")) :=
        Finset.mem_union_left _ (Finset.mem_image_of_mem _ member)
      obtain ⟨classification, probed, ⟨rfl, _⟩ | ⟨_, kind⟩⟩ :=
        probed_of_coverage checks.coverage covered
      · exact probed
      · exact absurd kind (by decide)
    · intro venue member
      have covered : (venue, "open_order") ∈
          (normalizedVenues venues).image (fun venue => (venue, "position")) ∪
            (normalizedVenues venues).image (fun venue => (venue, "open_order")) :=
        Finset.mem_union_right _ (Finset.mem_image_of_mem _ member)
      obtain ⟨classification, probed, ⟨_, kind⟩ | ⟨rfl, _⟩⟩ :=
        probed_of_coverage checks.coverage covered
      · exact absurd kind (by decide)
      · exact probed
    · intro row member ofPair
      by_cases spelled : SpelledAs symbol venues row
      · exact checks.positions row member spelled
      · exact respelled.positions row member ofPair spelled
    · intro row member ofPair
      exact checks.orders row member (respelled.orders row member ofPair)

end

/-! ## A native spelling -/

/-- A probe of one venue that succeeded. -/
def successfulProbe (venue classification : String) : DynValue :=
  .dict [("venue", .str venue), ("symbol", .str "BTCUSDT"), ("classification", .str classification)]

def flatPosition (venue : String) : DynValue :=
  .dict [("venue", .str venue), ("symbol", .str "BTCUSDT"), ("quantity", .int 0)]

/-- Truth by symbols about one pair, with the rows that its open-order probes gave. -/
def pairTruth (openOrders : List DynValue) : DynValue :=
  .dict [("truth_scope", .str "symbols"), ("truth_supported", .bool true),
    ("truth_available", .bool true),
    ("positions", .list [flatPosition "binance", flatPosition "gate"]),
    ("open_orders", .list openOrders),
    ("probe_evidence", .list [successfulProbe "binance" "position_truth",
      successfulProbe "gate" "position_truth", successfulProbe "binance" "open_order_truth",
      successfulProbe "gate" "open_order_truth"])]

/-- An open order in the spelling of its venue. -/
def gateOrder : DynValue :=
  .dict [("venue", .str "gate"), ("symbol", .str "BTC_USDT"), ("order_id", .str "7")]

local instance asciiPairCase : TextCase := TextCase.ascii

theorem respelled_order_hidden :
    completeFlatTruthForPair (pairTruth [gateOrder]) "BTCUSDT" ["binance", "gate"] = true ∧
      ¬ PairFlat (pairTruth [gateOrder]) "BTCUSDT" ["binance", "gate"] := by
  constructor
  · decide +kernel
  · intro flat
    apply flat.orders gateOrder List.mem_cons_self
    refine ⟨⟨"gate", by decide +kernel, Or.inl (by decide +kernel)⟩, by decide +kernel⟩

/-- A pair without open orders is flat. -/
theorem pair_proven_flat_iff_no_orders :
    PairFlat (pairTruth []) "BTCUSDT" ["binance", "gate"] ↔
      RespelledFlat (pairTruth []) "BTCUSDT" ["binance", "gate"] :=
  pair_proven_flat_iff _ _ _ (by decide +kernel) (by decide +kernel)

end LightFee.Engine
