import LightFee.Engine.EngineState
import LightFee.Engine.EntryGates
import LightFee.Library.BestPerKey
import Mathlib.Data.Prod.Lex
import Mathlib.Data.String.Basic

/-!
# The selection of a scan's entries

The candidates that pass the gates are priced again, sorted by a score that weighs their edge
against the depth of the books, and chosen from the best on: one for each symbol, none whose symbol
or pair is taken already, and a few more than there are places. What is chosen is the best of what
may be chosen, however the candidates were listed.

Journal lines and their evidence are left out; the counters and the reason noted for each pair stay.
-/

namespace LightFee.Engine

open LightFee.MarketData LightFee.Venues BestPerKey KeepFirst

/-! ## What a selection works with -/

structure EntryQuote where
  bid : ExactFloat
  ask : ExactFloat
  bidSize : ExactFloat
  askSize : ExactFloat

structure SelectionEnvironment where
  config : SelectionConfig
  finalL2 : FinalL2Environment
  tradingCapabilityTrusted : Venue → Bool
  /-- `_market_quote_lookup`, by venue and symbol. -/
  quotes : OrderedDict (String × String) EntryQuote

structure SelectionState where
  engine : EngineState
  tracking : EntryTracking := {}
  books : LocalL2Runtime := {}
  blocks : AdmissionBlocks := {}

/-- The counters of a selection, and the reason noted for each pair. -/
structure SelectionReport where
  selectionBlockerCounts : OrderedDict String Nat := .empty
  admissionBlockerCounts : OrderedDict String Nat := .empty
  candidateBlockers : OrderedDict String String := .empty

/-- `_entry_selection_target`. -/
def entrySelectionTarget (remainingSlots : Int) : Nat :=
  if remainingSlots ≤ 0 then 0 else (min (max remainingSlots (remainingSlots * 4)) 8).toNat

def admissionReasons : List String :=
  ["entry_local_l2_waiting_for_primary_tracking", "bybit_trading_terms_required",
    "insufficient_balance_admission_blocked", "insufficient_margin_admission_blocked",
    "leverage_admission_blocked", "max_notional_admission_blocked"]

namespace SelectionReport

def countSelection (report : SelectionReport) (blocker : String) : SelectionReport :=
  { report with
    selectionBlockerCounts := report.selectionBlockerCounts.tallyOnto [(blocker, 1)] }

def note (report : SelectionReport) (pairId blocker : String) : SelectionReport :=
  { report with candidateBlockers := report.candidateBlockers.insert pairId blocker }

/-- A gate blocks a pair. -/
def gate (report : SelectionReport) (pairId blocker : String) : SelectionReport :=
  (if admissionReasons.contains blocker then
    { report with
      admissionBlockerCounts := report.admissionBlockerCounts.tallyOnto [(blocker, 1)] }
  else report.countSelection blocker).note pairId blocker

end SelectionReport

section Selection

variable [TextCase] (env : SelectionEnvironment)

/-- `_candidate_is_tradeable_for_selection`. -/
def candidateIsTradeableForSelection (candidate : CandidateInput) : Bool :=
  if candidate.blocked then false
  else if !candidate.blockedReasons.isEmpty then false
  else if candidate.entryNotionalQuote.le (.finite 0) then false
  else [candidate.longVenue, candidate.shortVenue].all fun venueRaw =>
    (Venue.fromStr venueRaw).all env.tradingCapabilityTrusted

/-! ## The score -/

/-- `_entry_leg_depth_score`. -/
def entryLegDepthScore (candidate : CandidateInput) (venue : String) (side : Side) : ExactFloat :=
  match env.quotes.find? (TextCase.lower venue, TextCase.upper candidate.symbol) with
  | none => .finite 10
  | some quote =>
    let price := if side = .buy then quote.ask else quote.bid
    let topSize := if side = .buy then quote.askSize else quote.bidSize
    if price.le (.finite 0) || topSize.le (.finite 0) then .finite 10
    else
      let quantity := candidate.entryNotionalQuote.div price
      if quantity.le (.finite 0) then .finite 10 else quantity.div topSize

/-- `_runtime_candidate_risk_score`. -/
def runtimeCandidateRiskScore (candidate : CandidateInput) : ExactFloat :=
  match candidate.runtimeRiskScore with
  | some explicitRisk => explicitRisk.max (.finite 0)
  | none =>
    let longDepth := entryLegDepthScore env candidate candidate.longVenue .buy
    let shortDepth := entryLegDepthScore env candidate candidate.shortVenue .sell
    let depthRisk := (longDepth.max shortDepth).max (.finite 0)
    (depthRisk.max candidate.selectionRiskScore).max (.finite 0)

/-- `_runtime_candidate_selection_score`. -/
def runtimeCandidateSelectionScore (candidate : CandidateInput) : ExactFloat :=
  candidate.rankingEdgeBps.div
    ((ExactFloat.finite 1).add ((runtimeCandidateRiskScore env candidate).max (.finite 0)))

structure SelectionKey where
  score : ExactFloat
  rankingEdgeBps : ExactFloat
  worstCaseEdgeBps : ExactFloat
  pairId : String

/-- `_candidate_final_selection_sort_key`. -/
def candidateFinalSelectionSortKey (candidate : CandidateInput) : SelectionKey where
  score := (runtimeCandidateSelectionScore env candidate).neg
  rankingEdgeBps := candidate.rankingEdgeBps.neg
  worstCaseEdgeBps := candidate.worstCaseEdgeBps.neg
  pairId := candidatePairId candidate.tracked

omit [TextCase] in
/-- `left < right` on tuples: the first components that differ decide. -/
def keyLess (left right : SelectionKey) : Bool :=
  if !left.score.eq right.score then left.score.lt right.score
  else if !left.rankingEdgeBps.eq right.rankingEdgeBps then
    left.rankingEdgeBps.lt right.rankingEdgeBps
  else if !left.worstCaseEdgeBps.eq right.worstCaseEdgeBps then
    left.worstCaseEdgeBps.lt right.worstCaseEdgeBps
  else decide (left.pairId < right.pairId)

/-- A stable sort keeps two candidates as they are unless the second has the lesser key. -/
def SortsBefore (first second : CandidateInput) : Prop :=
  keyLess (candidateFinalSelectionSortKey env second) (candidateFinalSelectionSortKey env first) =
    false

instance : DecidableRel (SortsBefore env) := fun _ _ => inferInstanceAs (Decidable (_ = _))

/-! ## Final prices -/

omit [TextCase] in
/-- `_final_l2_book`. -/
def finalL2Book (books : LocalL2Runtime) (staleAfterMs : Int) (venue symbol : String) (nowMs : Int) :
    Option LocalL2Book :=
  (books.getBook venue symbol).filter fun book => executionSnapshotIsValid book staleAfterMs nowMs

omit [TextCase] in
/-- `_entry_l2_session_ready_books`. -/
def entryL2SessionReadyBooks (sessions : EntryLocalL2SessionRuntime) (books : LocalL2Runtime)
    (staleAfterMs : Int) (pairId : String) (longVenue shortVenue : Venue) (symbol : String)
    (nowMs : Int) : Option (LocalL2Book × LocalL2Book) :=
  match sessions.readyPairLegs pairId longVenue.value shortVenue.value symbol nowMs staleAfterMs with
  | none => none
  | some (longLeg, shortLeg) =>
    match finalL2Book books staleAfterMs longLeg.venue longLeg.symbol nowMs,
      finalL2Book books staleAfterMs shortLeg.venue shortLeg.symbol nowMs with
    | some longBook, some shortBook => some (longBook, shortBook)
    | _, _ => none

/-- `_entry_l2_owned_ready_books`. -/
def entryL2OwnedReadyBooks (state : SelectionState) (candidate : CandidateInput) (nowMs : Int) :
    Option (LocalL2Book × LocalL2Book) :=
  let pairId := candidatePairId candidate.tracked
  if pairId ∉ state.tracking.trackedPrimaryPairIds then none
  else
    match Venue.fromStr candidate.longVenue, Venue.fromStr candidate.shortVenue with
    | some longVenue, some shortVenue =>
      entryL2SessionReadyBooks state.tracking.runtime state.books
        env.config.entryLocalL2StaleAfterMs pairId longVenue shortVenue candidate.symbol nowMs
    | _, _ => none

/-- A candidate with its final price, when it keeps to the thresholds. -/
def repriced (state : SelectionState) (nowMs : Int) (candidate : CandidateInput) :
    Option CandidateInput :=
  let answer := env.finalL2.repriceFinalL2Candidate
    (entryL2OwnedReadyBooks env state candidate nowMs) {} candidate
  if answer.1 then some answer.2 else none

/-- `_reprice_final_l2_candidates`: the best edge first. -/
def repriceFinalL2Candidates (state : SelectionState) (nowMs : Int)
    (candidates : List CandidateInput) : List CandidateInput :=
  (candidates.filterMap (repriced env state nowMs)).insertionSort
    fun first second => first.rankingEdgeBps.lt second.rankingEdgeBps = false

/-! ## The choice -/

/-- The loop over the gates. -/
structure GateScan where
  ranked : List CandidateInput := []
  blocks : AdmissionBlocks
  report : SelectionReport := {}

def gateCandidate (tracking : EntryTracking) (nowMs : Int) (scan : GateScan)
    (candidate : CandidateInput) : GateScan :=
  if candidateIsTradeableForSelection env candidate = false then scan
  else
    match selectionBlocker env.config tracking scan.blocks candidate nowMs with
    | (some blocker, blocks) =>
      { scan with
        blocks := blocks
        report := scan.report.gate (candidatePairId candidate.tracked) blocker }
    | (none, blocks) => { scan with ranked := scan.ranked ++ [candidate], blocks := blocks }

def openPositionSymbols (engine : EngineState) : List String :=
  engine.openPositions.values.map OpenPosition.symbol

def pendingEntrySymbols (engine : EngineState) : List String :=
  engine.pendingEntries.values.map PendingEntry.symbol

/-- `_has_pending_residual_pair`. -/
def hasPendingResidualPair (engine : EngineState) (pairId : String) : Bool :=
  engine.pendingResidualRepairs.any fun task => (task.get "pair_id" (.str "")).text == pairId

structure SelectionChoice where
  selected : List CandidateInput := []
  report : SelectionReport := {}

/-- The loop over the sorted candidates, which ends once there are enough. -/
def chooseCandidates (engine : EngineState) (target : Nat) :
    List CandidateInput → SelectionChoice → SelectionChoice
  | [], choice => choice
  | candidate :: rest, choice =>
    let pairId := candidatePairId candidate.tracked
    if candidate.symbol ∈ choice.selected.map CandidateInput.symbol then
      let counted := choice.report.countSelection "entry_selection_duplicate_symbol"
      chooseCandidates engine target rest { choice with
        report :=
          if pairId ∈ choice.selected.map (fun chosen => candidatePairId chosen.tracked) then counted
          else counted.note pairId "entry_selection_duplicate_symbol" }
    else if candidate.symbol ∈ openPositionSymbols engine then
      chooseCandidates engine target rest { choice with
        report := (choice.report.countSelection "entry_selection_symbol_has_open_position").note
          pairId "entry_selection_symbol_has_open_position" }
    else if candidate.symbol ∈ pendingEntrySymbols engine then
      chooseCandidates engine target rest { choice with
        report := (choice.report.countSelection "entry_selection_symbol_has_pending_entry").note
          pairId "entry_selection_symbol_has_pending_entry" }
    else if hasPendingResidualPair engine pairId then
      chooseCandidates engine target rest { choice with
        report :=
          (choice.report.countSelection "entry_selection_pair_has_pending_residual_repair").note
            pairId "entry_selection_pair_has_pending_residual_repair" }
    else
      let chosen := { choice with selected := choice.selected ++ [candidate] }
      if target ≤ chosen.selected.length then chosen
      else chooseCandidates engine target rest chosen

/-- The candidates that pass the gates. -/
def gated (state : SelectionState) (nowMs : Int) (tradeable : List CandidateInput) : GateScan :=
  tradeable.foldl (gateCandidate env state.tracking nowMs) { blocks := state.blocks }

/-- The candidates that may be chosen from; a live engine prices them again. -/
def rankedCandidates (state : SelectionState) (nowMs : Int) (tradeable : List CandidateInput) :
    List CandidateInput :=
  let ranked := (gated env state nowMs tradeable).ranked
  if TextCase.lower env.config.mode = "live" then repriceFinalL2Candidates env state nowMs ranked
  else ranked

/-- `_select_entry_candidates`. -/
def selectEntryCandidates (state : SelectionState) (nowMs remainingSlots : Int)
    (tradeable : List CandidateInput) : SelectionChoice × AdmissionBlocks :=
  let target := entrySelectionTarget remainingSlots
  if target = 0 then ({}, state.blocks)
  else
    let scan := gated env state nowMs tradeable
    (chooseCandidates state.engine target
        ((rankedCandidates env state nowMs tradeable).insertionSort (SortsBefore env))
        { report := scan.report },
      scan.blocks)

/-! ## Who passes the gates -/

/-- The candidate is tradeable and no gate blocks it. -/
def passesGates (state : SelectionState) (nowMs : Int) (candidate : CandidateInput) : Bool :=
  candidateIsTradeableForSelection env candidate &&
    (selectionBlocker env.config state.tracking state.blocks candidate nowMs).1.isNone

variable {env} {state : SelectionState} {nowMs : Int}

/-- One turn of the loop over the gates. -/
theorem gate_step {scan : GateScan} (alike : scan.blocks.Alike state.blocks)
    (candidate : CandidateInput) :
    (gateCandidate env state.tracking nowMs scan candidate).ranked =
        scan.ranked ++ [candidate].filter (passesGates env state nowMs) ∧
      (gateCandidate env state.tracking nowMs scan candidate).blocks.Alike state.blocks := by
  have same := selection_congr env.config state.tracking alike candidate nowMs
  have after := selection_alike env.config state.tracking scan.blocks candidate nowMs
  rw [List.filter_singleton, passesGates]
  unfold gateCandidate
  cases tradeable : candidateIsTradeableForSelection env candidate with
  | false => exact ⟨(List.append_nil _).symm, alike⟩
  | true =>
    rw [if_neg (by decide), ← same]
    generalize selectionBlocker env.config state.tracking scan.blocks candidate nowMs = answer at after
    obtain ⟨blocker, blocks⟩ := answer
    cases blocker with
    | some reason => exact ⟨(List.append_nil _).symm, after.trans alike⟩
    | none => exact ⟨rfl, after.trans alike⟩

/-- The loop keeps the candidates that pass, in their order, whatever it remembers on the way. -/
theorem gated_ranked (tradeable : List CandidateInput) :
    (gated env state nowMs tradeable).ranked = tradeable.filter (passesGates env state nowMs) := by
  suffices loop : ∀ scan : GateScan, scan.blocks.Alike state.blocks →
      (tradeable.foldl (gateCandidate env state.tracking nowMs) scan).ranked =
        scan.ranked ++ tradeable.filter (passesGates env state nowMs) by
    exact (loop _ (.refl _)).trans (List.nil_append _)
  induction tradeable with
  | nil => exact fun scan _ => (List.append_nil _).symm
  | cons candidate rest ih =>
    intro scan alike
    have ⟨ranked, after⟩ := @gate_step _ env state nowMs scan alike candidate
    rw [List.foldl_cons, ih _ after, ranked, List.append_assoc,
      ← List.filter_append, List.singleton_append]

/-! ## What is chosen -/

/-- Nothing that the engine holds takes the candidate's symbol or pair. -/
def mayBeChosen (engine : EngineState) (candidate : CandidateInput) : Bool :=
  !(openPositionSymbols engine).contains candidate.symbol &&
    !(pendingEntrySymbols engine).contains candidate.symbol &&
    !hasPendingResidualPair engine (candidatePairId candidate.tracked)

/-- The loop takes the first candidate of each symbol that may be chosen, until there are
enough. -/
theorem chosen_eq {engine : EngineState} {target : Nat} (items : List CandidateInput)
    (choice : SelectionChoice) (room : choice.selected.length < target) :
    (chooseCandidates engine target items choice).selected =
      choice.selected ++ (keepFirst CandidateInput.symbol (choice.selected.map CandidateInput.symbol)
        (items.filter (mayBeChosen engine))).take (target - choice.selected.length) := by
  induction items generalizing choice with
  | nil => simp [chooseCandidates, keepFirst]
  | cons candidate rest ih =>
    rw [chooseCandidates]
    dsimp only
    by_cases duplicate : candidate.symbol ∈ choice.selected.map CandidateInput.symbol
    · rw [if_pos duplicate, List.filter_cons, ih]
      · cases mayBeChosen engine candidate with
        | true => rw [if_pos rfl, keepFirst, if_pos duplicate]
        | false => rfl
      · exact room
    · rw [if_neg duplicate]
      by_cases opened : candidate.symbol ∈ openPositionSymbols engine
      · have refused : mayBeChosen engine candidate = false := by simp [mayBeChosen, opened]
        rw [if_pos opened, List.filter_cons, refused]
        exact ih _ room
      · rw [if_neg opened]
        by_cases pending : candidate.symbol ∈ pendingEntrySymbols engine
        · have refused : mayBeChosen engine candidate = false := by simp [mayBeChosen, pending]
          rw [if_pos pending, List.filter_cons, refused]
          exact ih _ room
        · rw [if_neg pending]
          by_cases residual : hasPendingResidualPair engine (candidatePairId candidate.tracked) = true
          · have refused : mayBeChosen engine candidate = false := by simp [mayBeChosen, residual]
            rw [if_pos residual, List.filter_cons, refused]
            exact ih _ room
          · have free : mayBeChosen engine candidate = true := by
              simp [mayBeChosen, opened, pending, residual]
            have taken : target - choice.selected.length =
                (target - (choice.selected ++ [candidate]).length) + 1 := by
              rw [List.length_append, List.length_singleton]
              omega
            rw [if_neg residual, List.filter_cons_of_pos free, keepFirst, if_neg duplicate, taken,
              List.take_succ_cons]
            by_cases full : target ≤ (choice.selected ++ [candidate]).length
            · rw [if_pos full, Nat.sub_eq_zero_of_le full, List.take_zero]
            · have symbols : (choice.selected ++ [candidate]).map CandidateInput.symbol =
                  choice.selected.map CandidateInput.symbol ++ [candidate.symbol] := List.map_append
              rw [if_neg full, ih _ (not_le.mp full), List.append_assoc,
                List.singleton_append, symbols]

/-- The target of a selection, and the list that it sorts. -/
theorem selected_eq (tradeable : List CandidateInput) (remainingSlots : Int) :
    (selectEntryCandidates env state nowMs remainingSlots tradeable).1.selected =
      (keepFirst CandidateInput.symbol []
        (((rankedCandidates env state nowMs tradeable).insertionSort (SortsBefore env)).filter
          (mayBeChosen state.engine))).take (entrySelectionTarget remainingSlots) := by
  rw [selectEntryCandidates]
  dsimp only
  split_ifs with nothing
  · rw [nothing, List.take_zero]
  · exact chosen_eq _ _ (Nat.pos_of_ne_zero nothing)

/-! ## What a finalist has -/

/-- A finalist comes from a tradeable candidate that passes every gate, and nothing that the engine
holds takes its symbol or its pair. In a live engine its price was found in two fresh, valid books of
its own session, which can fill it both ways, and keeps to the thresholds. -/
structure Finalist (env : SelectionEnvironment) (state : SelectionState)
    (tradeable : List CandidateInput) (nowMs : Int) (candidate : CandidateInput) : Prop where
  source : ∃ original ∈ tradeable, SameIdentity original candidate ∧
    candidateIsTradeableForSelection env original = true ∧
    PassesGates env.config state.tracking state.blocks original nowMs ∧
    (TextCase.lower env.config.mode = "live" → ∃ longBook shortBook,
      entryL2OwnedReadyBooks env state original nowMs = some (longBook, shortBook) ∧
      executionSnapshotIsValid longBook env.config.entryLocalL2StaleAfterMs nowMs = true ∧
      executionSnapshotIsValid shortBook env.config.entryLocalL2StaleAfterMs nowMs = true ∧
      env.finalL2.WithinThresholds original candidate ∧
      env.finalL2.Affordable original longBook shortBook)
  symbolFree : candidate.symbol ∉ openPositionSymbols state.engine ∧
    candidate.symbol ∉ pendingEntrySymbols state.engine
  pairFree : hasPendingResidualPair state.engine (candidatePairId candidate.tracked) = false

/-- Without books there is no price. -/
theorem unpriced_without_books (finalL2 : FinalL2Environment)
    (options : FinalL2Environment.RepriceOptions) (candidate : CandidateInput) :
    (finalL2.repriceFinalL2Candidate none options candidate).1 = false := by
  rw [FinalL2Environment.repriceFinalL2Candidate]
  cases price : finalL2.finalL2Price none options (finalL2ClearRepriceBlockers candidate) with
  | error reason => rfl
  | ok priced =>
    unfold FinalL2Environment.finalL2Price at price
    split at price
    · cases price
    · cases price
    · cases price
    · next none => cases none

omit [TextCase] in
theorem finalBook_valid {books : LocalL2Runtime} {staleAfterMs : Int} {venue symbol : String}
    {book : LocalL2Book} (found : finalL2Book books staleAfterMs venue symbol nowMs = some book) :
    executionSnapshotIsValid book staleAfterMs nowMs = true := (Option.filter_eq_some_iff.mp found).2

/-- The books of a session are valid. -/
theorem owned_books_valid {candidate : CandidateInput} {longBook shortBook : LocalL2Book}
    (owned : entryL2OwnedReadyBooks env state candidate nowMs = some (longBook, shortBook)) :
    executionSnapshotIsValid longBook env.config.entryLocalL2StaleAfterMs nowMs = true ∧
      executionSnapshotIsValid shortBook env.config.entryLocalL2StaleAfterMs nowMs = true := by
  unfold entryL2OwnedReadyBooks entryL2SessionReadyBooks at owned
  dsimp only at owned
  split at owned
  · cases owned
  · split at owned
    · split at owned
      · cases owned
      · split at owned
        · next longFound shortFound =>
          obtain ⟨rfl, rfl⟩ := Prod.mk.inj (Option.some.inj owned)
          exact ⟨finalBook_valid longFound, finalBook_valid shortFound⟩
        · cases owned
    · cases owned

omit [TextCase] in
theorem valid_structure {book : LocalL2Book} {staleAfterMs : Int}
    (valid : executionSnapshotIsValid book staleAfterMs nowMs = true) :
    book.hasValidExecutionStructure = true := by
  rw [executionSnapshotIsValid, Bool.and_eq_true] at valid
  exact valid.2

theorem repriced_sound {original candidate : CandidateInput}
    (priced : repriced env state nowMs original = some candidate) :
    SameIdentity original candidate ∧ ∃ longBook shortBook,
      entryL2OwnedReadyBooks env state original nowMs = some (longBook, shortBook) ∧
      executionSnapshotIsValid longBook env.config.entryLocalL2StaleAfterMs nowMs = true ∧
      executionSnapshotIsValid shortBook env.config.entryLocalL2StaleAfterMs nowMs = true ∧
      env.finalL2.WithinThresholds original candidate ∧
      env.finalL2.Affordable original longBook shortBook := by
  rw [repriced] at priced
  split_ifs at priced with accepted
  obtain rfl := Option.some.inj priced
  refine ⟨(env.finalL2.reprice_settles _ {} original).identity, ?_⟩
  cases owned : entryL2OwnedReadyBooks env state original nowMs with
  | none =>
    rw [owned, unpriced_without_books] at accepted
    cases accepted
  | some books =>
    obtain ⟨longBook, shortBook⟩ := books
    obtain ⟨longValid, shortValid⟩ := owned_books_valid owned
    rw [owned] at accepted
    obtain ⟨within, _, price⟩ := FinalL2Environment.accepted_priced accepted
    exact ⟨longBook, shortBook, rfl, longValid, shortValid, within,
      FinalL2Environment.priced_affordable (valid_structure longValid) (valid_structure shortValid)
        price⟩

/-- Every candidate that may be chosen comes from one that passed the gates. -/
theorem ranked_source {tradeable : List CandidateInput} {candidate : CandidateInput}
    (ranked : candidate ∈ rankedCandidates env state nowMs tradeable) :
    ∃ original ∈ tradeable, passesGates env state nowMs original = true ∧
      (if TextCase.lower env.config.mode = "live" then
        repriced env state nowMs original = some candidate else candidate = original) := by
  rw [rankedCandidates] at ranked
  rw [gated_ranked] at ranked
  split_ifs at ranked ⊢ with live
  · rw [repriceFinalL2Candidates, List.mem_insertionSort, List.mem_filterMap] at ranked
    obtain ⟨original, member, priced⟩ := ranked
    obtain ⟨listed, passes⟩ := List.mem_filter.mp member
    exact ⟨original, listed, passes, priced⟩
  · obtain ⟨listed, passes⟩ := List.mem_filter.mp ranked
    exact ⟨candidate, listed, passes, rfl⟩

end Selection

/-! ## The order of the keys -/

/-- The floats of the key are numbers. -/
def SelectionKey.numeric (key : SelectionKey) : Bool :=
  key.score.isFinite && key.rankingEdgeBps.isFinite && key.worstCaseEdgeBps.isFinite

/-- The number that a float is. -/
def numberOf : ExactFloat → ℚ
  | .finite value => value
  | _ => 0

/-- A key as a tuple of ordered things. -/
def SelectionKey.ordered (key : SelectionKey) : ℚ ×ₗ ℚ ×ₗ ℚ ×ₗ String :=
  toLex (numberOf key.score, toLex (numberOf key.rankingEdgeBps,
    toLex (numberOf key.worstCaseEdgeBps, key.pairId)))

theorem finite_of_isFinite {value : ExactFloat} (finite : value.isFinite = true) :
    value = .finite (numberOf value) := by
  cases value with
  | finite exact => rfl
  | infinite negative => cases finite
  | notANumber => cases finite

theorem eq_finite (left right : ℚ) :
    (ExactFloat.finite left).eq (.finite right) = decide (left = right) := by
  rw [ExactFloat.eq, ExactFloat.le_finite, ExactFloat.le_finite, ← Bool.decide_and, decide_eq_decide]
  exact (le_antisymm_iff).symm

/-- Numeric keys are compared as tuples. -/
theorem keyLess_iff {left right : SelectionKey} (leftNumeric : left.numeric = true)
    (rightNumeric : right.numeric = true) :
    keyLess left right = true ↔ left.ordered < right.ordered := by
  rw [SelectionKey.numeric, Bool.and_eq_true, Bool.and_eq_true] at leftNumeric rightNumeric
  rw [keyLess, finite_of_isFinite leftNumeric.1.1, finite_of_isFinite leftNumeric.1.2,
    finite_of_isFinite leftNumeric.2, finite_of_isFinite rightNumeric.1.1,
    finite_of_isFinite rightNumeric.1.2, finite_of_isFinite rightNumeric.2]
  simp only [eq_finite, ExactFloat.lt_finite, SelectionKey.ordered, Prod.Lex.toLex_lt_toLex,
    Bool.not_eq_true', decide_eq_false_iff_not]
  split_ifs with scores rankings worsts
  · simp [scores, rankings, worsts]
  · simp [scores, rankings, worsts]
  · simp [scores, rankings]
  · simp [scores]

section Order

variable [TextCase] {env : SelectionEnvironment} {candidates : List CandidateInput}

/-- Numeric candidates are sorted by their keys. -/
theorem sortsBefore_iff {first second : CandidateInput}
    (firstNumeric : (candidateFinalSelectionSortKey env first).numeric = true)
    (secondNumeric : (candidateFinalSelectionSortKey env second).numeric = true) :
    SortsBefore env first second ↔ (candidateFinalSelectionSortKey env first).ordered ≤
      (candidateFinalSelectionSortKey env second).ordered := by
  rw [SortsBefore, ← Bool.not_eq_true, keyLess_iff secondNumeric firstNumeric, not_lt]

theorem sorts_ordered (numeric : ∀ candidate ∈ candidates,
    (candidateFinalSelectionSortKey env candidate).numeric = true) :
    OrderedOn (SortsBefore env) candidates where
  total first firstIn second secondIn := by
    rw [sortsBefore_iff (numeric first firstIn) (numeric second secondIn),
      sortsBefore_iff (numeric second secondIn) (numeric first firstIn)]
    exact le_total _ _
  trans first firstIn second secondIn third thirdIn := by
    rw [sortsBefore_iff (numeric first firstIn) (numeric second secondIn),
      sortsBefore_iff (numeric second secondIn) (numeric third thirdIn),
      sortsBefore_iff (numeric first firstIn) (numeric third thirdIn)]
    exact le_trans

/-- Two candidates with one key have one pair. -/
theorem sorts_pair {first second : CandidateInput}
    (firstNumeric : (candidateFinalSelectionSortKey env first).numeric = true)
    (secondNumeric : (candidateFinalSelectionSortKey env second).numeric = true)
    (ahead : SortsBefore env first second) (behind : SortsBefore env second first) :
    candidatePairId first.tracked = candidatePairId second.tracked := by
  rw [sortsBefore_iff firstNumeric secondNumeric] at ahead
  rw [sortsBefore_iff secondNumeric firstNumeric] at behind
  have same := congrArg (fun key => (ofLex (ofLex (ofLex key).2).2).2) (ahead.antisymm behind)
  exact same

variable {state : SelectionState} {nowMs : Int} {tradeable : List CandidateInput}

/-- The finalists are the best of what may be chosen, one for each symbol. -/
theorem selected_best (remainingSlots : Int)
    (numeric : ∀ candidate ∈ rankedCandidates env state nowMs tradeable,
      (candidateFinalSelectionSortKey env candidate).numeric = true) :
    (selectEntryCandidates env state nowMs remainingSlots tradeable).1.selected =
      bestPerKey (SortsBefore env) CandidateInput.symbol (entrySelectionTarget remainingSlots)
        ((rankedCandidates env state nowMs tradeable).filter (mayBeChosen state.engine)) := by
  rw [selected_eq, filter_insertionSort _ (sorts_ordered numeric), bestPerKey]

/-- What is left out of the finalists has a better one of its symbol among them, or they are as many
as are asked for and all better. -/
theorem finalists_optimal (remainingSlots : Int)
    (numeric : ∀ candidate ∈ rankedCandidates env state nowMs tradeable,
      (candidateFinalSelectionSortKey env candidate).numeric = true)
    (candidate : CandidateInput) (ranked : candidate ∈ rankedCandidates env state nowMs tradeable)
    (free : mayBeChosen state.engine candidate = true) :
    let finalists := (selectEntryCandidates env state nowMs remainingSlots tradeable).1.selected
    (∃ chosen ∈ finalists, chosen.symbol = candidate.symbol ∧
        (chosen = candidate ∨ SortsBefore env chosen candidate)) ∨
      (finalists.length = entrySelectionTarget remainingSlots ∧
        ∀ chosen ∈ finalists, SortsBefore env chosen candidate) := by
  intro finalists
  have best : finalists = _ := selected_best remainingSlots numeric
  rw [best]
  have ordered := sorts_ordered numeric
  exact best_optimal (ordered_subset ordered List.filter_sublist.subset)
    (List.mem_filter.mpr ⟨ranked, free⟩)

theorem ranked_perm {others : List CandidateInput} (same : tradeable.Perm others) :
    (rankedCandidates env state nowMs tradeable).Perm (rankedCandidates env state nowMs others) := by
  rw [rankedCandidates, rankedCandidates]
  rw [gated_ranked, gated_ranked]
  split_ifs
  · rw [repriceFinalL2Candidates, repriceFinalL2Candidates]
    exact (List.perm_insertionSort _ _).trans
      (((same.filter _).filterMap _).trans (List.perm_insertionSort _ _).symm)
  · exact same.filter _

/-- However a scan lists its candidates, the same ones are chosen in the same order. -/
theorem finalists_order_free (remainingSlots : Int) {others : List CandidateInput}
    (same : tradeable.Perm others)
    (numeric : ∀ candidate ∈ rankedCandidates env state nowMs tradeable,
      (candidateFinalSelectionSortKey env candidate).numeric = true)
    (distinct : ∀ first ∈ rankedCandidates env state nowMs tradeable,
      ∀ second ∈ rankedCandidates env state nowMs tradeable,
        candidatePairId first.tracked = candidatePairId second.tracked → first = second) :
    (selectEntryCandidates env state nowMs remainingSlots tradeable).1.selected =
      (selectEntryCandidates env state nowMs remainingSlots others).1.selected := by
  have listed : (rankedCandidates env state nowMs tradeable).Perm
      (rankedCandidates env state nowMs others) := ranked_perm same
  have numericOthers : ∀ candidate ∈ rankedCandidates env state nowMs others,
      (candidateFinalSelectionSortKey env candidate).numeric = true :=
    fun candidate member => numeric candidate (listed.symm.subset member)
  rw [selected_best remainingSlots numeric, selected_best remainingSlots numericOthers]
  refine best_perm (ordered_subset (sorts_ordered numeric) List.filter_sublist.subset) ?_
    (listed.filter _)
  intro first firstIn second secondIn ahead behind
  have firstRanked := List.mem_of_mem_filter firstIn
  have secondRanked := List.mem_of_mem_filter secondIn
  exact distinct first firstRanked second secondRanked
    (sorts_pair (numeric first firstRanked) (numeric second secondRanked) ahead behind)

end Order

def liveSelection : SelectionEnvironment where
  config :=
    { mode := "live"
      localL2Enabled := true
      minScanMinutesBeforeFunding := 1
      entryWindowSecs := 900
      entryLocalL2PrewarmWindowSecs := 900
      entryLocalL2StaleAfterMs := 10000 }
  finalL2 := plainEnvironment
  tradingCapabilityTrusted _ := true
  quotes := .empty

/-- The pair of the plain candidate is the only primary, and ready. -/
def readySelection : SelectionState where
  engine := {}
  tracking := @runTracking .ascii onePrimary [rankedScan "p" "q" 1000] {}
  books := narrowBooks

def shadowCandidate : CandidateInput := { plainCandidate with pairId := "q", symbol := "ETHUSDT" }

def pricedCandidate : CandidateInput :=
  (@FinalL2Environment.repriceFinalL2Candidate .ascii plainEnvironment
    (some (narrowBook "binance", narrowBook "okx")) {} plainCandidate).2

theorem ready_ranked : @rankedCandidates .ascii liveSelection readySelection 1200
    [shadowCandidate, plainCandidate] = [pricedCandidate] := by decide +kernel

theorem ready_numeric : ∀ candidate ∈ @rankedCandidates .ascii liveSelection readySelection 1200
    [shadowCandidate, plainCandidate],
      (@candidateFinalSelectionSortKey .ascii liveSelection candidate).numeric = true := by
  rw [ready_ranked]
  decide +kernel

/-- The shadow is held back, and the primary is chosen. -/
theorem finalists_optimal_ready :
    let finalists := (@selectEntryCandidates .ascii liveSelection readySelection 1200 1
      [shadowCandidate, plainCandidate]).1.selected
    (∃ chosen ∈ finalists, chosen.symbol = pricedCandidate.symbol ∧
        (chosen = pricedCandidate ∨ @SortsBefore .ascii liveSelection chosen pricedCandidate)) ∨
      (finalists.length = entrySelectionTarget 1 ∧
        ∀ chosen ∈ finalists, @SortsBefore .ascii liveSelection chosen pricedCandidate) :=
  @finalists_optimal .ascii liveSelection readySelection 1200 [shadowCandidate, plainCandidate] 1
    ready_numeric pricedCandidate (by rw [ready_ranked]; exact List.mem_cons_self) (by decide +kernel)

/-- Without local L2 both candidates pass. -/
def paperSelection : SelectionEnvironment :=
  { liveSelection with
    config := { liveSelection.config with mode := "paper", localL2Enabled := false } }

theorem paper_ranked : @rankedCandidates .ascii paperSelection readySelection 1200
    [shadowCandidate, plainCandidate] = [shadowCandidate, plainCandidate] := by decide +kernel

theorem finalists_order_free_paper :
    (@selectEntryCandidates .ascii paperSelection readySelection 1200 1
        [shadowCandidate, plainCandidate]).1.selected =
      (@selectEntryCandidates .ascii paperSelection readySelection 1200 1
        [plainCandidate, shadowCandidate]).1.selected := by
  apply @finalists_order_free .ascii paperSelection readySelection 1200
    [shadowCandidate, plainCandidate] 1 [plainCandidate, shadowCandidate] (List.Perm.swap _ _ _)
  · rw [paper_ranked]
    decide +kernel
  · rw [paper_ranked]
    decide +kernel

example : (@selectEntryCandidates .ascii liveSelection readySelection 1200 1
    [shadowCandidate, plainCandidate]).1.selected = [pricedCandidate] := by decide +kernel

end LightFee.Engine
