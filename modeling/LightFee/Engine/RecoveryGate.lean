import LightFee.Engine.RecoveryDecisionCore
import Mathlib.Tactic.Linarith

/-!
# What the recovery gate has proved

Entries are allowed, or an earlier block is cleared, only past the live-artifact
check and, under a latch, past the account proof. What these two have checked is
restated here over the rows and the claims themselves.
-/

namespace LightFee.Engine

open DynValue RecoveryEvidenceSnapshot

section Gate

variable [TextCase]

/-- The row's size lies beyond the bound, or cannot be read. -/
def Exceeds (bound : ℚ) (position : DynValue) : Prop :=
  ∀ quantity, finitePositionQuantity position = some quantity → bound < |quantity|

instance (bound : ℚ) (position : DynValue) : Decidable (Exceeds bound position) :=
  match read : finitePositionQuantity position with
  | none => isTrue (fun _ found => by simp [read] at found)
  | some quantity => decidable_of_iff (bound < |quantity|) (by simp [Exceeds, read])

omit [TextCase] in
theorem exceeds_iff {bound quantity : ℚ} {position : DynValue}
    (read : finitePositionQuantity position = some quantity) :
    Exceeds bound position ↔ bound < |quantity| := by
  simp [Exceeds, read]

/-! ## Past the checks -/

/-- Every release passes the live-artifact check and, under a latch, the proof. -/
theorem decide_releases {snapshot : RecoveryEvidenceSnapshot}
    (released : (Engine.decide snapshot).entryAllowed = true ∨
      (Engine.decide snapshot).clearPreviousBlock = true) :
    snapshot.liveArtifactBlockReason = none ∧
      ∀ reason ∈ snapshot.priorRecoveryBlockReason, reason ∈ accountTruthRequiredBlockReasons →
        snapshot.shouldClearCoreBlock = true := by
  unfold Engine.decide at released
  split at released
  · simp [blockingDecision] at released
  · split at released
    · simp [blockingDecision] at released
    · refine ⟨by assumption, fun reason prior latched => ?_⟩
      have latch : snapshot.priorRecoveryBlockReason.any
          accountTruthRequiredBlockReasons.contains = true := by
        rw [Option.mem_def.mp prior]
        simpa using latched
      by_contra unproven
      rw [Bool.not_eq_true] at unproven
      simp [latch, unproven, blockingDecision] at released

/-! ## Release of a latch -/

/-- The key of a row as the account proof reads it. -/
def rowKey (position : DynValue) : PositionKey :=
  (venueOf position, Venues.canonicalSymbolFromVenue (venueOf position) (symbolOf position),
    normalizedPositionSide (position.get "side" (.str "")))

/-- The legs of the rows beyond the bound. -/
def observedParts (bound : ℚ) (exchangeTruth : DynValue) : List (PositionKey × ℚ) :=
  ((exchangePositions exchangeTruth).filter (fun position => Exceeds bound position)).map
    (fun position => (rowKey position, |(finitePositionQuantity position).getD 0|))

/-- One leg of a local position: its key and its quantity, zero if it is no number. -/
def localPart (position : DynValue) (venueField quantityField side : String) : PositionKey × ℚ :=
  let venue := lowerText (position.get venueField (.str "")).unwrap
  ((venue, Venues.canonicalSymbolFromVenue venue (symbolOf position), side),
    match (position.get quantityField).toFloat? with
    | some (.finite quantity) => quantity
    | _ => 0)

def localParts (position : DynValue) : List (PositionKey × ℚ) :=
  [localPart position "long_venue" "long_quantity" "long",
    localPart position "short_venue" "short_quantity" "short"]

def expectedParts (snapshot : RecoveryEvidenceSnapshot) : List (PositionKey × ℚ) :=
  snapshot.localOpenPositions.items.flatMap localParts

/-- The rows beyond the bound are the local pairs: the same keys, quantities up to
the tolerance, and every pair balanced. -/
structure MatchesLocalPairs (bound : ℚ) (snapshot : RecoveryEvidenceSnapshot) : Prop where
  readable : ∀ position ∈ exchangePositions snapshot.exchangeTruth,
    (finitePositionQuantity position).isSome
  balanced : ∀ position ∈ snapshot.localOpenPositions.items, ∃ long short,
    (position.get "long_quantity").toFloat? = some (.finite long) ∧
      (position.get "short_quantity").toFloat? = some (.finite short) ∧
      |long - short| ≤ 1 / 10 ^ 6
  keys : ∀ key, key ∈ (observedParts bound snapshot.exchangeTruth).map Prod.fst ↔
    key ∈ (expectedParts snapshot).map Prod.fst
  quantities : ∀ key, |OrderedDict.total (observedParts bound snapshot.exchangeTruth) key -
    OrderedDict.total (expectedParts snapshot) key| ≤ 1 / 10 ^ 6

/-- The account-wide proof that releases a live-artifact latch. -/
structure AccountProof (bound : ℚ) (snapshot : RecoveryEvidenceSnapshot) : Prop where
  scope : truthScope snapshot.exchangeTruth = "account"
  supported : (snapshot.exchangeTruth.get "truth_supported").isTrue = true
  available : exchangeTruthAvailable snapshot.exchangeTruth = true
  withoutGap : hasPartialExchangeEvidence snapshot.exchangeTruth = false
  withoutOrders : exchangeOpenOrders snapshot.exchangeTruth = []
  positions : (∀ position ∈ exchangePositions snapshot.exchangeTruth, ¬ Exceeds bound position) ∨
    MatchesLocalPairs bound snapshot

omit [TextCase] in
theorem flat_iff (position : DynValue) :
    positionIsFlat position = true ↔ ¬ Exceeds epsilon position := by
  unfold positionIsFlat Exceeds
  cases finitePositionQuantity position with
  | none => simp
  | some quantity => simp

/-- A complete local pair has both of its parts, and they are balanced. -/
theorem local_pair_parts {position : DynValue} {legs : List (PositionKey × ℚ)}
    (complete : localPairLegs position = some legs) :
    legs = localParts position ∧ ∃ long short,
      (position.get "long_quantity").toFloat? = some (.finite long) ∧
        (position.get "short_quantity").toFloat? = some (.finite short) ∧
        |long - short| ≤ 1 / 10 ^ 6 := by
  have read {venueField quantityField : String} {leg : String × ℚ}
      (found : localLeg position venueField quantityField = some leg) :
      leg.1 = lowerText (position.get venueField (.str "")).unwrap ∧
        (position.get quantityField).toFloat? = some (.finite leg.2) := by
    unfold localLeg at found
    dsimp only at found
    split at found
    · split_ifs at found
      cases found
      exact ⟨rfl, by assumption⟩
    · cases found
  unfold localPairLegs at complete
  dsimp only at complete
  split_ifs at complete with unnamed
  split at complete
  · rename_i longVenue long shortVenue short foundLong foundShort
    split_ifs at complete with balanced
    rcases read foundLong with ⟨longVenueRead, longRead⟩
    rcases read foundShort with ⟨shortVenueRead, shortRead⟩
    dsimp only at longVenueRead longRead shortVenueRead shortRead
    subst longVenueRead shortVenueRead
    refine ⟨?_, long, short, longRead, shortRead, balanced⟩
    cases complete
    simp [localParts, localPart, longRead, shortRead]
  · cases complete

omit [TextCase] in
/-- A loop that stops at its first failure has read every item. -/
theorem flatten_mapM {f : DynValue → Option (List (PositionKey × ℚ))}
    {items : List DynValue} {parts : List (PositionKey × ℚ)}
    (done : (items.mapM f).map List.flatten = some parts) :
    parts = items.flatMap (fun item => (f item).getD []) ∧ ∀ item ∈ items, (f item).isSome := by
  induction items generalizing parts with
  | nil =>
      cases done
      exact ⟨rfl, by simp⟩
  | cons item rest ih =>
      rw [List.mapM_cons] at done
      cases first : f item with
      | none => simp [first] at done
      | some legs =>
          cases later : rest.mapM f with
          | none => simp [first, later] at done
          | some legsRest =>
              have done' : (rest.mapM f).map List.flatten = some legsRest.flatten := by rw [later]; rfl
              rcases ih done' with ⟨same, whole⟩
              simp only [first, later, bind_pure_comp, Option.map_eq_map, Option.bind_eq_bind,
                Option.bind_some, Option.map_some, Option.some.injEq] at done
              refine ⟨?_, ?_⟩
              · rw [← done, List.flatMap_cons, ← same, first]
                rfl
              · intro other member
                rcases List.mem_cons.mp member with here | inRest
                · rw [here, first]
                  rfl
                · exact whole other inRest

theorem expected_parts {snapshot : RecoveryEvidenceSnapshot} {legs : List (PositionKey × ℚ)}
    (complete : snapshot.expectedLegs = some legs) :
    legs = expectedParts snapshot ∧ ∀ position ∈ snapshot.localOpenPositions.items,
      ∃ long short, (position.get "long_quantity").toFloat? = some (.finite long) ∧
        (position.get "short_quantity").toFloat? = some (.finite short) ∧
        |long - short| ≤ 1 / 10 ^ 6 := by
  rcases flatten_mapM complete with ⟨same, whole⟩
  constructor
  · rw [same, expectedParts]
    apply List.flatMap_congr
    intro position member
    rcases Option.isSome_iff_exists.mp (whole position member) with ⟨pair, found⟩
    rw [found]
    exact (local_pair_parts found).1
  · intro position member
    rcases Option.isSome_iff_exists.mp (whole position member) with ⟨pair, found⟩
    exact (local_pair_parts found).2

theorem observed_parts {exchangeTruth : DynValue} {legs : List (PositionKey × ℚ)}
    (complete : observedLegs exchangeTruth = some legs) :
    legs = observedParts epsilon exchangeTruth ∧
      ∀ position ∈ exchangePositions exchangeTruth, (finitePositionQuantity position).isSome := by
  rcases flatten_mapM complete with ⟨same, whole⟩
  have read : ∀ position ∈ exchangePositions exchangeTruth,
      (finitePositionQuantity position).isSome ∧ (observedLeg position).getD [] =
        if Exceeds epsilon position then
          [(rowKey position, |(finitePositionQuantity position).getD 0|)] else [] := by
    intro position member
    have found := whole position member
    unfold observedLeg at found ⊢
    cases size : finitePositionQuantity position with
    | none => simp [size] at found
    | some quantity =>
        refine ⟨rfl, ?_⟩
        simp only [size] at found ⊢
        by_cases flat : |quantity| ≤ epsilon
        · rw [if_neg (fun beyond => absurd ((exceeds_iff size).mp beyond) (not_lt.mpr flat))]
          simp [flat]
        · rw [if_pos ((exceeds_iff size).mpr (not_le.mp flat))]
          rw [if_neg flat] at found ⊢
          split_ifs at found ⊢
          · cases found
          · rfl
  constructor
  · rw [same, observedParts, List.flatMap_congr (fun position member => (read position member).2)]
    induction exchangePositions exchangeTruth with
    | nil => rfl
    | cons position rest ih =>
        by_cases beyond : Exceeds epsilon position
        · simp [beyond, ih]
        · simp [beyond, ih]
  · intro position member
    exact (read position member).1

omit [TextCase] in
/-- Equal tallies up to the tolerance have the same keys and close totals. -/
theorem totals_match {expected observed : List (PositionKey × ℚ)}
    (matched : totalsMatch (OrderedDict.tally expected) (OrderedDict.tally observed) = true) :
    (∀ key, key ∈ observed.map Prod.fst ↔ key ∈ expected.map Prod.fst) ∧
      ∀ key, |OrderedDict.total observed key - OrderedDict.total expected key| ≤ 1 / 10 ^ 6 := by
  simp only [totalsMatch, Bool.and_eq_true, List.all_eq_true, decide_eq_true_eq] at matched
  rcases matched with ⟨⟨expectedObserved, observedExpected⟩, close⟩
  have found (parts : List (PositionKey × ℚ)) (key : PositionKey) :
      ((OrderedDict.tally parts).find? key).isSome ↔ key ∈ parts.map Prod.fst := by
    rw [OrderedDict.find_tally]
    split_ifs with known <;> simp [known]
  have keys : ∀ key, key ∈ observed.map Prod.fst ↔ key ∈ expected.map Prod.fst := by
    intro key
    constructor
    · intro member
      exact (found expected key).mp
        (observedExpected key ((OrderedDict.mem_tally_keys observed key).mpr member))
    · intro member
      exact (found observed key).mp
        (expectedObserved key ((OrderedDict.mem_tally_keys expected key).mpr member))
  refine ⟨keys, fun key => ?_⟩
  by_cases member : key ∈ expected.map Prod.fst
  · have entry : (key, OrderedDict.total expected key) ∈ (OrderedDict.tally expected).entries := by
      rw [OrderedDict.mem_entries, OrderedDict.find_tally, if_pos member]
    have near := close _ entry
    rw [OrderedDict.find_tally, if_pos ((keys key).mpr member)] at near
    exact near
  · rw [OrderedDict.total_absent member,
      OrderedDict.total_absent (fun known => member ((keys key).mp known))]
    norm_num

theorem matches_local_pairs {snapshot : RecoveryEvidenceSnapshot}
    (matched : snapshot.exchangeTruthMatchesLocalOpenPositions = true) :
    isCompleteAccountTruth snapshot.exchangeTruth = true ∧
      exchangeOpenOrders snapshot.exchangeTruth = [] ∧ MatchesLocalPairs epsilon snapshot := by
  simp only [exchangeTruthMatchesLocalOpenPositions, Bool.and_eq_true, List.isEmpty_iff] at matched
  rcases matched with ⟨⟨complete, withoutOrders⟩, pairs⟩
  refine ⟨complete, withoutOrders, ?_⟩
  split at pairs
  · cases pairs
  · rename_i expected expectedRead
    rw [Bool.and_eq_true] at pairs
    split at pairs
    · exact absurd pairs.2 (by simp)
    · rename_i observed observedRead
      rcases expected_parts expectedRead with ⟨rfl, balanced⟩
      rcases observed_parts observedRead with ⟨rfl, readable⟩
      rcases totals_match pairs.2 with ⟨keys, quantities⟩
      exact ⟨readable, balanced, keys, quantities⟩

/-- A latch is released by an account proof, with sizes up to the tolerance zero. -/
theorem latch_release_proof (snapshot : RecoveryEvidenceSnapshot)
    (latched : ∃ reason ∈ snapshot.priorRecoveryBlockReason,
      reason ∈ accountTruthRequiredBlockReasons)
    (released : (Engine.decide snapshot).entryAllowed = true ∨
      (Engine.decide snapshot).clearPreviousBlock = true) :
    AccountProof (1 / 10 ^ 9) snapshot := by
  rcases latched with ⟨reason, prior, required⟩
  have proven := (decide_releases released).2 reason prior required
  rw [shouldClearCoreBlock, Option.mem_def.mp prior] at proven
  simp only [List.contains_iff_mem, required, if_true, Bool.or_eq_true] at proven
  have parts : isCompleteAccountTruth snapshot.exchangeTruth = true ∧
      exchangeOpenOrders snapshot.exchangeTruth = [] ∧
      ((∀ position ∈ exchangePositions snapshot.exchangeTruth, ¬ Exceeds epsilon position) ∨
        MatchesLocalPairs epsilon snapshot) := by
    rcases proven with flat | matched
    · simp only [isCompleteAccountFlatTruth, Bool.and_eq_true, List.all_eq_true,
        List.isEmpty_iff] at flat
      rcases flat with ⟨⟨complete, positions⟩, withoutOrders⟩
      refine ⟨complete, withoutOrders, Or.inl ?_⟩
      intro position member
      exact (flat_iff position).mp (positions position member)
    · rcases matches_local_pairs matched with ⟨complete, withoutOrders, pairs⟩
      exact ⟨complete, withoutOrders, Or.inr pairs⟩
  rcases parts with ⟨complete, withoutOrders, positions⟩
  simp only [isCompleteAccountTruth, Bool.and_eq_true, decide_eq_true_eq,
    Bool.not_eq_true'] at complete
  rcases complete with ⟨⟨⟨⟨⟨scope, supported⟩, available⟩, withoutGap⟩, -⟩, -⟩
  exact ⟨scope, supported, available, withoutGap, withoutOrders, positions⟩

/-! ## Explained accounts -/

/-- Some row beyond the bound is on the key. -/
def LiveKey (bound : ℚ) (snapshot : RecoveryEvidenceSnapshot) (key : PositionKey) : Prop :=
  ∃ position ∈ exchangePositions snapshot.exchangeTruth,
    Exceeds bound position ∧ RecoveryOwnerIndex.positionKey position = key

instance (bound : ℚ) (snapshot : RecoveryEvidenceSnapshot) (key : PositionKey) :
    Decidable (LiveKey bound snapshot key) :=
  inferInstanceAs (Decidable (∃ position ∈ exchangePositions snapshot.exchangeTruth, _))

/-- Every order row is owned work; every row beyond the bound is alone on its key and
is what the claims on the key add up to; and an owner that is live on one key is
live on every key of its counted claims. -/
structure Explained (bound : ℚ) (counted : PositionKey → Prop)
    (snapshot : RecoveryEvidenceSnapshot) : Prop where
  orders : ∀ order ∈ exchangeOpenOrders snapshot.exchangeTruth,
    ∃ item ∈ snapshot.recoveryWorkItems.items,
      TextSearch.startsWith "owned_" (item.get "kind" (.str "")).text = true ∧
        ∃ artifact ∈ (item.get "artifacts" (.list [])).items,
          ∃ id ∈ orderIds artifact, id ∈ orderIds order
  unshared : ∀ position ∈ exchangePositions snapshot.exchangeTruth, Exceeds bound position →
    ((exchangePositions snapshot.exchangeTruth).map RecoveryOwnerIndex.positionKey).count
      (RecoveryOwnerIndex.positionKey position) = 1
  claimed : ∀ position ∈ exchangePositions snapshot.exchangeTruth, Exceeds bound position →
    ∃ quantity expected, finitePositionQuantity position = some quantity ∧
      (∀ claim ∈ snapshot.ownerIndex.claimsAt (RecoveryOwnerIndex.positionKey position),
        ∃ amount, claim.1 = .finite amount ∧ 0 ≤ amount) ∧
      ExactFloat.sum ((snapshot.ownerIndex.claimsAt
        (RecoveryOwnerIndex.positionKey position)).map Prod.fst) = .finite expected ∧
      |quantity - expected| ≤ 1 / 10 ^ 6
  paired : ∀ key other, ∀ claim ∈ snapshot.ownerIndex.claimsAt key,
    ∀ elsewhere ∈ snapshot.ownerIndex.claimsAt other, LiveKey bound snapshot key →
      elsewhere.2.identity = claim.2.identity → elsewhere.1 ≠ .finite 0 →
      other.2.2 ∈ ["long", "short"] → counted other → LiveKey bound snapshot other

/-! ### The index of local records -/

namespace RecoveryOwnerIndex

omit [TextCase] in
theorem facts_position (index : RecoveryOwnerIndex) (owner : RecoveryOwner)
    (venue symbol side : String) (quantity : ExactFloat) :
    (index.indexPosition owner venue symbol side quantity).journalPositionFacts =
      index.journalPositionFacts := by
  unfold indexPosition
  split_ifs <;> rfl

theorem facts_pending (index : RecoveryOwnerIndex) (openIds : List String) (pending : DynValue) :
    (addPendingEntry openIds index pending).journalPositionFacts = index.journalPositionFacts := by
  unfold addPendingEntry indexPendingEntryPositionKeys
  dsimp only
  split_ifs <;> simp [facts_position, indexOrderIds]

theorem facts_open (index : RecoveryOwnerIndex) (managed : List String) (position : DynValue) :
    (addOpenPosition managed index position).journalPositionFacts = index.journalPositionFacts := by
  simp [addOpenPosition, facts_position]

theorem facts_residual (index : RecoveryOwnerIndex) (openIds pendingIds : List String)
    (residual : DynValue) :
    (addResidualRepair openIds pendingIds index residual).journalPositionFacts =
      index.journalPositionFacts := by
  unfold addResidualRepair
  dsimp only
  split_ifs <;> simp [facts_position]

omit [TextCase] in
/-- A fold whose steps keep a reading keeps it. -/
theorem fold_keeps {Kept : Type} {add : RecoveryOwnerIndex → DynValue → RecoveryOwnerIndex}
    (read : RecoveryOwnerIndex → Kept) (keeps : ∀ index record, read (add index record) = read index)
    (records : List DynValue) (index : RecoveryOwnerIndex) :
    read (records.foldl add index) = read index := by
  induction records generalizing index with
  | nil => rfl
  | cons record rest ih =>
      rw [List.foldl_cons, ih, keeps]

/-- Local records bring no journal facts. -/
theorem facts_fromState (state : DynValue) : (fromState state).journalPositionFacts = [] := by
  unfold fromState addState
  rw [fold_keeps journalPositionFacts (fun index => facts_residual index _ _),
    fold_keeps journalPositionFacts (fun index => facts_open index _),
    fold_keeps journalPositionFacts (fun index => facts_pending index _)]

/-- Without journal facts, an owned position is what its claims add up to. -/
theorem owned_claims_match {index : RecoveryOwnerIndex} (withoutFacts : index.journalPositionFacts = [])
    {position : DynValue} (owned : (index.ownerForPosition position).confidence ≠ "orphan") :
    claimsMatch (index.claimsAt (positionKey position)) (floatOf (position.get "quantity" (.int 0))) =
      true := by
  have noFact : index.ownerForJournalPositionFact position = none := by
    unfold ownerForJournalPositionFact
    simp only [withoutFacts]
    split_ifs
    · rfl
    · split
      · split_ifs <;> rfl
      · rfl
  unfold ownerForPosition at owned
  dsimp only at owned
  split_ifs at owned with matched protectedClaim
  · simp only [Bool.and_eq_true] at matched
    exact matched.2
  · exact absurd rfl owned
  · rw [noFact] at owned
    exact absurd rfl owned

end RecoveryOwnerIndex

/-! ### Rows past the gate -/

omit [TextCase] in
/-- A readable quantity field is the row's size. -/
theorem size_of_quantity {position : DynValue} {quantity : ℚ}
    (read : RecoveryOwnerIndex.observedQuantity position = .finite quantity) :
    finitePositionQuantity position = some quantity := by
  have number : (position.get "quantity").toFloat? = some (.finite quantity) := by
    unfold RecoveryOwnerIndex.observedQuantity RecoveryOwnerIndex.floatOf at read
    cases converted : (position.get "quantity").toFloat? with
    | none => simp [converted] at read
    | some value => simpa [converted] using read
  have present : (position.get "quantity").isNull = false := by
    cases value : position.get "quantity" with
    | null => simp [value, toFloat?] at number
    | _ => rfl
  simp [finitePositionQuantity, present, number]

omit [TextCase] in
/-- A positive quantity does not come from the default. -/
theorem observed_of_positive {position : DynValue} {quantity : ℚ}
    (read : RecoveryOwnerIndex.floatOf (position.get "quantity" (.int 0)) = .finite quantity)
    (positive : 0 < quantity) : RecoveryOwnerIndex.observedQuantity position = .finite quantity := by
  unfold RecoveryOwnerIndex.observedQuantity
  unfold DynValue.get at read ⊢
  cases found : position.member? "quantity" with
  | some value => simpa [found] using read
  | none =>
      simp only [found, Option.getD_none, RecoveryOwnerIndex.floatOf, toFloat?, Option.getD_some,
        Int.cast_zero, ExactFloat.finite.injEq] at read
      exact absurd read positive.ne

/-- The checks behind an absent live-artifact reason. -/
theorem gate_checks {snapshot : RecoveryEvidenceSnapshot}
    (past : snapshot.liveArtifactBlockReason = none) :
    (∀ order ∈ exchangeOpenOrders snapshot.exchangeTruth,
      orderHasOwnedWork order snapshot.recoveryWorkItems.items = true) ∧
    (∀ row ∈ (exchangePositions snapshot.exchangeTruth).zip
      (snapshot.ownerIndex.ownersForPositions (exchangePositions snapshot.exchangeTruth)),
      positionBlocks row.1 row.2 = false) ∧
    (isCompleteAccountTruth snapshot.exchangeTruth = true →
      snapshot.ownerIndex.missingPositionClaims (exchangePositions snapshot.exchangeTruth) = []) := by
  unfold liveArtifactBlockReason at past
  dsimp only at past
  split at past
  · cases past
  · split at past
    · cases past
    · rename_i orders
      split_ifs at past with blocked missing
      refine ⟨?_, ?_, ?_⟩
      · intro order member
        simpa using List.find?_eq_none.mp orders order member
      · intro row member
        rw [Bool.not_eq_true, List.any_eq_false] at blocked
        exact Bool.eq_false_of_not_eq_true (blocked row member)
      · intro complete
        simpa [complete] using missing

/-- What the gate has checked of one row beyond the tolerance. -/
theorem row_past_gate {snapshot : RecoveryEvidenceSnapshot}
    (past : snapshot.liveArtifactBlockReason = none) {position : DynValue}
    (member : position ∈ exchangePositions snapshot.exchangeTruth)
    (beyond : Exceeds epsilon position) :
    ∃ quantity, RecoveryOwnerIndex.observedQuantity position = .finite quantity ∧
      epsilon < quantity ∧
      ((exchangePositions snapshot.exchangeTruth).map RecoveryOwnerIndex.positionKey).count
        (RecoveryOwnerIndex.positionKey position) = 1 ∧
      RecoveryOwnerIndex.claimsMatch
        (snapshot.ownerIndex.claimsAt (RecoveryOwnerIndex.positionKey position))
        (.finite quantity) = true := by
  let positions := exchangePositions snapshot.exchangeTruth
  let keys := positions.map RecoveryOwnerIndex.positionKey
  let ownerOf (row : DynValue) : RecoveryOwner :=
    if 1 < keys.count (RecoveryOwnerIndex.positionKey row) then
      { ownerType := "exchange_position", ownerId := (RecoveryOwnerIndex.positionKey row).2.1 }
    else snapshot.ownerIndex.ownerForPosition row
  have paired : (position, ownerOf position) ∈
      positions.zip (snapshot.ownerIndex.ownersForPositions positions) := by
    have zipped : positions.zip (snapshot.ownerIndex.ownersForPositions positions) =
        positions.map (fun row => (row, ownerOf row)) := by
      have both : (positions.map id).zip (positions.map ownerOf) =
          positions.map (fun row => (id row, ownerOf row)) := List.zip_map'
      rw [List.map_id] at both
      exact both
    rw [zipped]
    exact List.mem_map_of_mem member
  have passes := (gate_checks past).2.1 _ paired
  unfold positionBlocks at passes
  cases size : finitePositionQuantity position with
  | none => simp [size] at passes
  | some quantity =>
      have large := (exceeds_iff size).mp beyond
      simp only [size, large, decide_true, Bool.true_and, decide_eq_false_iff_not] at passes
      have single : ¬ 1 < keys.count (RecoveryOwnerIndex.positionKey position) := by
        intro shared
        simp [ownerOf, shared] at passes
      have once : keys.count (RecoveryOwnerIndex.positionKey position) = 1 := by
        have some : 0 < keys.count (RecoveryOwnerIndex.positionKey position) :=
          List.count_pos_iff.mpr (List.mem_map_of_mem member)
        omega
      have owned : (snapshot.ownerIndex.ownerForPosition position).confidence ≠ "orphan" := by
        simpa [ownerOf, single] using passes
      have matched := RecoveryOwnerIndex.owned_claims_match
        (RecoveryOwnerIndex.facts_fromState _) owned
      have checks := matched
      simp only [RecoveryOwnerIndex.claimsMatch, Bool.and_eq_true] at checks
      rcases checks with ⟨⟨⟨⟨finite, positive⟩, -⟩, -⟩, -⟩
      rcases ExactFloat.finite_of_isFinite finite with ⟨exact, read⟩
      rw [read] at positive matched
      simp only [ExactFloat.lt_finite, decide_eq_true_eq] at positive
      have observed := observed_of_positive read positive
      have same : quantity = exact := by
        have again := size_of_quantity observed
        rw [size] at again
        exact Option.some.inj again
      subst same
      rw [abs_of_pos positive] at large
      exact ⟨quantity, observed, large, once, matched⟩

/-- Rows beyond the tolerance are the observed ones. -/
theorem live_iff_observed {snapshot : RecoveryEvidenceSnapshot}
    (past : snapshot.liveArtifactBlockReason = none) (key : PositionKey) :
    LiveKey epsilon snapshot key ↔
      key ∈ RecoveryOwnerIndex.observedKeys (exchangePositions snapshot.exchangeTruth) := by
  simp only [RecoveryOwnerIndex.observedKeys, List.mem_map, List.mem_filter, Bool.and_eq_true]
  constructor
  · rintro ⟨position, member, beyond, rfl⟩
    rcases row_past_gate past member beyond with ⟨quantity, observed, large, -, -⟩
    refine ⟨position, ⟨member, ?_, ?_⟩, rfl⟩
    · rw [observed]
      rfl
    · rw [observed]
      simpa using large
  · rintro ⟨position, ⟨member, finite, large⟩, rfl⟩
    rcases ExactFloat.finite_of_isFinite finite with ⟨quantity, observed⟩
    rw [observed] at large
    simp only [ExactFloat.lt_finite, decide_eq_true_eq] at large
    refine ⟨position, member, ?_, rfl⟩
    rw [exceeds_iff (size_of_quantity observed)]
    exact large.trans_le (le_abs_self quantity)

omit [TextCase] in
/-- Matching claims are finite, not negative and add up to the quantity. -/
theorem claims_explain {claims : List PositionClaim} {quantity : ℚ}
    (matched : RecoveryOwnerIndex.claimsMatch claims (.finite quantity) = true) :
    (∀ claim ∈ claims, ∃ amount, claim.1 = .finite amount ∧ 0 ≤ amount) ∧
      ∃ expected, ExactFloat.sum (claims.map Prod.fst) = .finite expected ∧
        |quantity - expected| ≤ 1 / 10 ^ 6 := by
  simp only [RecoveryOwnerIndex.claimsMatch, Bool.and_eq_true, List.all_eq_true] at matched
  rcases matched with ⟨⟨⟨⟨-, -⟩, -⟩, usable⟩, close⟩
  constructor
  · intro claim member
    rcases usable claim member with ⟨⟨finite, nonnegative⟩, -⟩
    rcases ExactFloat.finite_of_isFinite finite with ⟨amount, read⟩
    rw [read] at nonnegative
    exact ⟨amount, read, by simpa using nonnegative⟩
  · exact ExactFloat.finite_of_near rfl close

omit [TextCase] in
theorem claims_entry {index : RecoveryOwnerIndex} {key : PositionKey} {claim : PositionClaim}
    (claimed : claim ∈ index.claimsAt key) :
    ∃ claims, (key, claims) ∈ index.positionsByKey.entries ∧ claim ∈ claims := by
  unfold RecoveryOwnerIndex.claimsAt at claimed
  cases found : index.positionsByKey.find? key with
  | none => simp [found] at claimed
  | some claims =>
      rw [found] at claimed
      exact ⟨claims, (OrderedDict.mem_entries _ _ _).mpr found, claimed⟩

/-- The recovery gate admits entries over complete account truth only when the
account is explained, up to the tolerance and for claims that name a venue. -/
theorem gate_explains_account (snapshot : RecoveryEvidenceSnapshot)
    (complete : isCompleteAccountTruth snapshot.exchangeTruth = true)
    (allowed : (Engine.decide snapshot).entryAllowed = true) :
    Explained (1 / 10 ^ 9) (fun key => key.1 ≠ "") snapshot := by
  have past := (decide_releases (Or.inl allowed)).1
  rcases gate_checks past with ⟨orders, -, missing⟩
  constructor
  · intro order member
    have owned := orders order member
    simp only [orderHasOwnedWork, List.any_eq_true, Bool.and_eq_true, List.contains_iff_mem] at owned
    rcases owned with ⟨item, inItems, named, artifact, inArtifacts, id, inArtifact, inOrder⟩
    exact ⟨item, inItems, named, artifact, inArtifacts, id, inArtifact, inOrder⟩
  · intro position member beyond
    rcases row_past_gate past member beyond with ⟨-, -, -, once, -⟩
    exact once
  · intro position member beyond
    rcases row_past_gate past member beyond with ⟨quantity, observed, -, -, matched⟩
    rcases claims_explain matched with ⟨usable, expected, summed, close⟩
    exact ⟨quantity, expected, size_of_quantity observed, usable, summed, close⟩
  · intro key other claim claimed elsewhere claimedElsewhere live same nonzero sided named
    have observed := (live_iff_observed past key).mp live
    apply (live_iff_observed past other).mpr
    by_contra dead
    rcases claims_entry claimed with ⟨claims, entry, inClaims⟩
    rcases claims_entry claimedElsewhere with ⟨others, otherEntry, inOthers⟩
    let positions := exchangePositions snapshot.exchangeTruth
    have liveOwner : claim.2.identity ∈
        snapshot.ownerIndex.liveOwners (RecoveryOwnerIndex.observedKeys positions) := by
      rw [RecoveryOwnerIndex.liveOwners, List.mem_flatMap]
      exact ⟨(key, claims), List.mem_filter.mpr ⟨entry, List.contains_iff_mem.mpr observed⟩,
        List.mem_map_of_mem inClaims⟩
    have unobserved : (!(RecoveryOwnerIndex.observedKeys positions).contains other) = true := by
      simpa using dead
    have nonzeroTest : elsewhere.1.eq (.finite 0) = false := by
      rw [← Bool.not_eq_true, ExactFloat.eq_finite_iff]
      exact nonzero
    have reported := missing complete
    rw [RecoveryOwnerIndex.missingPositionClaims, List.map_eq_nil_iff, List.filter_eq_nil_iff]
      at reported
    apply reported (other, others) otherEntry
    simp only [named, Bool.and_eq_true, List.any_eq_true, List.contains_iff_mem, ne_eq,
      not_false_eq_true, decide_true, true_and]
    refine ⟨⟨sided, unobserved⟩, elsewhere, inOthers, ?_, ?_⟩
    · simp [nonzeroTest]
    · rw [same]
      exact liveOwner

end Gate

/-! ## Concrete accounts -/

section Concrete

local instance : TextCase := .ascii

/-- A position row. -/
def positionRow (venue symbol side quantity : String) : DynValue :=
  .dict [("venue", .str venue), ("symbol", .str symbol), ("side", .str side),
    ("quantity", .str quantity)]

/-- Complete account truth without orders. -/
def accountTruth (positions : List DynValue) : DynValue :=
  .dict [("truth_scope", .str "account"), ("truth_supported", .bool true),
    ("truth_available", .bool true), ("positions", .list positions), ("open_orders", .list [])]

/-- A local pair with equal legs. -/
def localPair (symbol longVenue shortVenue quantity : String) : DynValue :=
  .dict [("position_id", .str "p1"), ("symbol", .str symbol), ("long_venue", .str longVenue),
    ("long_quantity", .str quantity), ("short_venue", .str shortVenue),
    ("short_quantity", .str quantity)]

/-- A pair whose short leg names no venue, with its long leg live. -/
def unnamedLegSnapshot : RecoveryEvidenceSnapshot where
  localOpenPositions := .list [localPair "BTC-USDT-SWAP" "okx" "" "1"]
  exchangeTruth := accountTruth [positionRow "okx" "BTC-USDT-SWAP" "long" "1"]

/-- A pair of which only dust is live, under a latch. -/
def dustSnapshot : RecoveryEvidenceSnapshot where
  localOpenPositions := .list [localPair "BTCUSDT" "okx" "bybit" "5"]
  exchangeTruth := accountTruth [positionRow "okx" "BTCUSDT" "long" "5e-10"]
  priorRecoveryBlockReason := some "unpaired_live_position"

/-- The same pair, of which both legs are live. -/
def pairedSnapshot : RecoveryEvidenceSnapshot :=
  { dustSnapshot with
    exchangeTruth := accountTruth [positionRow "okx" "BTCUSDT" "long" "5",
      positionRow "bybit" "BTCUSDT" "short" "5"] }

theorem gate_explains_live_leg : (Engine.decide unnamedLegSnapshot).entryAllowed = true ∧
    Explained (1 / 10 ^ 9) (fun key => key.1 ≠ "") unnamedLegSnapshot := by
  have allowed : (Engine.decide unnamedLegSnapshot).entryAllowed = true := by decide +kernel
  have complete : isCompleteAccountTruth unnamedLegSnapshot.exchangeTruth = true := by
    decide +kernel
  exact ⟨allowed, gate_explains_account unnamedLegSnapshot complete allowed⟩

/-- Entries are allowed beside a leg that names no venue and is not live, and beside
dust on a key that claims much more. -/
theorem gate_admits_unexplained :
    ((Engine.decide unnamedLegSnapshot).entryAllowed = true ∧
      isCompleteAccountTruth unnamedLegSnapshot.exchangeTruth = true ∧
      ¬ Explained 0 (fun _ => True) unnamedLegSnapshot ∧
      ¬ Explained (1 / 10 ^ 9) (fun _ => True) unnamedLegSnapshot) ∧
    ((Engine.decide dustSnapshot).entryAllowed = true ∧
      isCompleteAccountTruth dustSnapshot.exchangeTruth = true ∧
      ¬ Explained 0 (fun key => key.1 ≠ "") dustSnapshot) := by
  let owner : RecoveryOwner := ⟨"open_position", "p1", "proven"⟩
  have longClaim : (ExactFloat.finite 1, owner) ∈
      unnamedLegSnapshot.ownerIndex.claimsAt ("okx", "BTCUSDT", "long") := by decide +kernel
  have shortClaim : (ExactFloat.finite 1, owner) ∈
      unnamedLegSnapshot.ownerIndex.claimsAt ("", "BTC-USDT-SWAP", "short") := by decide +kernel
  refine ⟨⟨by decide +kernel, by decide +kernel, ?_, ?_⟩, by decide +kernel, by decide +kernel, ?_⟩
  · intro explained
    have live := explained.paired _ _ _ longClaim _ shortClaim (by decide +kernel) rfl
      (by decide +kernel) (by decide) trivial
    exact absurd live (by decide +kernel)
  · intro explained
    have live := explained.paired _ _ _ longClaim _ shortClaim (by decide +kernel) rfl
      (by decide +kernel) (by decide) trivial
    exact absurd live (by decide +kernel)
  · intro explained
    have present : 0 < (exchangePositions dustSnapshot.exchangeTruth).length := by decide +kernel
    have read : ∀ position ∈ exchangePositions dustSnapshot.exchangeTruth,
        Exceeds 0 position ∧ finitePositionQuantity position = some (5 / 10 ^ 10) ∧
          ExactFloat.sum ((dustSnapshot.ownerIndex.claimsAt
            (RecoveryOwnerIndex.positionKey position)).map Prod.fst) = .finite 5 := by
      decide +kernel
    rcases List.exists_mem_of_length_pos present with ⟨position, member⟩
    rcases read position member with ⟨beyond, size, sum⟩
    rcases explained.claimed position member beyond with
      ⟨quantity, expected, sizeAgain, -, sumAgain, close⟩
    rw [size, Option.some.injEq] at sizeAgain
    rw [sum, ExactFloat.finite.injEq] at sumAgain
    rw [← sizeAgain, ← sumAgain] at close
    norm_num at close

/-- A latch is released over dust, and over the pair that is expected. -/
theorem latch_release_pair :
    ((Engine.decide dustSnapshot).entryAllowed = true ∧ AccountProof (1 / 10 ^ 9) dustSnapshot) ∧
      (Engine.decide pairedSnapshot).entryAllowed = true ∧
        AccountProof (1 / 10 ^ 9) pairedSnapshot := by
  have dust : (Engine.decide dustSnapshot).entryAllowed = true := by decide +kernel
  have paired : (Engine.decide pairedSnapshot).entryAllowed = true := by decide +kernel
  exact ⟨⟨dust, latch_release_proof dustSnapshot
      ⟨"unpaired_live_position", rfl, by decide⟩ (Or.inl dust)⟩,
    paired, latch_release_proof pairedSnapshot
      ⟨"unpaired_live_position", rfl, by decide⟩ (Or.inl paired)⟩

/-- A latch is released over dust that no local pair expects. -/
theorem latch_released_over_dust :
    dustSnapshot.priorRecoveryBlockReason = some "unpaired_live_position" ∧
      (Engine.decide dustSnapshot).entryAllowed = true ∧ ¬ AccountProof 0 dustSnapshot := by
  refine ⟨rfl, by decide +kernel, ?_⟩
  intro proof
  rcases proof.positions with none | pairs
  · exact absurd none (by decide +kernel)
  · have expected := (pairs.keys ("bybit", "BTCUSDT", "short")).mpr (by decide +kernel)
    exact absurd expected (by decide +kernel)

end Concrete

end LightFee.Engine
