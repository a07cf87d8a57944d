import LightFee.Engine.RecoveryLedger
import Mathlib.Data.Finset.Lattice.Fold
import Mathlib.Data.Finset.Union

/-!
# Which obligations the ledger keeps

The obligations of one key end up in one work item, which has the flags of the
first and the venues and artifacts of all. A blocking obligation is represented
exactly when its group starts with a blocking one and adds no venue that narrows
the candidates it blocks.
-/

namespace LightFee.Engine

open DynValue

section Obligations

variable [TextCase]

/-- Every item handed to the merge, in order. -/
def obligations (localState exchangeTruth : DynValue) (ownerIndex : Option RecoveryOwnerIndex) :
    List RecoveryWorkItem :=
  let live := RecoveryLedger.liveObligations (RecoveryLedger.indexFor localState ownerIndex)
    localState exchangeTruth
  live ++ RecoveryLedger.closingObligations (addAllWork [] live) localState exchangeTruth

/-- The obligations that share a key. -/
def obligationGroup (all : List RecoveryWorkItem) (obligation : RecoveryWorkItem) :
    List RecoveryWorkItem :=
  KeyedMerge.group RecoveryWorkItem.key all obligation.key

/-- The venues that a group names. -/
def groupVenues (group : List RecoveryWorkItem) : Finset String :=
  group.toFinset.biUnion itemVenues

/-- A work item stands for an obligation: the same kind, symbol and owner, blocking,
with all of its venues and artifacts, and it blocks every candidate it would. -/
structure Represents (item obligation : RecoveryWorkItem) : Prop where
  key : item.key = obligation.key
  blocking : item.blocking = true
  venues : obligation.venues ⊆ item.venues
  artifacts : obligation.artifacts ⊆ item.artifacts
  candidates : ∀ candidate, recoveryWorkItemBlocksCandidate obligation candidate = true →
    recoveryWorkItemBlocksCandidate item candidate = true

/-- Some candidate of the symbol has exactly these venues. -/
def CandidateWith (symbol : String) (venues : Finset String) : Prop :=
  ∃ candidate, ledgerSymbol candidate = symbol ∧ venuesFromCandidate candidate = venues

/-- The group's venues block no fewer candidates than the obligation's own. -/
def VenuesKept (obligation : RecoveryWorkItem) (venues : Finset String) : Prop :=
  obligation.kind ∈ liveArtifactBlockReasons ∨ itemSymbol obligation = "" ∨
    if obligation.kind = "pending_close_reconciliation" then
      venues = itemVenues obligation ∨
        (itemVenues obligation ≠ ∅ ∧
          ¬ CandidateWith (itemSymbol obligation) (itemVenues obligation))
    else itemVenues obligation = ∅ → venues = ∅

/-- The group starts with a blocking obligation and keeps the venues' scope. -/
def GroupKeeps (group : List RecoveryWorkItem) (obligation : RecoveryWorkItem) : Prop :=
  (∃ first rest, group = first :: rest ∧ first.blocking = true) ∧
    VenuesKept obligation (groupVenues group)

/-! ## The merged item of a group -/

theorem work_items_eq (localState exchangeTruth : DynValue)
    (ownerIndex : Option RecoveryOwnerIndex) :
    (RecoveryLedger.fromLocalAndExchangeTruth localState exchangeTruth ownerIndex).workItems =
      addAllWork [] (obligations localState exchangeTruth ownerIndex) := by
  simp only [RecoveryLedger.fromLocalAndExchangeTruth, obligations, addAllWork, KeyedMerge.addAll,
    List.foldl_append]

omit [TextCase] in
theorem merge_key (first item : RecoveryWorkItem) : (first.merge item).key = first.key := rfl

omit [TextCase] in
/-- A merged item has the first one's flags and everything that any of them brings. -/
theorem merged_group (rest : List RecoveryWorkItem) (first : RecoveryWorkItem) :
    (rest.foldl RecoveryWorkItem.merge first).key = first.key ∧
      (rest.foldl RecoveryWorkItem.merge first).kind = first.kind ∧
      (rest.foldl RecoveryWorkItem.merge first).symbol = first.symbol ∧
      (rest.foldl RecoveryWorkItem.merge first).blocking = first.blocking ∧
      (∀ venue, venue ∈ (rest.foldl RecoveryWorkItem.merge first).venues ↔
        ∃ item ∈ first :: rest, venue ∈ item.venues) ∧
      (∀ artifact, artifact ∈ (rest.foldl RecoveryWorkItem.merge first).artifacts ↔
        ∃ item ∈ first :: rest, artifact ∈ item.artifacts) := by
  induction rest generalizing first with
  | nil => simp
  | cons item rest ih =>
      rcases ih (first.merge item) with
        ⟨key, kind, symbol, blocking, venues, artifacts⟩
      refine ⟨key, kind, symbol, blocking, fun venue => ?_, fun artifact => ?_⟩
      · rw [List.foldl_cons, venues]
        simp [RecoveryWorkItem.merge, or_assoc]
      · rw [List.foldl_cons, artifacts]
        simp [RecoveryWorkItem.merge, or_assoc]

omit [TextCase] in
/-- The work item of an obligation's key is its merged group. -/
theorem item_of_group {all : List RecoveryWorkItem} {obligation item : RecoveryWorkItem}
    {first : RecoveryWorkItem} {rest : List RecoveryWorkItem}
    (grouped : obligationGroup all obligation = first :: rest) :
    (item ∈ addAllWork [] all ∧ item.key = obligation.key) ↔
      item = rest.foldl RecoveryWorkItem.merge first := by
  have found := KeyedMerge.find_addAll_cons merge_key grouped
  have distinct : ((addAllWork [] all).map RecoveryWorkItem.key).Nodup :=
    KeyedMerge.addAll_distinct merge_key (by simp) all
  constructor
  · rintro ⟨member, same⟩
    have itself := KeyedMerge.find_of_mem distinct member
    rw [same] at itself
    exact Option.some.inj (itself.symm.trans found)
  · rintro rfl
    refine ⟨List.mem_of_find?_eq_some found, ?_⟩
    simpa using List.find?_some found

theorem merged_venues (first : RecoveryWorkItem) (rest : List RecoveryWorkItem) :
    itemVenues (rest.foldl RecoveryWorkItem.merge first) = groupVenues (first :: rest) := by
  have collected := (merged_group rest first).2.2.2.2.1
  ext venue
  simp only [itemVenues, groupVenues, Finset.mem_image, Finset.mem_filter, Finset.mem_biUnion,
    List.mem_toFinset, collected]
  constructor
  · rintro ⟨raw, ⟨⟨item, member, inItem⟩, named⟩, lowered⟩
    exact ⟨item, member, raw, ⟨inItem, named⟩, lowered⟩
  · rintro ⟨item, member, raw, ⟨inItem, named⟩, lowered⟩
    exact ⟨raw, ⟨⟨item, member, inItem⟩, named⟩, lowered⟩

theorem own_venues_subset {group : List RecoveryWorkItem} {obligation : RecoveryWorkItem}
    (member : obligation ∈ group) : itemVenues obligation ⊆ groupVenues group := by
  intro venue inOwn
  exact Finset.mem_biUnion.mpr ⟨obligation, List.mem_toFinset.mpr member, inOwn⟩

/-! ## The scope of an item -/

/-- Venues that block a candidate whose venues are these. -/
def ScopeBlocks (reconciliation : Prop) (venues candidateVenues : Finset String) : Prop :=
  candidateVenues = ∅ ∨ venues = ∅ ∨
    ((reconciliation ∧ candidateVenues = venues) ∨
      (¬ reconciliation ∧ candidateVenues ∩ venues ≠ ∅))

/-- A blocking item that is not global, over a candidate of its own symbol. -/
theorem blocks_own_symbol {item : RecoveryWorkItem} (blocking : item.blocking = true)
    (pairScoped : item.kind ∉ liveArtifactBlockReasons) (named : itemSymbol item ≠ "")
    {candidate : DynValue} (same : ledgerSymbol candidate = itemSymbol item) :
    recoveryWorkItemBlocksCandidate item candidate = true ↔
      ScopeBlocks (item.kind = "pending_close_reconciliation") (itemVenues item)
        (venuesFromCandidate candidate) := by
  simp only [recoveryWorkItemBlocksCandidate, blocking, Bool.not_true, Bool.false_eq_true, if_false,
    List.contains_iff_mem, pairScoped, named, ne_eq, not_false_eq_true, and_self, if_true, same, not_true_eq_false, ScopeBlocks]
  by_cases reconciliation : item.kind = "pending_close_reconciliation"
  · simp [reconciliation, or_assoc]
  · simp [reconciliation, or_assoc]

/-- Outside its own symbol an item blocks by its venues alone, or not at all. -/
theorem blocks_other_mono {item merged : RecoveryWorkItem} (blocking : merged.blocking = true)
    (sameKind : merged.kind = item.kind) (sameSymbol : itemSymbol merged = itemSymbol item)
    (venues : itemVenues item ⊆ itemVenues merged) {candidate : DynValue}
    (elsewhere : item.kind ∈ liveArtifactBlockReasons ∨ itemSymbol item = "" ∨
      ledgerSymbol candidate ≠ itemSymbol item)
    (blocks : recoveryWorkItemBlocksCandidate item candidate = true) :
    recoveryWorkItemBlocksCandidate merged candidate = true := by
  have wider : venuesFromCandidate candidate ∩ itemVenues item ≠ ∅ →
      venuesFromCandidate candidate ∩ itemVenues merged ≠ ∅ := by
    intro meets none
    apply meets
    apply Finset.subset_empty.mp
    rw [← none]
    exact Finset.inter_subset_inter_left venues
  simp only [recoveryWorkItemBlocksCandidate, blocking, sameKind, sameSymbol] at blocks ⊢
  by_cases global : item.kind ∈ liveArtifactBlockReasons
  · simp [global]
  · by_cases both : ledgerSymbol candidate ≠ "" ∧ itemSymbol item ≠ ""
    · have different : ledgerSymbol candidate ≠ itemSymbol item := by
        rcases elsewhere with isGlobal | unnamed | different
        · exact absurd isGlobal global
        · exact absurd unnamed both.2
        · exact different
      simp [global, both, different] at blocks
    · simp only [List.contains_iff_mem, global, both, if_false, Bool.not_true, Bool.false_eq_true,
        decide_eq_true_eq] at blocks ⊢
      split_ifs at blocks with silent
      exact wider (of_decide_eq_true blocks)

/-! ## Candidates of a fresh venue -/

/-- A candidate of the item's symbol at one venue. -/
def candidateAt (item : RecoveryWorkItem) (venue : String) : DynValue :=
  .dict [("symbol", .str item.symbol), ("long_venue", .str venue)]

theorem lower_empty : TextCase.lower "" = "" := TextCase.lower_plain "" (by simp)

theorem candidate_at_symbol (item : RecoveryWorkItem) (venue : String) :
    ledgerSymbol (candidateAt item venue) = itemSymbol item := by
  simp [ledgerSymbol, itemSymbol, candidateAt, venueOf, DynValue.get, member?,
    OrderedDict.lookupEntries, unwrap, textOf_str]

theorem candidate_at_venues (item : RecoveryWorkItem) {venue : String} (named : venue ≠ "")
    (plain : TextCase.lower venue = venue) :
    venuesFromCandidate (candidateAt item venue) = {venue} := by
  have fields : ledgerVenues (candidateAt item venue) ["venue", "long_venue", "short_venue"] =
      ["", venue, ""] := by
    simp [ledgerVenues, ledgerVenueFromKey, candidateAt, DynValue.get, member?,
      OrderedDict.lookupEntries, unwrap, lowerText, textOf_str, lower_empty, plain]
  rw [venuesFromCandidate, fields]
  simp [namedVenues, named]

/-- There is always another venue name. -/
theorem exists_fresh_venue (venues : Finset String) :
    ∃ venue, venue ≠ "" ∧ TextCase.lower venue = venue ∧ venue ∉ venues := by
  let size := venues.sup String.length
  let fresh := String.ofList (List.replicate (size + 1) 'x')
  have long : fresh.length = size + 1 := by simp [fresh]
  refine ⟨fresh, ?_, ?_, ?_⟩
  · intro empty
    rw [empty] at long
    simp at long
  · apply TextCase.lower_plain
    intro c member
    have isX : c = 'x' := by simpa [fresh] using member
    rw [isX]
    decide
  · intro member
    have bounded : fresh.length ≤ size := Finset.le_sup member
    omega

/-! ## When a merge narrows nothing -/

/-- Widening the venues of an item keeps the candidates it blocks exactly when the
scope of its venues is kept. -/
theorem candidates_kept_iff {item merged : RecoveryWorkItem} (blocking : item.blocking = true)
    (mergedBlocking : merged.blocking = true) (sameKind : merged.kind = item.kind)
    (sameSymbol : itemSymbol merged = itemSymbol item)
    (venues : itemVenues item ⊆ itemVenues merged) :
    (∀ candidate, recoveryWorkItemBlocksCandidate item candidate = true →
      recoveryWorkItemBlocksCandidate merged candidate = true) ↔
      VenuesKept item (itemVenues merged) := by
  by_cases exempt : item.kind ∈ liveArtifactBlockReasons ∨ itemSymbol item = ""
  · have kept : VenuesKept item (itemVenues merged) := by
      rcases exempt with global | unnamed
      · exact Or.inl global
      · exact Or.inr (Or.inl unnamed)
    refine ⟨fun _ => kept, fun _ candidate blocks => ?_⟩
    apply blocks_other_mono mergedBlocking sameKind sameSymbol venues _ blocks
    exact exempt.elim Or.inl (fun unnamed => Or.inr (Or.inl unnamed))
  · push Not at exempt
    rcases exempt with ⟨pairScoped, named⟩
    have mergedScoped : merged.kind ∉ liveArtifactBlockReasons := by rwa [sameKind]
    have mergedNamed : itemSymbol merged ≠ "" := by rwa [sameSymbol]
    have own {candidate : DynValue} (same : ledgerSymbol candidate = itemSymbol item) :=
      blocks_own_symbol blocking pairScoped named same
    have wide {candidate : DynValue} (same : ledgerSymbol candidate = itemSymbol item) :=
      blocks_own_symbol mergedBlocking mergedScoped mergedNamed (same.trans sameSymbol.symm)
    rw [sameKind] at wide
    -- A candidate of a fresh venue tells an unscoped item from a scoped one.
    have unscoped (keeps : ∀ candidate, recoveryWorkItemBlocksCandidate item candidate = true →
        recoveryWorkItemBlocksCandidate merged candidate = true) (empty : itemVenues item = ∅) :
        itemVenues merged = ∅ := by
      rcases exists_fresh_venue (itemVenues merged) with ⟨venue, namedVenue, plain, fresh⟩
      have atVenue := candidate_at_venues item namedVenue plain
      have blocked := keeps (candidateAt item venue)
        ((own (candidate_at_symbol item venue)).mpr (Or.inr (Or.inl empty)))
      rcases (wide (candidate_at_symbol item venue)).mp blocked with none | none | ⟨-, same⟩ | ⟨-, meets⟩
      · rw [atVenue] at none
        exact absurd none (Finset.singleton_ne_empty venue)
      · exact none
      · rw [atVenue] at same
        exact absurd (same ▸ Finset.mem_singleton_self venue) fresh
      · rw [atVenue, Finset.singleton_inter_of_notMem fresh] at meets
        exact absurd rfl meets
    constructor
    · intro keeps
      refine Or.inr (Or.inr ?_)
      split_ifs with reconciliation
      · by_cases empty : itemVenues item = ∅
        · exact Or.inl ((unscoped keeps empty).trans empty.symm)
        · by_contra narrowed
          push Not at narrowed
          rcases narrowed with ⟨different, realized⟩
          rcases realized (Finset.nonempty_iff_ne_empty.mpr empty) with ⟨candidate, symbol, exactly⟩
          have blocked := keeps candidate ((own symbol).mpr
            (Or.inr (Or.inr (Or.inl ⟨reconciliation, exactly⟩))))
          rcases (wide symbol).mp blocked with none | none | ⟨-, same⟩ | ⟨other, -⟩
          · exact empty (exactly.symm.trans none)
          · exact empty (Finset.subset_empty.mp (none ▸ venues))
          · exact different (same.symm.trans exactly)
          · exact other reconciliation
      · exact unscoped keeps
    · intro kept candidate blocks
      by_cases symbol : ledgerSymbol candidate = itemSymbol item
      · have narrow := (own symbol).mp blocks
        apply (wide symbol).mpr
        rcases kept with global | unnamed | kept
        · exact absurd global pairScoped
        · exact absurd unnamed named
        · split_ifs at kept with reconciliation
          · rcases kept with same | ⟨nonempty, unrealized⟩
            · rw [same]
              exact narrow
            · rcases narrow with none | none | ⟨-, exactly⟩ | ⟨other, -⟩
              · exact Or.inl none
              · exact absurd none nonempty
              · exact absurd ⟨candidate, symbol, exactly⟩ unrealized
              · exact absurd reconciliation other
          · rcases narrow with none | none | ⟨same, -⟩ | ⟨-, meets⟩
            · exact Or.inl none
            · exact Or.inr (Or.inl (kept none))
            · exact absurd same reconciliation
            · refine Or.inr (Or.inr (Or.inr ⟨reconciliation, fun none => meets ?_⟩))
              exact Finset.subset_empty.mp (none ▸ Finset.inter_subset_inter_left venues)
      · exact blocks_other_mono mergedBlocking sameKind sameSymbol venues
          (Or.inr (Or.inr symbol)) blocks

/-- The ledger represents every blocking obligation exactly when each one's group
starts with a blocking obligation and keeps the scope of its venues. -/
theorem obligations_represented_iff (localState exchangeTruth : DynValue)
    (ownerIndex : Option RecoveryOwnerIndex) :
    (∀ obligation ∈ obligations localState exchangeTruth ownerIndex, obligation.blocking = true →
      ∃ item ∈ (RecoveryLedger.fromLocalAndExchangeTruth localState exchangeTruth
        ownerIndex).workItems, Represents item obligation) ↔
    ∀ obligation ∈ obligations localState exchangeTruth ownerIndex, obligation.blocking = true →
      GroupKeeps (obligationGroup (obligations localState exchangeTruth ownerIndex) obligation)
        obligation := by
  rw [work_items_eq]
  refine forall₃_congr (fun obligation member blocking => ?_)
  have inGroup : obligation ∈
      obligationGroup (obligations localState exchangeTruth ownerIndex) obligation :=
    List.mem_filter.mpr ⟨member, by simp⟩
  rcases grouped : obligationGroup (obligations localState exchangeTruth ownerIndex) obligation with
    _ | ⟨first, rest⟩
  · rw [grouped] at inGroup
    exact absurd inGroup List.not_mem_nil
  · rw [grouped] at inGroup
    rcases merged_group rest first with ⟨key, kind, symbol, flag, venues, artifacts⟩
    have firstKey : first.key = obligation.key := by
      have inFirst : first ∈ obligationGroup (obligations localState exchangeTruth ownerIndex)
          obligation := by
        rw [grouped]
        exact List.mem_cons_self
      simpa using (List.mem_filter.mp inFirst).2
    have sameKind : first.kind = obligation.kind := congrArg Prod.fst firstKey
    have sameSymbol : first.symbol = obligation.symbol :=
      congrArg (fun parts => parts.2.1) firstKey
    have ownSymbol : itemSymbol (rest.foldl RecoveryWorkItem.merge first) = itemSymbol obligation := by
      rw [itemSymbol, itemSymbol, symbol, sameSymbol]
    have wider := own_venues_subset inGroup
    rw [← merged_venues] at wider
    constructor
    · rintro ⟨item, inItems, represents⟩
      have isMerged := (item_of_group grouped).mp ⟨inItems, represents.key⟩
      subst isMerged
      refine ⟨⟨first, rest, rfl, flag.symm.trans represents.blocking⟩, ?_⟩
      rw [← merged_venues]
      exact (candidates_kept_iff blocking represents.blocking (kind.trans sameKind) ownSymbol
        wider).mp represents.candidates
    · rintro ⟨⟨head, tail, same, headBlocks⟩, kept⟩
      cases same
      rcases (item_of_group grouped).mpr rfl with ⟨inItems, itemKey⟩
      refine ⟨_, inItems, itemKey, flag.trans headBlocks, ?_, ?_, ?_⟩
      · intro venue inOwn
        exact (venues venue).mpr ⟨obligation, inGroup, inOwn⟩
      · intro artifact inOwn
        exact (artifacts artifact).mpr ⟨obligation, inGroup, inOwn⟩
      · rw [← merged_venues] at kept
        exact (candidates_kept_iff blocking (flag.trans headBlocks) (kind.trans sameKind) ownSymbol
          wider).mpr kept

end Obligations

section Concrete

local instance plainText : TextCase := .ascii

/-- Complete account truth without a row. -/
def flatAccountTruth : DynValue :=
  .dict [("truth_scope", .str "account"), ("truth_supported", .bool true),
    ("truth_available", .bool true), ("positions", .list []), ("open_orders", .list [])]

/-- A close reconciliation of one pair, terminal or not. -/
def reconciliationRecord (status : String) : DynValue :=
  .dict [("position_id", .str "p1"), ("symbol", .str "BTCUSDT"), ("long_venue", .str "okx"),
    ("short_venue", .str "bybit"), ("reconciliation_status", .str status)]

/-- A terminal debt before an open reconciliation of the same position. -/
def debtBeforeReconciliation : DynValue :=
  .dict [("pending_close_reconciliations",
    .list [reconciliationRecord "evidence_debt", reconciliationRecord "pending"])]

/-- The open reconciliation blocks its pair; the ledger lets it pass. -/
theorem blocking_reconciliation_lost :
    ∃ obligation ∈ obligations debtBeforeReconciliation flatAccountTruth none,
      obligation.blocking = true ∧
        ¬ ∃ item ∈ (RecoveryLedger.fromLocalAndExchangeTruth debtBeforeReconciliation
          flatAccountTruth).workItems, Represents item obligation := by
  refine ⟨closeReconciliationItem flatAccountTruth 1 (reconciliationRecord "pending"),
    by decide +kernel, by decide +kernel, ?_⟩
  rintro ⟨item, member, represents⟩
  have silent : ∀ item ∈ (RecoveryLedger.fromLocalAndExchangeTruth debtBeforeReconciliation
      flatAccountTruth).workItems, item.blocking = false := by decide +kernel
  have blocks := represents.blocking
  rw [silent item member] at blocks
  cases blocks

end Concrete

end LightFee.Engine
