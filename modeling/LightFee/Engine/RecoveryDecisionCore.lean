import LightFee.Engine.RecoveryOwnerIndex

/-!
# The recovery decision

One snapshot of local records, work items and exchange truth is classified into
one decision: whether entries are allowed, and whether an earlier block is
cleared. The checks are ordered; the first that applies decides.
-/

namespace LightFee.Engine

open DynValue

variable [TextCase]

def liveArtifactBlockReasons : List String :=
  ["orphan_maker_order", "orphan_reduce_only_order", "unpaired_live_position",
    "owned_pending_entry_live_conflict"]

def staleRiskOnlyAccountTruthBlockReason : String := "stale_risk_only_requires_account_truth"

/-- A latch of these reasons is released by account truth only. -/
def accountTruthRequiredBlockReasons : List String :=
  liveArtifactBlockReasons ++ [staleRiskOnlyAccountTruthBlockReason]

def coreOwnedBlockReasons : List String :=
  ["exchange_truth_recovery_ledger_blocked", "truth_unavailable_for_required_recovery",
    "orphan_maker_order", "orphan_reduce_only_order", "unpaired_live_position",
    "owned_pending_entry_live_conflict", staleRiskOnlyAccountTruthBlockReason,
    "owned_recovery_work", "pending_residual_repair", "pending_passive_close",
    "owned_pending_entry"]

def coreClearableBlockReasons : List String :=
  coreOwnedBlockReasons ++ ["position_drift_correction_failed",
    "startup_recovery_pending_work_without_open_positions"]

inductive RecoveryEvidenceClass where
  | completeFlat | completeLiveArtifact | ownedRecoveryWork | orphanLiveArtifact
  | partialEvidenceGap | backgroundCloseReconciliation | truthUnavailableForRequiredRecovery
  | operatorFailClosed
deriving DecidableEq, Repr

def RecoveryEvidenceClass.value : RecoveryEvidenceClass → String
  | .completeFlat => "complete_flat"
  | .completeLiveArtifact => "complete_live_artifact"
  | .ownedRecoveryWork => "owned_recovery_work"
  | .orphanLiveArtifact => "orphan_live_artifact"
  | .partialEvidenceGap => "partial_evidence_gap"
  | .backgroundCloseReconciliation => "background_close_reconciliation"
  | .truthUnavailableForRequiredRecovery => "truth_unavailable_for_required_recovery"
  | .operatorFailClosed => "operator_fail_closed"

inductive RecoveryDecisionKind where
  | runningClean | runningWithEvidenceGap | riskOnlyWaitForTruth | manageOwnedRecoveryWork
  | blockOrFlattenLiveArtifact | operatorFailClosedPreserved
deriving DecidableEq, Repr

inductive RecoveryManagementAction where
  | none | waitForTruth | manageOwnedRecoveryWork | flattenOrBlockLiveArtifact
  | preserveOperatorFailClosed
deriving DecidableEq, Repr

structure RecoveryEvidenceSnapshot where
  localOpenPositions : DynValue := .list []
  pendingEntries : DynValue := .list []
  residualRepairs : DynValue := .list []
  passiveCloses : DynValue := .list []
  exchangeTruth : DynValue := .null
  priorRecoveryBlockReason : Option String := none
  operatorFailClosed : Bool := false
  operatorFailClosedReason : String := ""
  recoveryWorkItems : DynValue := .list []
  ownerEvidence : DynValue := .list []

structure RecoveryDecision where
  kind : RecoveryDecisionKind
  evidenceClass : RecoveryEvidenceClass
  entryAllowed : Bool
  blockReason : Option String := none
  clearPreviousBlock : Bool := false
  clearReason : Option String := none
  entryBlockReason : Option String := none
  recoveryWorkItems : DynValue := .list []
  diagnosticSeverity : String := "info"
  evidenceQuality : String := "complete_flat"
  journalEventName : String := "recovery.core.running_clean"
  maintenanceNote : String := ""
  managementAction : RecoveryManagementAction := .none

namespace RecoveryEvidenceSnapshot

/-! ## Local work -/

def itemKind (item : DynValue) : String := textOf (item.get "kind" (.str ""))

def itemBlocks (item : DynValue) : Bool := boolOf (item.get "blocking" (.bool true))

/-- The truth value of the flag itself, not of its text. -/
def hasBlockingRecoveryWorkItem (workItems : DynValue) : Bool :=
  workItems.items.any (fun item => (item.get "blocking" (.bool true)).truthy)

def hasLocalRecoveryWork (snapshot : RecoveryEvidenceSnapshot) : Bool :=
  hasItems snapshot.pendingEntries || hasItems snapshot.residualRepairs ||
    hasItems snapshot.passiveCloses || hasBlockingRecoveryWorkItem snapshot.recoveryWorkItems ||
    hasItems snapshot.ownerEvidence

def hasTruthRequiredRecoveryWorkItem (workItems : DynValue) : Bool :=
  workItems.items.any (fun item =>
    boolOf (item.get "requires_truth" (item.get "truth_required" (.bool false))))

def localPositionRequiresTruth (position : DynValue) : Bool :=
  ["requires_truth", "truth_required", "recovery_required", "reconcile_required",
    "needs_recovery"].any (fun key => boolOf (position.get key (.bool false)))

def hasTruthRequiredRecoveryContext (snapshot : RecoveryEvidenceSnapshot) : Bool :=
  hasTruthRequiredRecoveryWorkItem snapshot.recoveryWorkItems ||
    snapshot.localOpenPositions.items.any localPositionRequiresTruth

/-! ## Truth against local pairs -/

/-- One leg of a local pair: its venue and its positive quantity. -/
def localLeg (position : DynValue) (venueField quantityField : String) : Option (String × ℚ) :=
  let venue := lowerText (position.get venueField (.str "")).unwrap
  match (position.get quantityField).toFloat? with
  | some (.finite quantity) =>
    if venue = "" ∨ quantity ≤ epsilon then none else some (venue, quantity)
  | _ => none

/-- Both legs of a balanced local pair, by their position keys. -/
def localPairLegs (position : DynValue) : Option (List (PositionKey × ℚ)) :=
  let symbol := symbolOf position
  if symbol = "" then none
  else
    match localLeg position "long_venue" "long_quantity",
      localLeg position "short_venue" "short_quantity" with
    | some (longVenue, long), some (shortVenue, short) =>
      if |long - short| ≤ v1PairQuantityEpsilon then
        some [((longVenue, Venues.canonicalSymbolFromVenue longVenue symbol, "long"), long),
          ((shortVenue, Venues.canonicalSymbolFromVenue shortVenue symbol, "short"), short)]
      else none
    | _, _ => none

/-- What the local pairs expect, if every one is complete and balanced. -/
def expectedLegs (snapshot : RecoveryEvidenceSnapshot) : Option (List (PositionKey × ℚ)) :=
  (snapshot.localOpenPositions.items.mapM localPairLegs).map List.flatten

/-- The leg of a live row: nothing for a flat one, a failure for an unreadable one. -/
def observedLeg (position : DynValue) : Option (List (PositionKey × ℚ)) :=
  match finitePositionQuantity position with
  | none => none
  | some quantity =>
    if |quantity| ≤ epsilon then some []
    else
      let venue := venueOf position
      let symbol := symbolOf position
      let side := normalizedPositionSide (position.get "side" (.str ""))
      if venue = "" ∨ symbol = "" ∨ !(["long", "short"].contains side) then none
      else some [((venue, Venues.canonicalSymbolFromVenue venue symbol, side), |quantity|)]

def observedLegs (exchangeTruth : DynValue) : Option (List (PositionKey × ℚ)) :=
  ((exchangePositions exchangeTruth).mapM observedLeg).map List.flatten

/-- The same keys, and quantities up to the pair tolerance. -/
def totalsMatch (expected observed : OrderedDict PositionKey ℚ) : Bool :=
  (expected.entries.map Prod.fst).all (fun key => (observed.find? key).isSome) &&
    (observed.entries.map Prod.fst).all (fun key => (expected.find? key).isSome) &&
    expected.entries.all (fun (key, quantity) =>
      |(observed.find? key).getD 0 - quantity| ≤ v1PairQuantityEpsilon)

/-- Complete account truth shows every local pair and nothing else. -/
def exchangeTruthMatchesLocalOpenPositions (snapshot : RecoveryEvidenceSnapshot) : Bool :=
  isCompleteAccountTruth snapshot.exchangeTruth &&
    (exchangeOpenOrders snapshot.exchangeTruth).isEmpty &&
    (match snapshot.expectedLegs with
      | none => false
      | some expected =>
        !expected.isEmpty &&
          (match observedLegs snapshot.exchangeTruth with
            | none => false
            | some observed =>
              totalsMatch (OrderedDict.tally expected) (OrderedDict.tally observed)))

def shouldClearCoreBlock (snapshot : RecoveryEvidenceSnapshot) : Bool :=
  match snapshot.priorRecoveryBlockReason with
  | none => true
  | some reason =>
    if accountTruthRequiredBlockReasons.contains reason then
      isCompleteAccountFlatTruth snapshot.exchangeTruth ||
        snapshot.exchangeTruthMatchesLocalOpenPositions
    else coreClearableBlockReasons.contains reason

/-! ## Close reconciliation -/

/-- Nothing but close reconciliations, beside pairs that the truth confirms. -/
def hasOnlyCloseReconciliationWork (snapshot : RecoveryEvidenceSnapshot) : Bool :=
  let workItems := snapshot.recoveryWorkItems.items
  (snapshot.localOpenPositions.items.isEmpty || snapshot.exchangeTruthMatchesLocalOpenPositions) &&
    !hasItems snapshot.pendingEntries && !hasItems snapshot.residualRepairs &&
    !hasItems snapshot.passiveCloses && !hasItems snapshot.ownerEvidence &&
    workItems.any (fun item => itemKind item = "pending_close_reconciliation") &&
    workItems.all (fun item => itemKind item = "pending_close_reconciliation" || !itemBlocks item)

def backgroundCloseReconciliationDecision (snapshot : RecoveryEvidenceSnapshot) :
    RecoveryDecision where
  kind := .runningWithEvidenceGap
  evidenceClass := .backgroundCloseReconciliation
  entryAllowed := true
  clearPreviousBlock := snapshot.shouldClearCoreBlock
  clearReason := some "core_background_close_reconciliation"
  recoveryWorkItems := snapshot.recoveryWorkItems
  diagnosticSeverity := "warning"
  evidenceQuality := RecoveryEvidenceClass.backgroundCloseReconciliation.value
  journalEventName := "recovery.core.background_close_reconciliation"
  maintenanceNote := "Close-accounting reconciliation remains visible as background " ++
    "work; RecoveryLedger owns any pair-scoped entry block."

/-! ## Live artifacts -/

/-- An artifact of some owned work item shares an identity with the order. -/
def orderHasOwnedWork (order : DynValue) (workItems : List DynValue) : Bool :=
  workItems.any (fun item =>
    TextSearch.startsWith "owned_" (item.get "kind" (.str "")).text &&
      (item.get "artifacts" (.list [])).items.any (fun artifact =>
        (orderIds artifact).any (fun id => (orderIds order).contains id)))

/-- The owners that the snapshot's local records claim. -/
def ownerIndex (snapshot : RecoveryEvidenceSnapshot) : RecoveryOwnerIndex :=
  .fromState (.dict [("open_positions", snapshot.localOpenPositions),
    ("pending_entries", snapshot.pendingEntries),
    ("pending_residual_repairs", snapshot.residualRepairs),
    ("pending_passive_closes", snapshot.passiveCloses)])

/-- A row of an unreadable size, or a live one without an owner. -/
def positionBlocks (position : DynValue) (owner : RecoveryOwner) : Bool :=
  match finitePositionQuantity position with
  | none => true
  | some quantity => epsilon < |quantity| && owner.confidence = "orphan"

def liveArtifactBlockReason (snapshot : RecoveryEvidenceSnapshot) : Option String :=
  let workItems := snapshot.recoveryWorkItems.items
  match workItems.find? (fun item =>
    liveArtifactBlockReasons.contains (itemKind item) && itemBlocks item) with
  | some item => some (itemKind item)
  | none =>
    match (exchangeOpenOrders snapshot.exchangeTruth).find? (fun order =>
      !orderHasOwnedWork order workItems) with
    | some order =>
      some (if boolOf (order.get "reduce_only" (.bool false)) then "orphan_reduce_only_order"
        else "orphan_maker_order")
    | none =>
      let positions := exchangePositions snapshot.exchangeTruth
      if (positions.zip (snapshot.ownerIndex.ownersForPositions positions)).any (fun row =>
        positionBlocks row.1 row.2) then some "unpaired_live_position"
      else if isCompleteAccountTruth snapshot.exchangeTruth &&
          !(snapshot.ownerIndex.missingPositionClaims positions).isEmpty then
        some "unpaired_live_position"
      else none

end RecoveryEvidenceSnapshot

/-! ## The decision -/

/-- A decision that blocks entries for one reason. -/
def blockingDecision (snapshot : RecoveryEvidenceSnapshot) (kind : RecoveryDecisionKind)
    (evidenceClass : RecoveryEvidenceClass) (reason severity quality event note : String)
    (action : RecoveryManagementAction) : RecoveryDecision where
  kind := kind
  evidenceClass := evidenceClass
  entryAllowed := false
  blockReason := some reason
  entryBlockReason := some reason
  recoveryWorkItems := snapshot.recoveryWorkItems
  diagnosticSeverity := severity
  evidenceQuality := quality
  journalEventName := event
  maintenanceNote := note
  managementAction := action

/-- A text that is set. -/
def nonEmpty? (text : String) : Option String := if text = "" then none else some text

protected def decide (snapshot : RecoveryEvidenceSnapshot) : RecoveryDecision :=
  if snapshot.operatorFailClosed then
    let reason := ((nonEmpty? snapshot.operatorFailClosedReason).or
      (snapshot.priorRecoveryBlockReason.bind nonEmpty?)).getD "operator_fail_closed"
    blockingDecision snapshot .operatorFailClosedPreserved .operatorFailClosed reason "critical"
      RecoveryEvidenceClass.operatorFailClosed.value "recovery.core.operator_fail_closed_preserved"
      "Operator fail-closed state is preserved by policy." .preserveOperatorFailClosed
  else
    match snapshot.liveArtifactBlockReason with
    | some reason =>
      blockingDecision snapshot .blockOrFlattenLiveArtifact .orphanLiveArtifact reason "critical"
        RecoveryEvidenceClass.orphanLiveArtifact.value "recovery.core.live_artifact_blocked"
        ("Concrete exchange live artifacts fail safe until ownership " ++
          "or flatten policy resolves them.") .flattenOrBlockLiveArtifact
    | none =>
      let hasLocalWork := snapshot.hasLocalRecoveryWork
      let hasTruthRequiredWork := hasLocalWork || snapshot.hasTruthRequiredRecoveryContext
      let truthAvailable := exchangeTruthAvailable snapshot.exchangeTruth
      let onlyCloseReconciliationWork := snapshot.hasOnlyCloseReconciliationWork
      let latched := snapshot.priorRecoveryBlockReason.any accountTruthRequiredBlockReasons.contains
      if onlyCloseReconciliationWork && !latched then
        snapshot.backgroundCloseReconciliationDecision
      else
        let priorArtifactUnproven := latched && !snapshot.shouldClearCoreBlock
        if priorArtifactUnproven || (hasTruthRequiredWork && !truthAvailable) then
          let reason := if priorArtifactUnproven then snapshot.priorRecoveryBlockReason.getD ""
            else RecoveryEvidenceClass.truthUnavailableForRequiredRecovery.value
          blockingDecision snapshot .riskOnlyWaitForTruth .truthUnavailableForRequiredRecovery
            reason "warning" reason "recovery.core.truth_required_blocked"
            ("Recovery requires complete exchange proof before " ++
              "new entry risk can be admitted.") .waitForTruth
        else if onlyCloseReconciliationWork then
          snapshot.backgroundCloseReconciliationDecision
        else if hasLocalWork then
          blockingDecision snapshot .manageOwnedRecoveryWork .ownedRecoveryWork
            "owned_recovery_work" "warning" RecoveryEvidenceClass.ownedRecoveryWork.value
            "recovery.core.owned_work_managed"
            ("Local recovery work is managed before conflicting new " ++
              "entry risk is allowed.") .manageOwnedRecoveryWork
        else if !truthAvailable || hasPartialExchangeEvidence snapshot.exchangeTruth then
          { kind := .runningWithEvidenceGap
            evidenceClass := .partialEvidenceGap
            entryAllowed := true
            clearPreviousBlock := snapshot.shouldClearCoreBlock
            clearReason := some "core_evidence_gap_no_local_work"
            diagnosticSeverity := "warning"
            evidenceQuality := RecoveryEvidenceClass.partialEvidenceGap.value
            journalEventName := "recovery.core.running_with_evidence_gap"
            maintenanceNote := "Flat local state with only probe-quality gaps stays " ++
              "runtime-available while diagnostics report incomplete evidence." }
        else
          { kind := .runningClean
            evidenceClass := .completeFlat
            entryAllowed := true
            clearPreviousBlock := snapshot.shouldClearCoreBlock
            clearReason := some "core_running_clean"
            diagnosticSeverity := "info"
            evidenceQuality := RecoveryEvidenceClass.completeFlat.value
            journalEventName := "recovery.core.running_clean"
            maintenanceNote := "Core evidence proves no recovery block is required." }

end LightFee.Engine
