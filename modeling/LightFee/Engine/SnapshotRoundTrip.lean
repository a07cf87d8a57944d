import LightFee.Engine.SnapshotRecords

/-!
# States through a snapshot

A state that is stored and restored comes back as `afterRestart`, an explicit
state. What is left of it is compared with the stored state: entries lose the fees
of their legs, and labels that are empty take their defaults.
-/

namespace LightFee.Engine

open LightFee.Venues SnapshotValue

/-! ## What is lost -/

/-- The fields of an entry that a snapshot carries. -/
structure PendingEntry.Survives (pending : PendingEntry ExactFloat) : Prop where
  makerFee : pending.makerFeeQuote = none
  hedgeFee : pending.hedgeFeeQuote = none
  opportunity : pending.opportunityType ≠ ""
  reposts : pending.repostCount = 0 → pending.repostAttemptCount = 0
  phases : ∀ phase, pending.phaseState = some phase →
    phase.executionKind ≠ "" ∧ phase.preferredMakerLeg ≠ "" ∧ phase.activeMakerLeg ≠ "" ∧
      phase.phase ≠ ""

/-- A text survives its default exactly when it is not empty. -/
theorem orDefault_iff {text default : String} (named : default ≠ "") :
    (if text = "" then default else text) = text ↔ text ≠ "" := by
  constructor
  · intro same empty
    rw [if_pos empty, empty] at same
    exact named same
  · intro nonempty
    rw [if_neg nonempty]

theorem phaseState_survives (state : PendingEntryPassivePhaseState) :
    state.afterRestart = state ↔
      state.executionKind ≠ "" ∧ state.preferredMakerLeg ≠ "" ∧ state.activeMakerLeg ≠ "" ∧
        state.phase ≠ "" := by
  constructor
  · intro same
    refine ⟨?kind, ?preferred, ?active, ?phase⟩
    case kind =>
      exact (orDefault_iff (by decide)).mp
        (congrArg PendingEntryPassivePhaseState.executionKind same)
    case preferred =>
      exact (orDefault_iff (by decide)).mp
        (congrArg PendingEntryPassivePhaseState.preferredMakerLeg same)
    case active =>
      exact (orDefault_iff (by decide)).mp
        (congrArg PendingEntryPassivePhaseState.activeMakerLeg same)
    case phase =>
      exact (orDefault_iff (by decide)).mp (congrArg PendingEntryPassivePhaseState.phase same)
  · rintro ⟨kind, preferred, active, phase⟩
    rw [PendingEntryPassivePhaseState.afterRestart, if_neg kind, if_neg preferred, if_neg active,
      if_neg phase]

/-- Writing back what a record already holds changes nothing. -/
theorem pendingEntry_rewritten (pending : PendingEntry ExactFloat) {makerFee hedgeFee}
    {opportunity phases reposts} (maker : makerFee = pending.makerFeeQuote)
    (hedge : hedgeFee = pending.hedgeFeeQuote) (kind : opportunity = pending.opportunityType)
    (phase : phases = pending.phaseState) (repost : reposts = pending.repostCount) :
    { pending with
      makerFeeQuote := makerFee
      hedgeFeeQuote := hedgeFee
      opportunityType := opportunity
      phaseState := phases
      repostCount := reposts } = pending := by
  subst maker hedge kind phase repost
  rfl

theorem pendingEntry_survives (pending : PendingEntry ExactFloat) :
    pending.afterRestart = pending ↔ pending.Survives := by
  constructor
  · intro same
    constructor
    case makerFee => exact (congrArg PendingEntry.makerFeeQuote same).symm
    case hedgeFee => exact (congrArg PendingEntry.hedgeFeeQuote same).symm
    case opportunity =>
      exact (orDefault_iff (by decide)).mp (congrArg PendingEntry.opportunityType same)
    case reposts =>
      intro none
      have count : (if pending.repostCount = 0 then pending.repostAttemptCount
          else pending.repostCount) = pending.repostCount :=
        congrArg PendingEntry.repostCount same
      rw [if_pos none, none] at count
      exact count
    case phases =>
      intro phase stored
      have back : pending.phaseState.map PendingEntryPassivePhaseState.afterRestart =
          pending.phaseState := congrArg PendingEntry.phaseState same
      rw [stored, Option.map_some, Option.some_inj] at back
      exact (phaseState_survives phase).mp back
  · rintro ⟨makerFee, hedgeFee, opportunity, reposts, phases⟩
    apply pendingEntry_rewritten pending makerFee.symm hedgeFee.symm (if_neg opportunity)
    · cases stored : pending.phaseState with
      | none => rfl
      | some phase =>
        rw [Option.map_some, (phaseState_survives phase).mpr (phases phase stored)]
    · split_ifs with none
      · rw [reposts none, none]
      · rfl

/-- A passive close with the restored position of its id, when there is one. -/
def PendingPassiveClose.withPosition (positions : OrderedDict String OpenPosition)
    (close : PendingPassiveClose) : PendingPassiveClose :=
  { close with
    positionSnapshot := (positions.find? close.positionId).or close.positionSnapshot }

structure PendingPassiveClose.Survives (id : String) (close : PendingPassiveClose) : Prop where
  owner : close.positionId = "" → id = ""
  shortStage : close.shortStage ≠ ""
  longStage : close.longStage ≠ ""

/-- Close legs in the form their decoder leaves them in. -/
structure PendingPassiveClose.Decoded (close : PendingPassiveClose) : Prop where
  snapshot : ∀ position, close.positionSnapshot = some position → position.postInit = position
  longLegs : ∀ leg ∈ close.longLegs, leg.feeEvidenceComplete.isSome
  shortLegs : ∀ leg ∈ close.shortLegs, leg.feeEvidenceComplete.isSome

theorem closeLeg_decoded (leg : PersistedCloseExecutionLeg)
    (decided : leg.feeEvidenceComplete.isSome) : leg.afterRestart = leg := by
  obtain ⟨complete, known⟩ := Option.isSome_iff_exists.mp decided
  have evidence : some leg.feeEvidence = leg.feeEvidenceComplete := by
    rw [PersistedCloseExecutionLeg.feeEvidence, known]
  rw [PersistedCloseExecutionLeg.afterRestart, evidence]

theorem closeLegs_decoded {legs : List PersistedCloseExecutionLeg}
    (decided : ∀ leg ∈ legs, leg.feeEvidenceComplete.isSome) :
    legs.map PersistedCloseExecutionLeg.afterRestart = legs := by
  have same := List.map_congr_left (fun leg member => closeLeg_decoded leg (decided leg member))
  exact same.trans (List.map_id' legs)

theorem passiveClose_survives (positions : OrderedDict String OpenPosition) (id : String)
    (close : PendingPassiveClose) (decoded : close.Decoded) :
    close.afterRestart positions id = close.withPosition positions ↔ close.Survives id := by
  have snapshot : close.positionSnapshot.map OpenPosition.postInit = close.positionSnapshot := by
    cases stored : close.positionSnapshot with
    | none => rfl
    | some position => rw [Option.map_some, decoded.snapshot position stored]
  constructor
  · intro same
    constructor
    case owner =>
      intro unnamed
      have owner : (if close.positionId = "" then id else close.positionId) = close.positionId :=
        congrArg PendingPassiveClose.positionId same
      rw [if_pos unnamed, unnamed] at owner
      exact owner
    case shortStage =>
      exact (orDefault_iff (by decide)).mp (congrArg PendingPassiveClose.shortStage same)
    case longStage =>
      exact (orDefault_iff (by decide)).mp (congrArg PendingPassiveClose.longStage same)
  · rintro ⟨owner, shortStage, longStage⟩
    have sameOwner : (if close.positionId = "" then id else close.positionId) =
        close.positionId := by
      split_ifs with unnamed
      · rw [owner unnamed, unnamed]
      · rfl
    rw [PendingPassiveClose.afterRestart, PendingPassiveClose.withPosition, sameOwner, snapshot, if_neg shortStage, if_neg longStage,
      closeLegs_decoded decoded.longLegs, closeLegs_decoded decoded.shortLegs]

/-! ## States -/

/-- The state that a restart finds in the view. -/
def EngineState.afterRestart (state : EngineState) : EngineState :=
  let positions := state.openPositions.mapEntries (fun _ position => position.postInit)
  { state with
    openPositions := positions
    pendingEntries := state.pendingEntries.mapEntries (fun _ pending => pending.afterRestart)
    pendingPassiveCloses := state.pendingPassiveCloses.mapEntries
      (fun id close => close.afterRestart positions id) }

theorem lifecycle_restored (lifecycle : EngineLifecycle) :
    restoreLifecycle (.str lifecycle.value) = lifecycle := by
  cases lifecycle <;> rfl

theorem operator_restored (operator : OperatorControlState) :
    operator.toFields.fields?.elim {} OperatorControlState.ofFields = operator := by
  obtain ⟨requestedMode, pendingReconcile⟩ := operator
  cases requestedMode with
  | none => rfl
  | some mode => cases mode <;> rfl

theorem pendingCloses_restored {closes : OrderedDict String PendingClose}
    (known : ∀ entry ∈ closes.entries, entry.2.FeesKnown) :
    restoreTable restorePendingClose (serializeTable serializePendingClose closes) =
      some closes := by
  have back : restoreTable restorePendingClose (serializeTable serializePendingClose closes) =
      some (closes.mapEntries (fun _ close => close)) :=
    restoreTable_serialized closes fun entry member =>
      pendingClose_restored entry.1 (known entry member)
  rw [back, OrderedDict.mapEntries_same (fun _ _ => rfl)]

section Restart

variable [TextCase]

theorem state_decoded (state : EngineState) :
    restoreStateFromSnapshotDict (buildPersistentStateView state) =
      (restoreTable (fun _ data => deserializeOpenPosition data)
        (serializeTable serializeOpenPosition state.openPositions)).bind fun openPositions =>
      (textOrNull state.recoveryBlockedReason).optionalText?.bind fun blockedReason =>
      (restoreTable restorePendingEntry
        (serializeTable serializePendingEntry state.pendingEntries)).bind fun pendingEntries =>
      (restoreTable restorePendingClose
        (serializeTable serializePendingClose state.pendingCloses)).bind fun pendingCloses =>
      (restoreTable (restorePendingPassiveClose openPositions)
        (serializeTable serializePendingPassiveClose state.pendingPassiveCloses)).bind
        fun pendingPassiveCloses =>
      some { state with
        lifecycle := restoreLifecycle (.str state.lifecycle.value)
        riskMode := (GlobalRiskMode.ofValue state.riskMode.value).getD .running
        operator := state.operator.toFields.fields?.elim {} OperatorControlState.ofFields
        recoveryBlockedReason := blockedReason
        openPositions := openPositions
        pendingEntries := pendingEntries
        pendingCloses := pendingCloses
        pendingPassiveCloses := pendingPassiveCloses } := rfl

theorem state_restored (state : EngineState)
    (known : ∀ entry ∈ state.pendingCloses.entries, entry.2.FeesKnown) :
    restoreStateFromSnapshotDict (buildPersistentStateView state) = some state.afterRestart := by
  have positions := restoreTable_everywhere (fun _ => openPosition_restored) state.openPositions
  have closes := restoreTable_everywhere
    (pendingPassiveClose_restored
      (state.openPositions.mapEntries (fun _ position => position.postInit)))
    state.pendingPassiveCloses
  rw [state_decoded, positions, Option.bind_some, optionalText_textOrNull,
    restoreTable_everywhere pendingEntry_restored, pendingCloses_restored known, closes,
    lifecycle_restored, operator_restored, GlobalRiskMode.ofValue_value]
  rfl

/-- Positions are the ones their constructor leaves behind, and so are the positions
and legs stored with passive closes; the leg records of pending closes have their declared types. -/
structure EngineState.Decoded (state : EngineState) : Prop where
  positions : ∀ entry ∈ state.openPositions.entries, entry.2.postInit = entry.2
  closes : ∀ entry ∈ state.pendingPassiveCloses.entries, entry.2.Decoded
  fees : ∀ entry ∈ state.pendingCloses.entries, entry.2.FeesKnown

structure EngineState.Survives (state : EngineState) : Prop where
  entries : ∀ entry ∈ state.pendingEntries.entries, entry.2.Survives
  closes : ∀ entry ∈ state.pendingPassiveCloses.entries, entry.2.Survives entry.1

/-- What a restored state shares with the stored one. -/
structure EngineState.SameWork (stored restored : EngineState) : Prop where
  openPositions : restored.openPositions = stored.openPositions
  pendingEntries : restored.pendingEntries = stored.pendingEntries
  pendingCloses : restored.pendingCloses = stored.pendingCloses
  pendingPassiveCloses : restored.pendingPassiveCloses =
    stored.pendingPassiveCloses.mapEntries (fun _ close => close.withPosition restored.openPositions)
  residualRepairs : restored.pendingResidualRepairs = stored.pendingResidualRepairs
  reduceOnlyPairs : restored.liveRecoveryReduceOnlyPairs = stored.liveRecoveryReduceOnlyPairs
  blockedReason : restored.recoveryBlockedReason = stored.recoveryBlockedReason
  blockedAt : restored.recoveryBlockedAtMs = stored.recoveryBlockedAtMs
  operator : restored.operator.requestedMode = stored.operator.requestedMode

/-- A state is stored and restored without losing work. -/
def EngineState.RoundTrips (state : EngineState) : Prop :=
  ∃ restored, restoreStateFromSnapshotDict (buildPersistentStateView state) = some restored ∧
    state.SameWork restored

omit [TextCase] in
theorem entries_survive (entries : OrderedDict String (PendingEntry ExactFloat)) :
    entries.mapEntries (fun _ pending => pending.afterRestart) = entries ↔
      ∀ entry ∈ entries.entries, entry.2.Survives := by
  rw [OrderedDict.mapEntries_eq_self]
  constructor
  · intro same entry member
    exact (pendingEntry_survives entry.2).mp (same entry member)
  · intro survive entry member
    exact (pendingEntry_survives entry.2).mpr (survive entry member)

theorem snapshot_round_trip_iff (state : EngineState) (decoded : state.Decoded) :
    state.RoundTrips ↔ state.Survives := by
  have samePositions : state.openPositions.mapEntries (fun _ position => position.postInit) =
      state.openPositions := OrderedDict.mapEntries_same decoded.positions
  have survive (close : String × PendingPassiveClose)
      (member : close ∈ state.pendingPassiveCloses.entries) :=
    passiveClose_survives
      (state.openPositions.mapEntries (fun _ position => position.postInit)) close.1 close.2
      (decoded.closes close member)
  constructor
  · rintro ⟨restored, back, same⟩
    rw [state_restored state decoded.fees, Option.some_inj] at back
    subst back
    constructor
    case entries => exact (entries_survive state.pendingEntries).mp same.pendingEntries
    case closes =>
      intro entry member
      have kept := OrderedDict.mapEntries_inj.mp same.pendingPassiveCloses
      exact (survive entry member).mp (kept entry member)
  · rintro ⟨entries, closes⟩
    refine ⟨state.afterRestart, state_restored state decoded.fees, ?_⟩
    constructor
    case openPositions => exact samePositions
    case pendingEntries => exact (entries_survive state.pendingEntries).mpr entries
    case pendingPassiveCloses =>
      apply OrderedDict.mapEntries_inj.mpr
      intro entry member
      exact (survive entry member).mpr (closes entry member)
    all_goals rfl

end Restart

section Example

local instance plainCase : TextCase := .ascii

/-- An entry that is filled on one leg at a known fee. -/
def feeKnownEntry : PendingEntry ExactFloat :=
  { pendingId := "entry", symbol := "BTCUSDT", longVenue := .binance, shortVenue := .okx,
    targetQuantity := .finite 1, longSide := .buy, shortSide := .sell, createdAtMs := 1,
    makerLegFilled := .finite 1, makerFeeQuote := some (.finite 1) }

/-- A state with one entry and nothing else. -/
def entryState (pending : PendingEntry ExactFloat) : EngineState :=
  { pendingEntries := OrderedDict.empty.insert pending.pendingId pending }

theorem entryState_decoded (pending : PendingEntry ExactFloat) : (entryState pending).Decoded := by
  constructor
  case positions =>
    intro entry member
    cases member
  case closes =>
    intro entry member
    cases member
  case fees =>
    intro entry member
    cases member

theorem entryState_survives (pending : PendingEntry ExactFloat) :
    (entryState pending).Survives ↔ pending.Survives := by
  constructor
  · intro survives
    exact survives.entries (pending.pendingId, pending) (List.mem_singleton.mpr rfl)
  · intro survives
    constructor
    case entries =>
      intro entry member
      rw [List.mem_singleton.mp member]
      exact survives
    case closes =>
      intro entry member
      cases member

/-- The fee does not come back. -/
theorem snapshot_loses_fees :
    (entryState feeKnownEntry).Decoded ∧ ¬ (entryState feeKnownEntry).RoundTrips := by
  constructor
  · exact entryState_decoded feeKnownEntry
  · rintro ⟨restored, back, same⟩
    rw [state_restored _ (entryState_decoded _).fees, Option.some_inj] at back
    subst back
    have survives := (entries_survive (entryState feeKnownEntry).pendingEntries).mp
      same.pendingEntries (feeKnownEntry.pendingId, feeKnownEntry) (List.mem_singleton.mpr rfl)
    cases survives.makerFee

/-- Two units on each leg, as the constructor leaves them. -/
def pairedPosition : OpenPosition :=
  { positionId := "p1", symbol := "BTCUSDT", longVenue := .binance, shortVenue := .okx
    longQuantity := .finite 2, shortQuantity := .finite 2, matchedQuantity := .finite 2
    initialQuantity := .finite 2, longEntryPrice := .finite 10, shortEntryPrice := .finite 10
    openedAtMs := 1, enteredAtMs := 1 }

theorem pairedPosition_built : pairedPosition.postInit = pairedPosition := by
  have paired : (ExactFloat.finite 2).eq 0 = false := by decide +kernel
  have free : (ExactFloat.finite 0).eq 0 = true := by decide +kernel
  simp [OpenPosition.postInit, pairedPosition, paired, free, ExactFloat.add_finite]

/-- The position is stored with its close. -/
def pairedClose : PendingPassiveClose :=
  { positionId := "p1", reason := "exit", positionSnapshot := some pairedPosition
    shortStage := "exit_short", longStage := "exit_long"
    longLegs := [{ orderId := "1", feeEvidenceComplete := some true }] }

/-- An entry without a fee, a position, its passive close and an uncertain close. -/
def workState : EngineState :=
  { entryState { feeKnownEntry with makerFeeQuote := none } with
    openPositions := OrderedDict.empty.insert "p1" pairedPosition
    pendingCloses := OrderedDict.empty.insert "c1"
      { closeId := "c1", positionId := "p1", reason := "exit", createdAtMs := 1
        shortLegs := [{ venue := "okx" }] }
    pendingPassiveCloses := OrderedDict.empty.insert "p1" pairedClose }

theorem workState_decoded : workState.Decoded := by
  constructor
  case positions =>
    intro entry member
    obtain rfl := List.mem_singleton.mp member
    exact pairedPosition_built
  case closes =>
    intro entry member
    obtain rfl := List.mem_singleton.mp member
    constructor
    case snapshot =>
      rintro position ⟨⟩
      exact pairedPosition_built
    case longLegs =>
      intro leg listed
      obtain rfl := List.mem_singleton.mp listed
      rfl
    case shortLegs => exact fun leg listed => absurd listed List.not_mem_nil
  case fees =>
    intro entry member leg listed
    obtain rfl := List.mem_singleton.mp member
    obtain rfl := List.mem_singleton.mp listed
    rfl

theorem snapshot_round_trip_work : workState.RoundTrips := by
  apply (snapshot_round_trip_iff _ workState_decoded).mpr
  constructor
  case entries =>
    refine ((entryState_survives _).mpr ?_).entries
    constructor
    case makerFee => rfl
    case hedgeFee => rfl
    case opportunity => decide
    case reposts => exact fun _ => rfl
    case phases =>
      intro phase stored
      cases stored
  case closes =>
    intro entry member
    obtain rfl := List.mem_singleton.mp member
    exact ⟨by decide, by decide, by decide⟩

end Example

end LightFee.Engine
