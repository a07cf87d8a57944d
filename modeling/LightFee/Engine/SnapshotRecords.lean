import LightFee.Engine.SnapshotRestore

/-!
# Records through a snapshot

What the decoder answers on each part of a view. A record is decoded field by
field; most conversions succeed by computation, and each record's `_decoded`
theorem lists the others in the order in which the decoder makes them.
-/

namespace LightFee.Engine

open LightFee.Venues SnapshotValue

/-! ## What the decoder answers on the parts of a view -/

@[simp] theorem fields_fields (data : SnapshotFields) :
    (SnapshotValue.fields data).fields? = some data := rfl

@[simp] theorem optionalInt_intOrNull (value : Option Int) :
    (intOrNull value).optionalInt? = some value := by
  cases value <;> rfl

@[simp] theorem sideOr_value (default side : Side) : sideOr default (.str side.value) = side := by
  simp [sideOr]

/-- Restoring what was serialized gives the records of a list back. -/
theorem restoreRecords_map {Record : Type} {restore : SnapshotFields → Option Record}
    {serialize : Record → SnapshotValue} {keep : Record → Record} (records : List Record)
    (restored : ∀ record ∈ records, (serialize record).fields?.bind restore = some (keep record)) :
    restoreRecords restore (records.map serialize) = some (records.map keep) := by
  induction records with
  | nil => rfl
  | cons record rest ih =>
    have first := restored record List.mem_cons_self
    have ih := ih
      fun other member => restored other (List.mem_cons_of_mem _ member)
    rw [List.map_cons, List.map_cons]
    cases value : serialize record with
    | fields data =>
      rw [value, fields_fields, Option.bind_some] at first
      simp [restoreRecords, first, ih]
    | _ =>
      rw [value] at first
      cases first

theorem hedgeInflight_restored (inflight : HedgeInflight ExactFloat) :
    inflight.toFields.fields?.bind HedgeInflight.ofFields = some inflight := by
  simp [HedgeInflight.toFields, HedgeInflight.ofFields, SnapshotFields.get]

theorem passiveOrder_restored (order : PendingPassiveOrder ExactFloat) :
    order.toFields.fields?.bind PendingPassiveOrder.ofFields = some order := by
  simp [PendingPassiveOrder.toFields, PendingPassiveOrder.ofFields, SnapshotFields.get]

theorem slice_restored (slice : PendingEntryRemainderSlice ExactFloat) :
    PendingEntryRemainderSlice.fromValue slice.toFields = some slice := by
  simp [PendingEntryRemainderSlice.toFields, PendingEntryRemainderSlice.fromValue,
    PendingEntryRemainderSlice.ofFields, SnapshotFields.get]

theorem runtime_restored (runtime : PassiveOrderManagerRuntime) :
    runtime.toFields.fields?.bind PassiveOrderManagerRuntime.ofFields = some runtime := by
  simp [PassiveOrderManagerRuntime.toFields, PassiveOrderManagerRuntime.ofFields,
    SnapshotFields.get]

theorem closeLegRecord_restored {leg : CloseLegRecord} (known : leg.feeQuote.isSome = true) :
    (serializeCloseLegRecord leg).fields?.bind restoreCloseLegRecord = some leg := by
  obtain ⟨fee, paid⟩ := Option.isSome_iff_exists.mp known
  obtain ⟨venue, orderId, clientOrderId, quantity, averagePrice, feeQuote⟩ := leg
  subst paid
  simp [serializeCloseLegRecord, restoreCloseLegRecord, SnapshotFields.get, floatOrNull]

theorem phaseState_restored (state : PassivePhaseState) :
    (serializePhaseState state).fields?.bind PassivePhaseState.ofFields = some state := by
  simp [serializePhaseState, PassivePhaseState.ofFields, SnapshotFields.get]

/-- Empty labels of a passive phase are read as the default ones. -/
def PendingEntryPassivePhaseState.afterRestart (state : PendingEntryPassivePhaseState) :
    PendingEntryPassivePhaseState :=
  { state with
    executionKind := if state.executionKind = "" then "entry" else state.executionKind
    preferredMakerLeg := if state.preferredMakerLeg = "" then "long" else state.preferredMakerLeg
    activeMakerLeg := if state.activeMakerLeg = "" then "long" else state.activeMakerLeg
    phase := if state.phase = "" then "high_slippage_maker" else state.phase }

theorem entryPhaseState_restored (state : PendingEntryPassivePhaseState) :
    state.toFields.fields?.bind PendingEntryPassivePhaseState.ofFields =
      some state.afterRestart := by
  simp [PendingEntryPassivePhaseState.toFields, PendingEntryPassivePhaseState.ofFields,
    PendingEntryPassivePhaseState.afterRestart, SnapshotFields.get, text_orElse]

/-- An optional record that is serialized when there is one. -/
theorem restoreRecord_elim {Record : Type} {restore : SnapshotFields → Option Record}
    {serialize : Record → SnapshotValue} {keep : Record → Record}
    (restored : ∀ record, (serialize record).fields?.bind restore = some (keep record))
    (record : Option Record) :
    restoreRecord restore (record.elim .null serialize) = some (record.map keep) := by
  cases record with
  | none => rfl
  | some record =>
    have back := restored record
    rw [Option.elim_some, restoreRecord]
    cases found : (serialize record).fields? with
    | none =>
      rw [found] at back
      cases back
    | some data =>
      rw [found, Option.bind_some] at back
      simp [back]

/-- A constructor that completes what was decoded. -/
theorem bind_build {Record : Type} {restore : SnapshotFields → Option Record}
    {build : Record → Record} {data : Option SnapshotFields} :
    data.bind (fun fields => (restore fields).map build) = (data.bind restore).map build := by
  cases data <;> rfl

variable [TextCase]

@[simp] theorem venueOr_value (default venue : Venue) :
    venueOr default (.str venue.value) = venue := by
  simp [venueOr]

theorem orderFill_restored (fill : OrderFill) :
    (serializeOrderFill fill).fields?.bind OrderFill.ofFields = some fill := by
  simp [serializeOrderFill, OrderFill.ofFields, SnapshotFields.get]

@[simp] theorem optionalFill_restored (fill : Option OrderFill) :
    deserializeOrderFill (fill.elim .null serializeOrderFill) = some fill := by
  rw [deserializeOrderFill, restoreRecord_elim orderFill_restored, Option.map_id']

/-- A close leg comes back with its fee evidence decided. -/
def PersistedCloseExecutionLeg.afterRestart (leg : PersistedCloseExecutionLeg) :
    PersistedCloseExecutionLeg :=
  { leg with feeEvidenceComplete := some leg.feeEvidence }

theorem closeLeg_restored (leg : PersistedCloseExecutionLeg) :
    (serializePersistedCloseExecutionLeg leg).fields?.bind restorePersistedCloseExecutionLeg =
      some leg.afterRestart := by
  simp [serializePersistedCloseExecutionLeg, restorePersistedCloseExecutionLeg,
    PersistedCloseExecutionLeg.afterRestart, SnapshotFields.get]
/-! ## Records -/

/-- The conversions that can fail, in the order in which the decoder makes them. -/
theorem openPosition_decoded (position : OpenPosition) :
    (serializeOpenPosition position).fields?.bind OpenPosition.ofFields =
      (textOrNull position.reviewId).optionalText?.bind fun reviewId =>
      (textOrNull position.opportunityHintSource).optionalText?.bind fun hintSource =>
      ((int position.enteredAtMs).orElse (int 0)).int?.bind fun enteredAtMs =>
      (textOrNull position.transferStateAtEntry).optionalText?.bind fun transferState =>
      (textOrNull position.entryLiquiditySourceAtEntry).optionalText?.bind fun liquiditySource =>
      (floatOrNull position.longEntryVwap).optionalFloat?.bind fun longVwap =>
      (floatOrNull position.shortEntryVwap).optionalFloat?.bind fun shortVwap =>
      (textOrNull position.exitReason).optionalText?.bind fun exitReason =>
      (textOrNull position.lastRiskReason).optionalText?.bind fun lastRiskReason =>
      (deserializeOrderFill (position.longFill.elim .null serializeOrderFill)).bind fun longFill =>
      (deserializeOrderFill (position.shortFill.elim .null serializeOrderFill)).bind fun shortFill =>
      some { position with
        longVenue := venueOr .binance (.str position.longVenue.value)
        shortVenue := venueOr .okx (.str position.shortVenue.value)
        reviewId := reviewId
        opportunityHintSource := hintSource
        enteredAtMs := enteredAtMs
        transferStateAtEntry := transferState
        entryLiquiditySourceAtEntry := liquiditySource
        longEntryVwap := longVwap
        shortEntryVwap := shortVwap
        exitReason := exitReason
        lastRiskReason := lastRiskReason
        longFill := longFill
        shortFill := shortFill } := rfl

theorem openPosition_restored (position : OpenPosition) :
    (serializeOpenPosition position).fields?.bind deserializeOpenPosition =
      some position.postInit := by
  have decoded : (serializeOpenPosition position).fields?.bind OpenPosition.ofFields =
      some position := by
    rw [openPosition_decoded, optionalText_textOrNull, optionalText_textOrNull, int_orElse_zero,
      optionalText_textOrNull, optionalText_textOrNull, optionalFloat_floatOrNull,
      optionalFloat_floatOrNull, optionalText_textOrNull, optionalText_textOrNull,
      optionalFill_restored, optionalFill_restored, venueOr_value, venueOr_value]
    rfl
  have built : (serializeOpenPosition position).fields?.bind deserializeOpenPosition =
      ((serializeOpenPosition position).fields?.bind OpenPosition.ofFields).map
        OpenPosition.postInit := bind_build
  rw [built, decoded, Option.map_some]

/-- An entry is missing its fees after a restart; a missing opportunity type is the
default one and a missing repost count is the one of the repost attempts. -/
def PendingEntry.afterRestart (pending : PendingEntry ExactFloat) : PendingEntry ExactFloat :=
  { pending with
    makerFeeQuote := none
    hedgeFeeQuote := none
    opportunityType := if pending.opportunityType = "" then "aligned" else pending.opportunityType
    phaseState := pending.phaseState.map PendingEntryPassivePhaseState.afterRestart
    repostCount := if pending.repostCount = 0 then pending.repostAttemptCount
      else pending.repostCount }

theorem pendingEntry_decoded (id : String) (pending : PendingEntry ExactFloat) :
    (serializePendingEntry pending).fields?.bind (PendingEntry.ofFields id) =
      (restoreHedgeInflight (pending.hedgeInflight.elim (.str "") HedgeInflight.toFields)).bind
        fun hedgeInflight =>
      ((str pending.opportunityType).orElse (str "aligned")).text?.bind fun opportunityType =>
      (textOrNull pending.transferStateAtEntry).optionalText?.bind fun transferState =>
      (textOrNull pending.entryLiquiditySourceAtEntry).optionalText?.bind fun liquiditySource =>
      (floatOrNull pending.longEntryVwap).optionalFloat?.bind fun longVwap =>
      (floatOrNull pending.shortEntryVwap).optionalFloat?.bind fun shortVwap =>
      (restoreRecord PendingEntryPassivePhaseState.ofFields
        (pending.phaseState.elim .null PendingEntryPassivePhaseState.toFields)).bind
        fun phaseState =>
      (PassiveOrderManagerRuntime.fromValue pending.passiveManagerRuntime.toFields).bind
        fun runtime =>
      ((int pending.createdCycle).orElse (int 0)).int?.bind fun createdCycle =>
      ((int pending.repostAttemptCount).orElse (int 0)).int?.bind fun repostAttemptCount =>
      ((int pending.passiveAttemptCount).orElse (int 0)).int?.bind fun passiveAttemptCount =>
      ((int pending.passiveOpsTotal).orElse (int 0)).int?.bind fun passiveOpsTotal =>
      ((pending.makerRemainderSlices.map PendingEntryRemainderSlice.toFields).mapM
        PendingEntryRemainderSlice.fromValue).bind fun slices =>
      (textOrNull pending.lifetimeExhaustedLoggedFinalReason).optionalText?.bind
        fun finalReason =>
      (restoreRecord PendingPassiveOrder.ofFields
        (pending.passiveOrder.elim .null PendingPassiveOrder.toFields)).bind fun passiveOrder =>
      ((int pending.nextProgressPollMs).orElse (int 0)).int?.bind fun nextProgressPollMs =>
      some { pending with
        longVenue := venueOr .binance (.str pending.longVenue.value)
        shortVenue := venueOr .okx (.str pending.shortVenue.value)
        longSide := sideOr .buy (.str pending.longSide.value)
        shortSide := sideOr .sell (.str pending.shortSide.value)
        makerFeeQuote := none
        hedgeFeeQuote := none
        hedgeInflight := hedgeInflight
        opportunityType := opportunityType
        transferStateAtEntry := transferState
        entryLiquiditySourceAtEntry := liquiditySource
        longEntryVwap := longVwap
        shortEntryVwap := shortVwap
        phaseState := phaseState
        passiveManagerRuntime := runtime
        createdCycle := createdCycle
        repostAttemptCount := repostAttemptCount
        passiveAttemptCount := passiveAttemptCount
        passiveOpsTotal := passiveOpsTotal
        makerRemainderSlices := slices
        lifetimeExhaustedLoggedFinalReason := finalReason
        frozenCandidate := (pending.frozenCandidate.elim SnapshotValue.null .mapping).mapping?
        passiveOrder := passiveOrder
        nextProgressPollMs := nextProgressPollMs } := rfl

omit [TextCase] in
theorem hedgeInflight_elim (inflight : Option (HedgeInflight ExactFloat)) :
    restoreHedgeInflight (inflight.elim (.str "") HedgeInflight.toFields) = some inflight := by
  cases inflight with
  | none => rfl
  | some inflight =>
    have back := hedgeInflight_restored inflight
    have built : restoreHedgeInflight inflight.toFields =
        (inflight.toFields.fields?.bind HedgeInflight.ofFields).map some := rfl
    rw [Option.elim_some, built, back, Option.map_some]

omit [TextCase] in
theorem slices_restored (slices : List (PendingEntryRemainderSlice ExactFloat)) :
    (slices.map PendingEntryRemainderSlice.toFields).mapM PendingEntryRemainderSlice.fromValue =
      some slices := by
  induction slices with
  | nil => rfl
  | cons slice rest ih =>
    rw [List.map_cons, List.mapM_cons, slice_restored, ih]
    rfl

theorem pendingEntry_restored (id : String) (pending : PendingEntry ExactFloat) :
    (serializePendingEntry pending).fields?.bind (restorePendingEntry id) =
      some pending.afterRestart := by
  have runtime : PassiveOrderManagerRuntime.fromValue pending.passiveManagerRuntime.toFields =
      some pending.passiveManagerRuntime := runtime_restored pending.passiveManagerRuntime
  have order : restoreRecord PendingPassiveOrder.ofFields
      (pending.passiveOrder.elim .null PendingPassiveOrder.toFields) =
        some pending.passiveOrder := by
    rw [restoreRecord_elim passiveOrder_restored, Option.map_id']
  have candidate : (pending.frozenCandidate.elim SnapshotValue.null .mapping).mapping? =
      pending.frozenCandidate := by
    cases pending.frozenCandidate <;> rfl
  have decoded : (serializePendingEntry pending).fields?.bind (PendingEntry.ofFields id) =
      some { pending with
        makerFeeQuote := none
        hedgeFeeQuote := none
        opportunityType :=
          if pending.opportunityType = "" then "aligned" else pending.opportunityType
        phaseState := pending.phaseState.map PendingEntryPassivePhaseState.afterRestart } := by
    rw [pendingEntry_decoded, hedgeInflight_elim, text_orElse, optionalText_textOrNull,
      optionalText_textOrNull, optionalFloat_floatOrNull, optionalFloat_floatOrNull,
      restoreRecord_elim entryPhaseState_restored, runtime, int_orElse_zero, int_orElse_zero,
      int_orElse_zero, int_orElse_zero, slices_restored, optionalText_textOrNull, order,
      int_orElse_zero, venueOr_value, venueOr_value, sideOr_value, sideOr_value, candidate]
    rfl
  have built : (serializePendingEntry pending).fields?.bind (restorePendingEntry id) =
      ((serializePendingEntry pending).fields?.bind (PendingEntry.ofFields id)).map
        PendingEntry.postInit := bind_build
  rw [built, decoded, Option.map_some]
  rfl

omit [TextCase] in
theorem pendingClose_decoded (id : String) (close : PendingClose) :
    (serializePendingClose close).fields?.bind (restorePendingClose id) =
      (restoreRecords restoreCloseLegRecord (close.longLegs.map serializeCloseLegRecord)).bind
        fun longLegs =>
      (restoreRecords restoreCloseLegRecord (close.shortLegs.map serializeCloseLegRecord)).bind
        fun shortLegs =>
      some { close with
        longLegs := longLegs
        shortLegs := shortLegs } := rfl

/-- The fees of its leg records are floats, as they are declared. -/
def PendingClose.FeesKnown (close : PendingClose) : Prop :=
  ∀ leg ∈ close.longLegs ++ close.shortLegs, leg.feeQuote.isSome = true

omit [TextCase] in
theorem pendingClose_restored (id : String) {close : PendingClose} (known : close.FeesKnown) :
    (serializePendingClose close).fields?.bind (restorePendingClose id) = some close := by
  have legs (records : List CloseLegRecord)
      (paid : ∀ leg ∈ records, leg.feeQuote.isSome = true) :
      restoreRecords restoreCloseLegRecord (records.map serializeCloseLegRecord) =
        some records := by
    have back : restoreRecords restoreCloseLegRecord (records.map serializeCloseLegRecord) =
        some (records.map (fun leg => leg)) :=
      restoreRecords_map records fun leg member => closeLegRecord_restored (paid leg member)
    rw [back, List.map_id']
  rw [pendingClose_decoded, legs _ fun leg member => known leg (List.mem_append_left _ member),
    legs _ fun leg member => known leg (List.mem_append_right _ member)]
  rfl

/-! ## Tables -/

omit [TextCase] in
theorem restoreEntries_serialized {Record : Type}
    {restore : String → SnapshotFields → Option Record} {serialize : Record → SnapshotValue}
    {keep : String → Record → Record} (entries : List (String × Record))
    (restored : ∀ entry ∈ entries, (serialize entry.2).fields?.bind (restore entry.1) =
      some (keep entry.1 entry.2)) (records : OrderedDict String Record) :
    restoreEntries restore records (entries.map (fun entry => (entry.1, serialize entry.2))) =
      some (records.insertAll (entries.map (fun entry => (entry.1, keep entry.1 entry.2)))) := by
  induction entries generalizing records with
  | nil => rfl
  | cons entry rest ih =>
    obtain ⟨id, record⟩ := entry
    have back : (serialize record).fields?.bind (restore id) = some (keep id record) :=
      restored (id, record) List.mem_cons_self
    rw [List.map_cons, List.map_cons]
    cases value : serialize record with
    | fields data =>
      rw [value, fields_fields, Option.bind_some] at back
      rw [restoreEntries, back]
      exact ih (fun entry member => restored entry (List.mem_cons_of_mem _ member))
        (records.insert id (keep id record))
    | _ =>
      rw [value] at back
      cases back

omit [TextCase] in
/-- A serialized table is restored with the records in their places. -/
theorem restoreTable_serialized {Record : Type}
    {restore : String → SnapshotFields → Option Record} {serialize : Record → SnapshotValue}
    {keep : String → Record → Record} (records : OrderedDict String Record)
    (restored : ∀ entry ∈ records.entries, (serialize entry.2).fields?.bind (restore entry.1) =
      some (keep entry.1 entry.2)) :
    restoreTable restore (serializeTable serialize records) = some (records.mapEntries keep) := by
  have distinct := (records.mapEntries keep).distinct
  have written := restoreEntries_serialized records.entries restored .empty
  have inPlace : OrderedDict.empty.insertAll (records.mapEntries keep).entries =
      records.mapEntries keep :=
    OrderedDict.ext_entries (OrderedDict.entries_insertAll .empty _ distinct)
  rw [serializeTable, restoreTable, written]
  exact congrArg some inPlace

omit [TextCase] in
theorem restoreTable_everywhere {Record : Type}
    {restore : String → SnapshotFields → Option Record} {serialize : Record → SnapshotValue}
    {keep : String → Record → Record}
    (restored : ∀ id record, (serialize record).fields?.bind (restore id) = some (keep id record))
    (records : OrderedDict String Record) :
    restoreTable restore (serializeTable serialize records) = some (records.mapEntries keep) :=
  restoreTable_serialized records fun entry _ => restored entry.1 entry.2

omit [TextCase] in
theorem runtimes_restored (runtimes : OrderedDict String PassiveOrderManagerRuntime) :
    restoreTable (fun _ data => PassiveOrderManagerRuntime.ofFields data)
      (serializeTable PassiveOrderManagerRuntime.toFields runtimes) = some runtimes := by
  have back : restoreTable (fun _ data => PassiveOrderManagerRuntime.ofFields data)
      (serializeTable PassiveOrderManagerRuntime.toFields runtimes) =
        some (runtimes.mapEntries (fun _ runtime => runtime)) :=
    restoreTable_everywhere (fun _ => runtime_restored) runtimes
  rw [back, OrderedDict.mapEntries_same (fun _ _ => rfl)]

/-! ## Passive closes -/

/-- A passive close takes the restored position of its id; an empty id is the key of
the close, and empty stages are the default ones. -/
def PendingPassiveClose.afterRestart (positions : OrderedDict String OpenPosition) (id : String)
    (close : PendingPassiveClose) : PendingPassiveClose :=
  let positionId := if close.positionId = "" then id else close.positionId
  { close with
    positionId := positionId
    positionSnapshot :=
      (positions.find? positionId).or (close.positionSnapshot.map OpenPosition.postInit)
    shortStage := if close.shortStage = "" then "exit_short" else close.shortStage
    longStage := if close.longStage = "" then "exit_long" else close.longStage
    longLegs := close.longLegs.map PersistedCloseExecutionLeg.afterRestart
    shortLegs := close.shortLegs.map PersistedCloseExecutionLeg.afterRestart }

theorem positionSnapshot_restored (positions : OrderedDict String OpenPosition)
    (positionId : String) (stored : Option OpenPosition) :
    restorePositionSnapshot positions positionId (stored.elim .null serializeOpenPosition) =
      some ((positions.find? positionId).or (stored.map OpenPosition.postInit)) := by
  rw [restorePositionSnapshot]
  cases positions.find? positionId with
  | some position => rfl
  | none => exact restoreRecord_elim openPosition_restored stored

theorem pendingPassiveClose_decoded (positions : OrderedDict String OpenPosition) (id : String)
    (close : PendingPassiveClose) :
    (serializePendingPassiveClose close).fields?.bind (restorePendingPassiveClose positions id) =
      ((str close.positionId).orElse (str id)).text?.bind fun positionId =>
      (restorePositionSnapshot positions positionId
        (close.positionSnapshot.elim .null serializeOpenPosition)).bind fun positionSnapshot =>
      ((str close.shortStage).orElse (str "exit_short")).text?.bind fun shortStage =>
      ((str close.longStage).orElse (str "exit_long")).text?.bind fun longStage =>
      (floatOrNull close.maxSlippageBps).optionalFloat?.bind fun maxSlippageBps =>
      ((serializePhaseState close.phaseState).fields?.bind PassivePhaseState.ofFields).bind
        fun phaseState =>
      (restoreRecords restorePersistedCloseExecutionLeg
        (close.longLegs.map serializePersistedCloseExecutionLeg)).bind fun longLegs =>
      (restoreRecords restorePersistedCloseExecutionLeg
        (close.shortLegs.map serializePersistedCloseExecutionLeg)).bind fun shortLegs =>
      (restoreTable (fun _ data => PassiveOrderManagerRuntime.ofFields data)
        (serializeTable PassiveOrderManagerRuntime.toFields close.passiveManagerRuntimes)).bind
        fun runtimes =>
      ((int close.smallFillMinNotionalAttempts).orElse (int 0)).int?.bind fun attempts =>
      ((float close.lastSmallFillMissingQuantity).orElse (float 0)).float?.bind
        fun missingQuantity =>
      (intOrNull close.smallFillBufferStartedAtMs).optionalInt?.bind fun bufferStartedAtMs =>
      ((int close.opsCountThisWindow).orElse (int 0)).int?.bind fun opsCount =>
      ((int close.opsWindowStartedAtMs).orElse (int 0)).int?.bind fun opsStartedAtMs =>
      some { close with
        positionId := positionId
        positionSnapshot := positionSnapshot
        shortStage := shortStage
        longStage := longStage
        maxSlippageBps := maxSlippageBps
        phaseState := phaseState
        longLegs := longLegs
        shortLegs := shortLegs
        passiveManagerRuntimes := runtimes
        smallFillMinNotionalAttempts := attempts
        lastSmallFillMissingQuantity := missingQuantity
        smallFillBufferStartedAtMs := bufferStartedAtMs
        opsCountThisWindow := opsCount
        opsWindowStartedAtMs := opsStartedAtMs } := rfl

theorem pendingPassiveClose_restored (positions : OrderedDict String OpenPosition) (id : String)
    (close : PendingPassiveClose) :
    (serializePendingPassiveClose close).fields?.bind (restorePendingPassiveClose positions id) =
      some (close.afterRestart positions id) := by
  rw [pendingPassiveClose_decoded, text_orElse, Option.bind_some, positionSnapshot_restored,
    text_orElse, text_orElse, optionalFloat_floatOrNull, phaseState_restored,
    restoreRecords_map _ fun leg _ => closeLeg_restored leg,
    restoreRecords_map _ fun leg _ => closeLeg_restored leg, runtimes_restored,
    int_orElse_zero, float_orElse_zero, optionalInt_intOrNull, int_orElse_zero, int_orElse_zero]
  rfl

end LightFee.Engine
