import LightFee.Engine.CloseEvidence
import LightFee.Library.OneCellMemory

/-!
# Repairs of the automatic history lookup

An evidence debt whose automatic lookup ended for good is looked up again when a repair of the
adapters may find what was missed. Which repair it is follows from the terminal reason, the reason
of the debt and the venues of the legs; the record keeps the last repair that was granted.
-/

namespace LightFee.Engine

open DynValue
open LightFee.Venues

variable [TextCase]

/-! ## The record -/

def automaticHistoryTerminalStatus : String := "irrecoverable_audit_debt"

/-- `_AUTOMATIC_EVIDENCE_DEBT_REASONS`. -/
def automaticEvidenceDebtReasons : List String :=
  ["missing_close_order_identity", "unattributed_exchange_execution",
    "known_close_fill_temporarily_unavailable"]

/-- Every repair that can be granted. -/
def historyRepairReasons : List String :=
  ["binance_split_close_complement", "history_discovery_unsupported",
    "aster_v3_user_trades_missing_reduce_only", "bitget_classic_hedge_close_side_convention",
    "gate_exact_recheck_fee_enrichment", "binance_execution_window_anchor_repair"]

/-- The venue of a text or of an enumeration member. -/
def venueFromCloseReconciliation (value : DynValue) : Option Venue :=
  match value with
  | .str name => if name = "" then none else Venue.fromStr name
  | .obj attributes =>
    [Venue.binance, .okx, .bybit, .bitget, .gate, .aster, .hyperliquid].find? (fun venue =>
      isText ((OrderedDict.lookupEntries "value" attributes).getD .null) venue.value)
  | _ => none

/-! ## Ending the lookup -/

def isHistoryTerminal (reconciliation : DynValue) : Bool :=
  isText (reconciliation.get "automatic_history_terminal_status") automaticHistoryTerminalStatus

/-- `_mark_automatic_history_evidence_irrecoverable`. -/
def markAutomaticHistoryEvidenceIrrecoverable (reconciliation : DynValue) (classification : String)
    (nowMs : Int) : DynValue :=
  if isHistoryTerminal reconciliation then reconciliation
  else
    (((reconciliation.set "automatic_history_terminal_status"
      (.str automaticHistoryTerminalStatus)).set
      "automatic_history_terminal_reason" (.str classification)).set
      "automatic_history_terminalized_at_ms" (.int nowMs)).set "next_attempt_ms" (.int 0)

/-! ## The repair that is offered -/

/-- The reason of the debt, as recorded or as the record shows it. -/
def historyDebtReason (reconciliation : DynValue) : String :=
  let recorded := reconciliation.get "evidence_debt_reason"
  if recorded.truthy then recorded.text
  else (pendingCloseReconciliationEvidenceDebtReason reconciliation).getD ""

/-- Venues of the legs that own a quantity. -/
def ownedLegVenues (reconciliation : DynValue) (owned : ActiveMakerLeg → ExactFloat) :
    List (Option Venue) :=
  ([ActiveMakerLeg.long, .short].filter (fun side => !(owned side).le fillDust)).map (fun side =>
    venueFromCloseReconciliation (recordOrSnapshot reconciliation (side.label ++ "_venue")))

/-- The repair for a terminal reason, when a leg is on a venue that it repairs. -/
def repairReason (terminalReason : String) (automaticDebt : Bool) (venues : List (Option Venue)) :
    Option String :=
  let has (venue : Venue) : Bool := venues.contains (some venue)
  let capabilityUpgrade := decide (terminalReason = "history_discovery_unsupported")
  let legacyNoCandidateRepair := decide (terminalReason = "no_candidate") && automaticDebt
  let splitCloseComplementRepair :=
    decide (terminalReason = "binance_user_trades_no_candidate") && automaticDebt
  let gateCapabilityRepair := decide (terminalReason = "exact_recheck_incomplete")
  if !(capabilityUpgrade || legacyNoCandidateRepair || splitCloseComplementRepair ||
      gateCapabilityRepair) then none
  else if gateCapabilityRepair && !has .gate then none
  else if legacyNoCandidateRepair && !(has .aster || has .bitget || has .binance) then none
  else if splitCloseComplementRepair && !has .binance then none
  else if splitCloseComplementRepair then some "binance_split_close_complement"
  else if capabilityUpgrade then some "history_discovery_unsupported"
  else if has .aster then some "aster_v3_user_trades_missing_reduce_only"
  else if has .bitget then some "bitget_classic_hedge_close_side_convention"
  else if gateCapabilityRepair then some "gate_exact_recheck_fee_enrichment"
  else some "binance_execution_window_anchor_repair"

/-- The repair that a terminal record names, when every leg's adapter can look up its history. -/
def offeredRepair (reconciliation : DynValue) (supports : Venue → Bool) : Option String :=
  if isHistoryTerminal reconciliation = false ∨
      (reconciliation.get "position_snapshot").isMapping = false then none
  else
    (ownedCloseQuantities reconciliation).bind fun owned =>
      let venues := ownedLegVenues reconciliation owned
      if venues.all (fun venue => venue.any supports) then
        repairReason (textOf (reconciliation.get "automatic_history_terminal_reason"))
          (automaticEvidenceDebtReasons.contains (historyDebtReason reconciliation)) venues
      else none

/-! ## Granting it -/

/-- The repair that the record remembers as granted. -/
def recordedGrant (reconciliation : DynValue) : Option String :=
  if (reconciliation.get "automatic_history_reactivated_at_ms").truthy then
    some (textOf (reconciliation.get "automatic_history_reactivation_reason"))
  else none

/-- What is journalled of a granted repair. -/
structure HistoryReactivation where
  positionId : String
  symbol : String
  reason : String

/-- The record is open to the lookup again. -/
def reactivated (reconciliation : DynValue) (repair : String) (nowMs : Int) : DynValue :=
  let debtReason := historyDebtReason reconciliation
  let named :=
    if (reconciliation.get "evidence_debt_reason").truthy = false ∧
        automaticEvidenceDebtReasons.contains debtReason = true then
      reconciliation.set "evidence_debt_reason" (.str debtReason)
    else reconciliation
  (((((named.drop "automatic_history_terminal_status").drop
    "automatic_history_terminal_reason").drop "automatic_history_terminalized_at_ms").set
    "automatic_history_reactivated_at_ms" (.int nowMs)).set
    "automatic_history_reactivation_reason" (.str repair)).set "next_attempt_ms" (.int 0)

/-- `_reactivate_history_discovery_upgrade`: the record, and what is journalled when it answers
that the debt was reactivated. -/
def reactivateHistoryDiscoveryUpgrade (reconciliation : DynValue) (supports : Venue → Bool)
    (nowMs : Int) : DynValue × Option HistoryReactivation :=
  match offeredRepair reconciliation supports with
  | none => (reconciliation, none)
  | some repair =>
    if recordedGrant reconciliation = some repair then (reconciliation, none)
    else
      (reactivated reconciliation repair nowMs,
        some { positionId := textOf (reconciliation.get "position_id")
               symbol := textOf (recordOrSnapshot reconciliation "symbol")
               reason := repair })

/-! ## The life of a debt -/

/-- The record is terminalised, or offered for a repair to the adapters as they are then. -/
inductive HistoryEvent where
  | terminalised (classification : String) (nowMs : Int)
  | offered (supports : Venue → Bool) (nowMs : Int)

/-- The record after an event, and the repair that it grants. -/
def HistoryEvent.apply (reconciliation : DynValue) : HistoryEvent → DynValue × Option String
  | .terminalised classification nowMs =>
    (markAutomaticHistoryEvidenceIrrecoverable reconciliation classification nowMs, none)
  | .offered supports nowMs =>
    let answer := reactivateHistoryDiscoveryUpgrade reconciliation supports nowMs
    (answer.1, answer.2.map HistoryReactivation.reason)

/-- The repairs that the events grant, first grant first. -/
def grantedRepairs : DynValue → List HistoryEvent → List String
  | _, [] => []
  | reconciliation, event :: rest =>
    (event.apply reconciliation).2.toList ++
      grantedRepairs (event.apply reconciliation).1 rest

/-- The repair that the record names when it is offered; a time of 0 is not remembered. -/
def HistoryEvent.request (reconciliation : DynValue) :
    HistoryEvent → Option (OneCellMemory.Request String)
  | .terminalised _ _ => none
  | .offered supports nowMs =>
    (offeredRepair reconciliation supports).map (fun repair => ⟨repair, decide (nowMs ≠ 0)⟩)

def requestedRepairs : DynValue → List HistoryEvent → List (OneCellMemory.Request String)
  | _, [] => []
  | reconciliation, event :: rest =>
    (event.request reconciliation).toList ++
      requestedRepairs (event.apply reconciliation).1 rest

/-- The grant that the record brings along, as the request that led to it. -/
def earlierGrant (reconciliation : DynValue) : List (OneCellMemory.Request String) :=
  (recordedGrant reconciliation).toList.map (fun repair => ⟨repair, true⟩)

/-! ## What an event does to the remembered repair -/

omit [TextCase] in
theorem isMapping_mark (reconciliation : DynValue) (classification : String) (nowMs : Int) :
    (markAutomaticHistoryEvidenceIrrecoverable reconciliation classification nowMs).isMapping =
      reconciliation.isMapping := by
  rw [markAutomaticHistoryEvidenceIrrecoverable]
  split_ifs <;> simp

omit [TextCase] in
theorem mark_recorded {reconciliation : DynValue} (mapping : reconciliation.isMapping = true)
    (classification : String) (nowMs : Int) :
    recordedGrant (markAutomaticHistoryEvidenceIrrecoverable reconciliation classification nowMs) =
      recordedGrant reconciliation := by
  rw [markAutomaticHistoryEvidenceIrrecoverable]
  split_ifs
  · rfl
  · simp [recordedGrant, get_set, mapping]

omit [TextCase] in
theorem isMapping_reactivated (reconciliation : DynValue) (repair : String) (nowMs : Int) :
    (reactivated reconciliation repair nowMs).isMapping = reconciliation.isMapping := by
  rw [reactivated]
  split_ifs <;> simp

omit [TextCase] in
/-- The granted repair takes the place of the one before; a time of 0 leaves none. -/
theorem reactivated_recorded {reconciliation : DynValue} (mapping : reconciliation.isMapping = true)
    (repair : String) (nowMs : Int) :
    recordedGrant (reactivated reconciliation repair nowMs) =
      if nowMs ≠ 0 then some repair else none := by
  rw [reactivated, recordedGrant]
  split_ifs <;> simp_all [get_set, truthy]

/-- An event acts on the remembered repair as its request acts on a cell. -/
theorem event_grants {reconciliation : DynValue} (mapping : reconciliation.isMapping = true)
    (event : HistoryEvent) :
    (event.apply reconciliation).1.isMapping = true ∧
      ∀ requests,
        OneCellMemory.grants (recordedGrant reconciliation)
            ((event.request reconciliation).toList ++ requests) =
          (event.apply reconciliation).2.toList ++
            OneCellMemory.grants (recordedGrant (event.apply reconciliation).1) requests := by
  cases event with
  | terminalised classification nowMs =>
    refine ⟨(isMapping_mark reconciliation classification nowMs).trans mapping, fun requests => ?_⟩
    rw [HistoryEvent.apply, mark_recorded mapping]
    rfl
  | offered supports nowMs =>
    rw [HistoryEvent.apply, HistoryEvent.request, reactivateHistoryDiscoveryUpgrade]
    cases offered : offeredRepair reconciliation supports with
    | none => exact ⟨mapping, fun requests => rfl⟩
    | some repair =>
      dsimp only
      split_ifs with remembered
      · refine ⟨mapping, fun requests => ?_⟩
        simp [OneCellMemory.grants, OneCellMemory.granted, OneCellMemory.after, remembered]
      · refine ⟨(isMapping_reactivated reconciliation repair nowMs).trans mapping, fun requests => ?_⟩
        simp [OneCellMemory.grants, OneCellMemory.granted, OneCellMemory.after, remembered,
          reactivated_recorded mapping]

theorem granted_by_cell (events : List HistoryEvent) :
    ∀ reconciliation : DynValue, reconciliation.isMapping = true →
      grantedRepairs reconciliation events =
        OneCellMemory.grants (recordedGrant reconciliation)
          (requestedRepairs reconciliation events) := by
  induction events with
  | nil => exact fun reconciliation mapping => rfl
  | cons event rest rest_ih =>
    intro reconciliation mapping
    obtain ⟨stillMapping, grants⟩ := event_grants mapping event
    rw [grantedRepairs, requestedRepairs, grants, rest_ih _ stillMapping]

/-- The earlier grant and the later ones are the grants of all requests, from an empty cell. -/
theorem life_grants {reconciliation : DynValue} (mapping : reconciliation.isMapping = true)
    (events : List HistoryEvent) :
    (recordedGrant reconciliation).toList ++ grantedRepairs reconciliation events =
      OneCellMemory.grants none
        (earlierGrant reconciliation ++ requestedRepairs reconciliation events) := by
  rw [granted_by_cell events reconciliation mapping, earlierGrant]
  cases recordedGrant reconciliation <;> rfl

omit [TextCase] in
theorem known_of_ite {condition : Prop} [Decidable condition] {first second : Option String}
    {repair : String} (whenTrue : first = some repair → repair ∈ historyRepairReasons)
    (whenFalse : second = some repair → repair ∈ historyRepairReasons)
    (named : (if condition then first else second) = some repair) :
    repair ∈ historyRepairReasons := by
  split at named
  · exact whenTrue named
  · exact whenFalse named

omit [TextCase] in
theorem repairReason_known {terminalReason : String} {automaticDebt : Bool}
    {venues : List (Option Venue)} {repair : String}
    (named : repairReason terminalReason automaticDebt venues = some repair) :
    repair ∈ historyRepairReasons := by
  revert named
  unfold repairReason
  dsimp only
  repeat' apply known_of_ite
  all_goals
    intro named
    cases named
  all_goals decide

/-! ## One grant for each repair -/

theorem grants_known (events : List HistoryEvent) :
    ∀ reconciliation : DynValue,
      ∀ repair ∈ grantedRepairs reconciliation events, repair ∈ historyRepairReasons := by
  induction events with
  | nil => exact fun reconciliation repair isGrant => absurd isGrant List.not_mem_nil
  | cons event rest rest_ih =>
    intro reconciliation repair isGrant
    rw [grantedRepairs, List.mem_append] at isGrant
    obtain now | later := isGrant
    · cases event with
      | terminalised classification nowMs => simp [HistoryEvent.apply] at now
      | offered supports nowMs =>
        rw [HistoryEvent.apply, reactivateHistoryDiscoveryUpgrade] at now
        cases offered : offeredRepair reconciliation supports with
        | none => simp [offered] at now
        | some named =>
          have same : repair = named := by
            by_cases remembered : recordedGrant reconciliation = some named <;>
              simp_all
          rw [offeredRepair] at offered
          split_ifs at offered
          obtain ⟨owned, _, answered⟩ := Option.bind_eq_some_iff.mp offered
          dsimp only at answered
          split_ifs at answered
          rw [same]
          exact repairReason_known answered
    · exact rest_ih _ repair later

/-- Over its whole life a debt is granted every repair at most once, and no more repairs than there
are, exactly when no repair is named again after another one or after a first grant at time 0. -/
theorem repairs_granted_once_iff (entries : List (String × DynValue)) (events : List HistoryEvent) :
    (((recordedGrant (.dict entries)).toList ++ grantedRepairs (.dict entries) events).Nodup ∧
        (grantedRepairs (.dict entries) events).length ≤ historyRepairReasons.length) ↔
      OneCellMemory.Remembered
        (earlierGrant (.dict entries) ++ requestedRepairs (.dict entries) events) := by
  rw [life_grants rfl, OneCellMemory.nodup_grants_iff]
  constructor
  · exact fun once => once.1
  · intro remembered
    refine ⟨remembered, ?_⟩
    have distinct : (grantedRepairs (.dict entries) events).Nodup := by
      rw [← OneCellMemory.nodup_grants_iff, ← life_grants rfl] at remembered
      exact remembered.of_append_right
    exact (List.subperm_of_subset distinct (grants_known events (.dict entries))).length_le

/-- A debt with a leg on Gate and one on Binance. -/
def gateBinanceDebt : DynValue :=
  .dict [("position_id", .str "p1"), ("symbol", .str "BTCUSDT"), ("kind", .str "final"),
    ("long_venue", .str "gate"), ("short_venue", .str "binance"),
    ("evidence_debt_reason", .str "missing_close_order_identity"),
    ("owned_close_quantities", .dict [("long", .int 1), ("short", .int 1)]),
    ("position_snapshot", .dict [("position_id", .str "p1")])]

/-- The lookup ends on one leg, is repaired, ends on the other and is repaired, and so on. -/
def alternatingEnds (count : Nat) : List HistoryEvent :=
  (List.range count).flatMap fun turn =>
    [.terminalised
        (if turn % 2 = 0 then "binance_user_trades_no_candidate" else "exact_recheck_incomplete")
        (turn + 1),
      .offered (fun _ => true) (turn + 1)]

omit [TextCase] in
theorem repairs_alternate :
    letI := TextCase.ascii
    grantedRepairs gateBinanceDebt (alternatingEnds 7) =
        ["binance_split_close_complement", "gate_exact_recheck_fee_enrichment",
          "binance_split_close_complement", "gate_exact_recheck_fee_enrichment",
          "binance_split_close_complement", "gate_exact_recheck_fee_enrichment",
          "binance_split_close_complement"] ∧
      historyRepairReasons.length < (grantedRepairs gateBinanceDebt (alternatingEnds 7)).length := by
  decide +kernel

end LightFee.Engine
