import LightFee.Engine.CloseEvidence

/-!
# Importing an operator's close evidence

An import replaces the evidence of exactly one debt of the queue. The arguments are checked first,
then the queue is normalised and the owner looked for, then the replacement is built on a copy and
checked; it is put into the queue when nothing is wrong with it. An orphaned partial close may
become the final one.
-/

namespace LightFee.Engine

open DynValue

/-! ## The call -/

/-- The arguments of `import_pending_close_reconciliation_evidence`. -/
structure EvidenceImport where
  item : DynValue
  evidenceReference : DynValue
  evidenceSha256 : DynValue
  importedAtMs : DynValue
  allowIdempotent : Bool := false

/-- What the checked arguments ask for. -/
structure ImportRequest where
  reference : String
  digest : String
  positionId : String
  kind : String
  closedAtMs : Int
  terminalizeOrphanPartial : Bool

def ImportRequest.ownerKind (request : ImportRequest) : String :=
  if request.terminalizeOrphanPartial then "partial" else request.kind

def importAllowedFields : List String :=
  ["position_id", "kind", "closed_at_ms", "position_snapshot", "long_legs", "short_legs",
    "terminalize_orphan_partial"]

/-- The fields of an import that are not supported, in order. -/
def unknownImportFields (item : DynValue) : List String :=
  ((item.entries.map Prod.fst).filter (fun field => !importAllowedFields.contains field)).mergeSort

def isHexDigest (digest : String) : Bool :=
  decide (digest.length = 64) &&
    digest.toList.all (fun char => "0123456789abcdef".toList.contains char)

/-- `key in item and not isinstance(item[key], list)`. -/
def legsNotListed (item : DynValue) (field : String) : Bool :=
  match item.member? field with
  | none | some (.list _) => false
  | some _ => true

/-- The request of the arguments, as they are read. -/
def readRequest [TextCase] (call : EvidenceImport) : ImportRequest where
  reference := TextSearch.strip (textOf call.evidenceReference)
  digest := TextCase.lower (TextSearch.strip (textOf call.evidenceSha256))
  positionId := textOf (call.item.get "position_id")
  kind := reconciliationKind call.item
  closedAtMs := reconciliationInt (call.item.get "closed_at_ms")
  terminalizeOrphanPartial := (call.item.get "terminalize_orphan_partial").isTrue

/-- The checks that are made before the queue is touched: what must not be, and its error. -/
def requestChecks (call : EvidenceImport) (request : ImportRequest) : List (Bool × String) :=
  let item := call.item
  [(!item.isMapping, "evidence reconciliation must be an object"),
    (decide (request.reference = ""), "evidence_reference is required"),
    (!isHexDigest request.digest, "evidence_sha256 must be a SHA-256 hex digest"),
    (decide (reconciliationInt call.importedAtMs ≤ 0), "imported_at_ms must be positive"),
    (!(unknownImportFields item).isEmpty,
      "unsupported evidence fields: " ++ ", ".intercalate (unknownImportFields item)),
    (item.hasKey "terminalize_orphan_partial" && !request.terminalizeOrphanPartial,
      "terminalize_orphan_partial must be true when supplied"),
    (decide (request.positionId = ""), "position_id is required"),
    (!(["final", "partial"].contains request.kind), "kind must be final or partial"),
    (request.terminalizeOrphanPartial && decide (request.kind = "final") && !call.allowIdempotent,
      "terminalized evidence must identify the partial owner"),
    (decide (request.closedAtMs ≤ 0), "closed_at_ms must be positive"),
    (item.hasKey "position_snapshot" && !(item.get "position_snapshot").isMapping,
      "position_snapshot must be an object"),
    (legsNotListed item "long_legs", "long_legs must be a list"),
    (legsNotListed item "short_legs", "short_legs must be a list")]

/-- The first check that fails is the error. -/
def importRequest [TextCase] (call : EvidenceImport) : Except String ImportRequest :=
  match (requestChecks call (readRequest call)).find? Prod.fst with
  | some failed => .error failed.2
  | none => .ok (readRequest call)

/-! ## The owner -/

/-- A record of the position with this kind and closing time. -/
def ImportRequest.names (request : ImportRequest) (kind : String) (record : DynValue) : Bool :=
  record.isMapping && decide (textOf (record.get "position_id") = request.positionId) &&
    decide (reconciliationKind record = kind) &&
    decide (reconciliationInt (record.get "closed_at_ms") = request.closedAtMs)

def ImportRequest.owns (request : ImportRequest) (record : DynValue) : Bool :=
  request.names request.ownerKind record

/-- The record holds this evidence already. -/
def ImportRequest.heldBy [TextCase] (request : ImportRequest) (record : DynValue) : Bool :=
  let evidence := record.get "operator_evidence"
  isText (record.get "reconciliation_status") "operator_evidence_imported" &&
    evidence.isMapping &&
    decide (TextCase.lower (textOf (evidence.get "sha256")) = request.digest) &&
    decide (textOf (evidence.get "reference") = request.reference)

/-- A final record that an orphaned partial became by this evidence. -/
def ImportRequest.terminalized [TextCase] (request : ImportRequest) (record : DynValue) : Bool :=
  request.names "final" record && request.heldBy record &&
    ((record.get "operator_evidence").get "terminalized_orphan_partial").isTrue

/-! ## The replacement -/

/-- Evidence of the item that the record takes over. -/
def evidenceChanges (item : DynValue) : List (String × Option DynValue) :=
  (["position_snapshot", "long_legs", "short_legs"].filter item.hasKey).map (fun field =>
    (field, some (item.get field)))

/-- An orphaned partial becomes final. -/
def kindChanges (request : ImportRequest) : List (String × Option DynValue) :=
  if request.terminalizeOrphanPartial then
    [("kind", some (.str "final")), ("original_payload", none)]
  else []

/-- A final record keeps the accounting that its snapshot has already. -/
def accountingChanges (request : ImportRequest) (existing candidate : DynValue) :
    List (String × Option DynValue) :=
  let existingSnapshot := existing.get "position_snapshot"
  let candidateSnapshot := candidate.get "position_snapshot"
  if request.kind = "final" ∧ request.terminalizeOrphanPartial = false ∧
      existingSnapshot.isMapping = true ∧ candidateSnapshot.isMapping = true then
    [("position_snapshot", some (candidateSnapshot.amend
      ((["realized_price_pnl_quote", "realized_exit_fee_quote"].filter
        existingSnapshot.hasKey).map (fun field => (field, some (existingSnapshot.get field))))))]
  else []

/-- Routing facts of the record, or else of its snapshot. -/
def routingChanges (candidate : DynValue) : List (String × Option DynValue) :=
  if (candidate.get "position_snapshot").isMapping then
    ["symbol", "long_venue", "short_venue"].map (fun field =>
      (field, some (.str (textOf (recordOrSnapshot candidate field)))))
  else []

/-- The record with the evidence of the item. -/
def importCandidate (request : ImportRequest) (item existing : DynValue) : DynValue :=
  let replaced := (existing.amend (evidenceChanges item)).amend (kindChanges request)
  let accounted := replaced.amend (accountingChanges request existing replaced)
  accounted.amend (routingChanges accounted)

/-- `math.isclose(left, right, rel_tol=1e-9, abs_tol=1e-12)`. -/
def closeQuantities (left right : ℚ) : Bool :=
  |left - right| ≤ max (1 / 10 ^ 9 * max |left| |right|) (1 / 10 ^ 12)

/-- The quantity of a leg that carries a fill. -/
def filledLegQuantity (leg : DynValue) : Option ℚ :=
  (finiteOf? (leg.get "quantity")).filter (fun quantity => decide (1 / 10 ^ 12 < quantity))

/-- What is wrong with one leg of an orphaned partial that is to be final. -/
def terminalLegGap (candidate : DynValue) (label : String) : Option String :=
  let snapshot := candidate.get "position_snapshot"
  match (floatOf? (snapshot.get (label ++ "_quantity"))) with
  | none => some "orphan partial terminalization requires dual-leg snapshot quantities"
  | some expected =>
    match expected, candidate.get (label ++ "_legs") with
    | .finite expectedQuantity, .list (leg :: legs) =>
      if expectedQuantity ≤ 1 / 10 ^ 12 then
        some "orphan partial terminalization requires complete dual-leg evidence"
      else if (leg :: legs).any (fun leg => (filledLegQuantity leg).isNone) then
        some "orphan partial terminalization requires dual-leg quantities"
      else if closeQuantities (((leg :: legs).map (fun leg =>
          (filledLegQuantity leg).getD 0)).sum) expectedQuantity = false then
        some "orphan partial terminalization quantities must match the snapshot"
      else none
    | _, _ => some "orphan partial terminalization requires complete dual-leg evidence"

def terminalGap (candidate : DynValue) : Option String :=
  (terminalLegGap candidate "long").or (terminalLegGap candidate "short")

/-- What an accepted import writes beside the evidence. -/
def importedChanges (request : ImportRequest) (importedAtMs : Int) :
    List (String × Option DynValue) :=
  [("reconciliation_status", some (.str "operator_evidence_imported")),
    ("evidence_debt_reason", none),
    ("evidence_debt_at_ms", none),
    ("missing_close_order_identity", none),
    ("billing_reconciliation_required", some (.bool true)),
    ("reconciliation_mode", some (.str "venue_execution_history_required")),
    ("next_attempt_ms", some (.int importedAtMs)),
    ("attempt_count", some (.int 0)),
    ("operator_evidence", some (.dict
      ([("reference", .str request.reference), ("sha256", .str request.digest),
        ("imported_at_ms", .int importedAtMs)] ++
        if request.terminalizeOrphanPartial then
          [("terminalized_orphan_partial", .bool true)]
        else [])))]

/-! ## The import -/

/-- The position is still open, or has a final record. -/
def orphanGap (state : RuntimeState) (request : ImportRequest) (queue : List DynValue) :
    Option String :=
  if state.engine.openPositions.contains request.positionId ||
      state.engine.openPositions.values.any (fun position =>
        position.positionId = request.positionId) then
    some "orphan partial target position is still open"
  else if queue.any (fun other => other.isMapping &&
      decide (textOf (other.get "position_id") = request.positionId) &&
      decide (reconciliationKind other = "final")) then
    some "orphan partial already has a final successor"
  else none

/-- What is wrong with replacing a debt by the candidate. -/
def replacementGap (state : RuntimeState) (request : ImportRequest) (queue : List DynValue)
    (candidate : DynValue) : Option String :=
  ((if request.terminalizeOrphanPartial then orphanGap state request queue else none).or
    ((pendingCloseReconciliationImportReason candidate).map
      ("imported evidence is incomplete: " ++ ·))).or
    (if request.terminalizeOrphanPartial then terminalGap candidate else none)

/-- The record that replaces the only owner. -/
def replacement (state : RuntimeState) (call : EvidenceImport) (request : ImportRequest)
    (queue : List DynValue) (existing : DynValue) : Except String DynValue :=
  if isText (existing.get "reconciliation_status") "evidence_debt" = false then
    .error "target owner is not an evidence debt"
  else
    let candidate := importCandidate request call.item existing
    match replacementGap state request queue candidate with
    | some reason => .error reason
    | none =>
      .ok (candidate.amend (importedChanges request (reconciliationInt call.importedAtMs)))

/-- The import into a normalised queue. -/
def resolveImport [TextCase] (state : RuntimeState) (call : EvidenceImport) (request : ImportRequest) :
    RuntimeState × Except String DynValue :=
  let queue := state.pendingCloseReconciliations
  match queue.filter request.owns with
  | [existing] =>
    if call.allowIdempotent && request.heldBy existing then (state, .ok existing)
    else
      match replacement state call request queue existing with
      | .error reason => (state, .error reason)
      | .ok record =>
        ({ state with
            pendingCloseReconciliations := queue.set (queue.findIdx request.owns) record },
          .ok record)
  | _ =>
    match request.terminalizeOrphanPartial && call.allowIdempotent,
        queue.filter request.terminalized with
    | true, [imported] => (state, .ok imported)
    | _, _ => (state, .error "evidence must match exactly one pending reconciliation owner")

/-- The state with its queue normalised. -/
def normalizedQueue (state : RuntimeState) : RuntimeState :=
  { state with
    pendingCloseReconciliations :=
      setPendingCloseReconciliations (.list state.pendingCloseReconciliations) }

/-- `import_pending_close_reconciliation_evidence`: the state, and the record or the error. -/
def importPendingCloseReconciliationEvidence [TextCase] (state : RuntimeState) (call : EvidenceImport) :
    RuntimeState × Except String DynValue :=
  match importRequest call with
  | .error reason => (state, .error reason)
  | .ok request => resolveImport (normalizedQueue state) call request

/-! ## The arguments -/

theorem checked_request [TextCase] {call : EvidenceImport} {request : ImportRequest}
    (checked : importRequest call = .ok request) :
    request = readRequest call ∧ ∀ check ∈ requestChecks call request, check.1 = false := by
  rw [importRequest] at checked
  cases failed : (requestChecks call (readRequest call)).find? Prod.fst with
  | some check =>
    rw [failed] at checked
    cases checked
  | none =>
    rw [failed] at checked
    obtain rfl := Except.ok.inj checked
    refine ⟨rfl, fun check isCheck => ?_⟩
    simpa using List.find?_eq_none.mp failed check isCheck

/-- A checked call passes the checks again as a repetition. -/
theorem request_repeated [TextCase] {call : EvidenceImport} {request : ImportRequest}
    (checked : importRequest call = .ok request) :
    importRequest { call with allowIdempotent := true } = .ok request := by
  obtain ⟨rfl, passed⟩ := checked_request checked
  have again : (requestChecks { call with allowIdempotent := true }
      (readRequest call)).find? Prod.fst = none := by
    -- Only the check of the partial owner reads the flag.
    have changed : requestChecks { call with allowIdempotent := true } (readRequest call) =
        (requestChecks call (readRequest call)).set 8
          ((readRequest call).terminalizeOrphanPartial &&
            decide ((readRequest call).kind = "final") && false,
            "terminalized evidence must identify the partial owner") := rfl
    rw [List.find?_eq_none, changed]
    intro check isCheck
    obtain kept | rfl := List.mem_or_eq_of_mem_set isCheck
    · rw [passed check kept]
      exact Bool.false_ne_true
    · rw [Bool.and_false]
      exact Bool.false_ne_true
  rw [importRequest]
  exact (congrArg (fun failed => match failed with
    | some failed => Except.error failed.2
    | none => Except.ok (readRequest call)) again)

theorem request_digest [TextCase] {call : EvidenceImport} {request : ImportRequest}
    (checked : importRequest call = .ok request) : isHexDigest request.digest = true := by
  obtain ⟨_, passed⟩ := checked_request checked
  have hex := passed (!isHexDigest request.digest, "evidence_sha256 must be a SHA-256 hex digest")
    (by simp [requestChecks])
  simpa using hex

theorem lower_digest [TextCase] {digest : String} (hex : isHexDigest digest = true) :
    TextCase.lower digest = digest := by
  rw [isHexDigest, Bool.and_eq_true] at hex
  apply TextCase.lower_plain
  intro char member
  have known := List.all_eq_true.mp hex.2 char member
  have plain : "0123456789abcdef".toList.all
      (fun char => decide (char.toNat < 128 ∧ char.toLower = char)) = true := by
    decide +kernel
  have listed : char ∈ "0123456789abcdef".toList := by simpa using known
  simpa using List.all_eq_true.mp plain char listed

/-! ## The evidence that is judged -/

/-- The fields that the judgement of an import reads. -/
def judgedFields : List String :=
  ["invalid_pending_close_reconciliation", "reason", "kind", "position_snapshot", "position_id",
    "symbol", "long_venue", "short_venue", "owned_close_quantities", "original_payload",
    "long_legs", "short_legs", "unattributed_exchange_close_legs", "closed_at_ms"]

theorem import_reason_congr {left right : DynValue} (mapping : left.isMapping = right.isMapping)
    (same : ∀ field ∈ judgedFields, left.get field = right.get field) :
    pendingCloseReconciliationImportReason left = pendingCloseReconciliationImportReason right := by
  have invalid := same "invalid_pending_close_reconciliation" (by decide)
  have reason := same "reason" (by decide)
  have kind := same "kind" (by decide)
  have snapshot := same "position_snapshot" (by decide)
  have positionId := same "position_id" (by decide)
  have symbol := same "symbol" (by decide)
  have longVenue := same "long_venue" (by decide)
  have shortVenue := same "short_venue" (by decide)
  have owned := same "owned_close_quantities" (by decide)
  have payload := same "original_payload" (by decide)
  have longLegs := same "long_legs" (by decide)
  have shortLegs := same "short_legs" (by decide)
  have unattributed := same "unattributed_exchange_close_legs" (by decide)
  have closedAt := same "closed_at_ms" (by decide)
  have source (isPartial : Bool) :
      left.get (if isPartial then "original_payload" else "position_snapshot") =
        right.get (if isPartial then "original_payload" else "position_snapshot") := by
    cases isPartial
    · exact snapshot
    · exact payload
  have quantities : ownedCloseQuantities left = ownedCloseQuantities right := by
    simp only [ownedCloseQuantities, owned, kind, source]
  have missing : pendingCloseReconciliationMissingLegs left =
      pendingCloseReconciliationMissingLegs right := by
    simp only [pendingCloseReconciliationMissingLegs, quantities, ActiveMakerLeg.label,
      String.reduceAppend, longLegs, shortLegs]
  have debt : pendingCloseReconciliationEvidenceDebtReason left =
      pendingCloseReconciliationEvidenceDebtReason right := by
    unfold pendingCloseReconciliationEvidenceDebtReason reconciliationKind recordOrSnapshot
    rw [mapping, invalid, reason, kind, snapshot, positionId, symbol, longVenue, shortVenue,
      missing, unattributed]
  have gaps (label : String) (legs : left.get (label ++ "_legs") = right.get (label ++ "_legs")) :
      importLegGap left label = importLegGap right label := by
    rw [importLegGap, importLegGap, snapshot, legs]
  have long : importLegGap left "long" = importLegGap right "long" := gaps "long" longLegs
  have short : importLegGap left "short" = importLegGap right "short" := gaps "short" shortLegs
  have segment : partialQuantityGap left = partialQuantityGap right := by
    rw [partialQuantityGap, partialQuantityGap, payload]
  unfold pendingCloseReconciliationImportReason reconciliationKind
  rw [debt, mapping, closedAt, kind, segment, snapshot, positionId, symbol, long, short]

/-! ## The replacement -/

/-- The fields that the evidence of an import can change. -/
def evidenceFields : List String :=
  ["position_snapshot", "long_legs", "short_legs", "kind", "original_payload", "symbol",
    "long_venue", "short_venue"]

section Candidate

variable (request : ImportRequest) (item existing candidate : DynValue)

theorem evidence_named (change : String × Option DynValue)
    (isChange : change ∈ evidenceChanges item) :
    change.1 ∈ ["position_snapshot", "long_legs", "short_legs"] := by
  obtain ⟨field, member, rfl⟩ := List.mem_map.mp isChange
  exact (List.mem_filter.mp member).1

theorem kind_named (change : String × Option DynValue) (isChange : change ∈ kindChanges request) :
    change.1 ∈ ["kind", "original_payload"] := by
  rw [kindChanges] at isChange
  split_ifs at isChange
  · simp only [List.mem_cons, List.not_mem_nil, or_false] at isChange
    rcases isChange with rfl | rfl <;> decide
  · exact absurd isChange List.not_mem_nil

theorem accounting_named (change : String × Option DynValue)
    (isChange : change ∈ accountingChanges request existing candidate) :
    change.1 ∈ ["position_snapshot"] := by
  simp only [accountingChanges] at isChange
  split_ifs at isChange
  · obtain rfl := List.mem_singleton.mp isChange
    exact List.mem_singleton_self _
  · exact absurd isChange List.not_mem_nil

theorem routing_named (change : String × Option DynValue)
    (isChange : change ∈ routingChanges candidate) :
    change.1 ∈ ["symbol", "long_venue", "short_venue"] := by
  rw [routingChanges] at isChange
  split_ifs at isChange
  · obtain ⟨field, member, rfl⟩ := List.mem_map.mp isChange
    exact member
  · exact absurd isChange List.not_mem_nil

theorem isMapping_candidate :
    (importCandidate request item existing).isMapping = existing.isMapping := by
  simp [importCandidate]

/-- The evidence changes its own fields only. -/
theorem candidate_get {existing : DynValue} (mapping : existing.isMapping = true) {field : String}
    (other : field ∉ evidenceFields) :
    (importCandidate request item existing).get field = existing.get field := by
  have unnamed {changes : List (String × Option DynValue)} {fields : List String}
      (named : ∀ change ∈ changes, change.1 ∈ fields) (known : fields ⊆ evidenceFields) :
      field ∉ changes.map Prod.fst := by
    intro isNamed
    obtain ⟨change, isChange, rfl⟩ := List.mem_map.mp isNamed
    exact other (known (named change isChange))
  rw [importCandidate,
    get_amend (by simpa using mapping) (unnamed (routing_named _) (by decide)),
    get_amend (by simpa using mapping) (unnamed (accounting_named request existing _) (by decide)),
    get_amend (by simpa using mapping) (unnamed (kind_named request) (by decide)),
    get_amend mapping (unnamed (evidence_named item) (by decide))]

theorem candidate_kind {existing : DynValue} (mapping : existing.isMapping = true) :
    (importCandidate request item existing).get "kind" =
      if request.terminalizeOrphanPartial then .str "final" else existing.get "kind" := by
  have unnamed {changes : List (String × Option DynValue)} {fields : List String}
      (named : ∀ change ∈ changes, change.1 ∈ fields) (other : "kind" ∉ fields) :
      "kind" ∉ changes.map Prod.fst := by
    intro isNamed
    obtain ⟨change, isChange, same⟩ := List.mem_map.mp isNamed
    rw [← same] at other
    exact other (named change isChange)
  have replaced : (existing.amend (evidenceChanges item)).get "kind" = existing.get "kind" :=
    get_amend mapping (unnamed (evidence_named item) (by decide)) _
  rw [importCandidate,
    get_amend (by simpa using mapping) (unnamed (routing_named _) (by decide)),
    get_amend (by simpa using mapping) (unnamed (accounting_named request existing _) (by decide)),
    kindChanges]
  split_ifs with terminal
  · exact get_amend_last (by simpa using mapping) [] "kind" (.str "final") (by decide) _
  · exact replaced

end Candidate

/-! ### What an accepted import writes -/

section Imported

variable (request : ImportRequest) (importedAtMs : Int) {candidate : DynValue}
  (mapping : candidate.isMapping = true)

include mapping

/-- Nothing that the judgement reads is changed. -/
theorem imported_judged {field : String} (judged : field ∈ judgedFields) :
    (candidate.amend (importedChanges request importedAtMs)).get field = candidate.get field := by
  apply get_amend mapping
  have apart : ∀ field ∈ judgedFields,
      field ∉ ["reconciliation_status", "evidence_debt_reason", "evidence_debt_at_ms",
        "missing_close_order_identity", "billing_reconciliation_required", "reconciliation_mode",
        "next_attempt_ms", "attempt_count", "operator_evidence"] := by
    decide
  exact apart field judged

theorem imported_reason :
    (candidate.amend (importedChanges request importedAtMs)).member? "evidence_debt_reason" =
      none :=
  member_amend_last mapping [("reconciliation_status", some (.str "operator_evidence_imported"))]
    ("evidence_debt_reason", none) (by simp)

theorem imported_status :
    (candidate.amend (importedChanges request importedAtMs)).get "reconciliation_status" =
      .str "operator_evidence_imported" := by
  have later : "reconciliation_status" ∉
      (importedChanges request importedAtMs).tail.map Prod.fst := by
    simp [importedChanges]
  exact get_amend_last mapping [] "reconciliation_status" (.str "operator_evidence_imported")
    later .null

theorem imported_evidence :
    (candidate.amend (importedChanges request importedAtMs)).get "operator_evidence" =
      .dict ([("reference", .str request.reference), ("sha256", .str request.digest),
        ("imported_at_ms", .int importedAtMs)] ++
        if request.terminalizeOrphanPartial then
          [("terminalized_orphan_partial", .bool true)]
        else []) :=
  get_amend_last mapping ((importedChanges request importedAtMs).take 8) "operator_evidence" _
    List.not_mem_nil .null

/-- The imported record holds the evidence of the request. -/
theorem imported_held [TextCase] (hex : isHexDigest request.digest = true) :
    request.heldBy (candidate.amend (importedChanges request importedAtMs)) = true := by
  rw [ImportRequest.heldBy]
  simp only [imported_status request importedAtMs mapping,
    imported_evidence request importedAtMs mapping]
  simp [isText, isMapping, DynValue.get, member?, OrderedDict.lookupEntries, textOf_str,
    lower_digest hex]

theorem imported_terminal (terminal : request.terminalizeOrphanPartial = true) :
    (((candidate.amend (importedChanges request importedAtMs)).get "operator_evidence").get
      "terminalized_orphan_partial").isTrue = true := by
  rw [imported_evidence request importedAtMs mapping, terminal]
  rfl

end Imported

/-! ### The record in place of the debt -/

section Replacement

variable {state : RuntimeState} {call : EvidenceImport} {request : ImportRequest}
  {queue : List DynValue} {existing record : DynValue}

/-- What an accepted replacement has passed. -/
theorem replacement_passed
    (replaced : replacement state call request queue existing = .ok record) :
    isDebt existing = true ∧
      (request.terminalizeOrphanPartial = true → orphanGap state request queue = none) ∧
      pendingCloseReconciliationImportReason (importCandidate request call.item existing) = none ∧
      record = (importCandidate request call.item existing).amend
        (importedChanges request (reconciliationInt call.importedAtMs)) := by
  rw [replacement] at replaced
  split_ifs at replaced with other
  dsimp only at replaced
  cases gap : replacementGap state request queue (importCandidate request call.item existing) with
  | some reason =>
    rw [gap] at replaced
    cases replaced
  | none =>
    rw [gap] at replaced
    rw [replacementGap, Option.or_eq_none_iff, Option.or_eq_none_iff, Option.map_eq_none_iff] at gap
    obtain ⟨⟨orphan, passes⟩, _⟩ := gap
    refine ⟨by simpa [isDebt] using other, fun terminal => ?_, passes,
      (Except.ok.inj replaced).symm⟩
    rwa [if_pos terminal] at orphan

variable (mapping : existing.isMapping = true)
  (replaced : replacement state call request queue existing = .ok record)

include mapping replaced

theorem record_judged {field : String} (judged : field ∈ judgedFields)
    (other : field ∉ evidenceFields) : record.get field = existing.get field := by
  obtain ⟨_, _, _, rfl⟩ := replacement_passed replaced
  rw [imported_judged _ _ (by rw [isMapping_candidate, mapping]) judged,
    candidate_get _ _ mapping other]

theorem record_mapping : record.isMapping = true := by
  obtain ⟨_, _, _, rfl⟩ := replacement_passed replaced
  rw [isMapping_amend, isMapping_candidate, mapping]

theorem record_kind :
    record.get "kind" =
      if request.terminalizeOrphanPartial then .str "final" else existing.get "kind" := by
  obtain ⟨_, _, _, rfl⟩ := replacement_passed replaced
  rw [imported_judged _ _ (by rw [isMapping_candidate, mapping]) (by decide),
    candidate_kind _ _ mapping]

/-- The record passes the judgement and is no debt any more. -/
theorem record_settled :
    record.member? "evidence_debt_reason" = none ∧ isDebt record = false ∧
      pendingCloseReconciliationImportReason record = none := by
  obtain ⟨_, _, passes, rfl⟩ := replacement_passed replaced
  have candidateMapping : (importCandidate request call.item existing).isMapping = true := by
    rw [isMapping_candidate, mapping]
  refine ⟨imported_reason _ _ candidateMapping, ?_, ?_⟩
  · rw [isDebt, imported_status _ _ candidateMapping]
    decide
  · refine (import_reason_congr (isMapping_amend _ _) ?_).trans passes
    exact fun field judged => imported_judged _ _ candidateMapping judged

/-- The record answers to the names of the debt, with its own kind. -/
theorem record_names (kind : String) :
    request.names kind record =
      (decide (textOf (existing.get "position_id") = request.positionId) &&
        decide ((if request.terminalizeOrphanPartial then "final"
          else reconciliationKind existing) = kind) &&
        decide (reconciliationInt (existing.get "closed_at_ms") = request.closedAtMs)) := by
  have recordKind : reconciliationKind record =
      if request.terminalizeOrphanPartial then "final" else reconciliationKind existing := by
    rw [reconciliationKind, record_kind mapping replaced]
    split_ifs
    · rfl
    · rfl
  rw [ImportRequest.names, record_mapping mapping replaced, recordKind,
    record_judged mapping replaced (by decide) (by decide),
    record_judged mapping replaced (by decide) (by decide), Bool.true_and]

end Replacement

/-! ## One import -/

/-- The only record that a test holds for, in its place. -/
theorem only_match {α : Type} {test : α → Bool} {items : List α} {found : α}
    (only : items.filter test = [found]) :
    ∃ earlier later, items = earlier ++ found :: later ∧ test found = true ∧
      (∀ other ∈ earlier ++ later, test other = false) ∧
      ∀ fresh, items.set (items.findIdx test) fresh = earlier ++ fresh :: later := by
  obtain ⟨earlier, later, rfl, before, holds, after⟩ := List.filter_eq_cons_iff.mp only
  have position : (earlier ++ found :: later).findIdx test = earlier.length := by
    rw [List.findIdx_append, List.findIdx_eq_length_of_false (by simpa using before),
      List.findIdx_cons, holds]
    simp
  refine ⟨earlier, later, rfl, holds, ?_, ?_⟩
  · intro other member
    obtain inEarlier | inLater := List.mem_append.mp member
    · simpa using before other inEarlier
    · simpa using List.filter_eq_nil_iff.mp after other inLater
  · intro fresh
    rw [position]
    simp

/-- An import that was accepted before: the record holds its evidence. -/
def HeldAlready [TextCase] (request : ImportRequest) (queue : List DynValue) (record : DynValue) : Prop :=
  record ∈ queue ∧ request.heldBy record = true ∧
    (request.owns record = true ∨
      request.terminalizeOrphanPartial = true ∧ request.terminalized record = true)

/-- Exactly one record changes: the debt of the request, which no other record answers to. -/
def ReplacesDebt (request : ImportRequest) (queue changed : List DynValue) (record : DynValue) :
    Prop :=
  ∃ earlier debt later, queue = earlier ++ debt :: later ∧
    changed = earlier ++ record :: later ∧
    request.owns debt = true ∧ isDebt debt = true ∧
    (∀ other ∈ earlier ++ later, request.owns other = false) ∧
    isDebt record = false ∧
    record.get "position_id" = debt.get "position_id" ∧
    record.get "closed_at_ms" = debt.get "closed_at_ms" ∧
    record.member? "evidence_debt_reason" = none ∧
    pendingCloseReconciliationImportReason record = none

section Resolve

variable {state : RuntimeState} {call : EvidenceImport} {request : ImportRequest}

theorem resolve_held [TextCase] {existing : DynValue}
    (only : state.pendingCloseReconciliations.filter request.owns = [existing])
    (allowed : call.allowIdempotent = true) (held : request.heldBy existing = true) :
    resolveImport state call request = (state, .ok existing) := by
  rw [resolveImport]
  rw [only]
  simp [allowed, held]

/-- Without a single owner, the record that the orphan became is answered. -/
theorem resolve_terminalized [TextCase] {imported : DynValue}
    (unowned : ∀ existing,
      state.pendingCloseReconciliations.filter request.owns ≠ [existing])
    (allowed : call.allowIdempotent = true) (terminal : request.terminalizeOrphanPartial = true)
    (only : state.pendingCloseReconciliations.filter request.terminalized = [imported]) :
    resolveImport state call request = (state, .ok imported) := by
  rw [resolveImport]
  split
  · rename_i existing owned
    exact absurd owned (unowned existing)
  · rw [allowed, terminal, only]
    rfl

theorem owns_orphan {record : DynValue} (terminal : request.terminalizeOrphanPartial = true) :
    request.owns record = request.names "partial" record := by
  rw [ImportRequest.owns, ImportRequest.ownerKind, if_pos terminal]

/-- A replacement is found again by the same call, and nothing changes then. -/
theorem replaced_repeats [TextCase] {earlier later : List DynValue} {debt record : DynValue}
    (hex : isHexDigest request.digest = true) (mapping : debt.isMapping = true)
    (owned : request.owns debt = true)
    (others : ∀ other ∈ earlier ++ later, request.owns other = false)
    (replaced : replacement state call request (earlier ++ debt :: later) debt = .ok record)
    {after : RuntimeState} (changed : after.pendingCloseReconciliations = earlier ++ record :: later) :
    resolveImport after { call with allowIdempotent := true } request = (after, .ok record) := by
  have held : request.heldBy record = true := by
    obtain ⟨_, _, _, rfl⟩ := replacement_passed replaced
    exact imported_held _ _ (by rw [isMapping_candidate, mapping]) hex
  have names := record_names mapping replaced
  have alone {test : DynValue → Bool} (holds : test record = true)
      (apart : ∀ other ∈ earlier ++ later, test other = false) :
      after.pendingCloseReconciliations.filter test = [record] := by
    rw [changed, List.filter_append, List.filter_cons_of_pos holds,
      List.filter_eq_nil_iff.mpr (fun other member => by
        rw [apart other (List.mem_append_left _ member)]
        decide),
      List.filter_eq_nil_iff.mpr (fun other member => by
        rw [apart other (List.mem_append_right _ member)]
        decide)]
    rfl
  by_cases terminal : request.terminalizeOrphanPartial = true
  · rw [owns_orphan terminal, ImportRequest.names] at owned
    simp only [Bool.and_eq_true, decide_eq_true_eq] at owned
    obtain ⟨⟨⟨_, position⟩, kind⟩, closedAt⟩ := owned
    have unowned : request.owns record = false := by
      rw [owns_orphan terminal, names, if_pos terminal]
      simp
    have final : request.names "final" record = true := by
      rw [names, if_pos terminal, position, closedAt]
      simp
    have orphan := (replacement_passed replaced).2.1 terminal
    rw [orphanGap] at orphan
    split_ifs at orphan with isOpen successor
    have apart : ∀ other ∈ earlier ++ later, request.terminalized other = false := by
      intro other member
      by_contra isTerminalized
      rw [Bool.not_eq_false, ImportRequest.terminalized, ImportRequest.names] at isTerminalized
      simp only [Bool.and_eq_true, decide_eq_true_eq] at isTerminalized
      obtain ⟨⟨⟨⟨⟨isRecord, samePosition⟩, isFinal⟩, _⟩, _⟩, _⟩ := isTerminalized
      apply successor
      rw [List.any_eq_true]
      refine ⟨other, ?_, by simp [isRecord, samePosition, isFinal]⟩
      rw [List.mem_append, List.mem_cons]
      obtain inEarlier | inLater := List.mem_append.mp member
      · exact Or.inl inEarlier
      · exact Or.inr (Or.inr inLater)
    have holds : request.terminalized record = true := by
      rw [ImportRequest.terminalized, final, held, Bool.true_and, Bool.true_and]
      obtain ⟨_, _, _, rfl⟩ := replacement_passed replaced
      exact imported_terminal _ _ (by rw [isMapping_candidate, mapping]) terminal
    refine resolve_terminalized ?_ rfl terminal (alone holds apart)
    intro existing found
    have member : existing ∈ after.pendingCloseReconciliations.filter request.owns := by
      rw [found]
      exact List.mem_cons_self
    obtain ⟨listed, isOwned⟩ := List.mem_filter.mp member
    rw [changed, List.mem_append, List.mem_cons] at listed
    obtain inEarlier | rfl | inLater := listed
    · rw [others existing (List.mem_append_left _ inEarlier)] at isOwned
      cases isOwned
    · rw [unowned] at isOwned
      cases isOwned
    · rw [others existing (List.mem_append_right _ inLater)] at isOwned
      cases isOwned
  · have stillOwned : request.owns record = true := by
      rw [ImportRequest.owns, names, if_neg terminal]
      rw [ImportRequest.owns, ImportRequest.names] at owned
      simp only [Bool.and_eq_true, decide_eq_true_eq] at owned ⊢
      exact ⟨⟨owned.1.1.2, owned.1.2⟩, owned.2⟩
    exact resolve_held (alone stillOwned others) rfl held

end Resolve

/-- Queue of records, as normalisation leaves it. -/
def IsNormalized (queue : List DynValue) : Prop :=
  (∀ record ∈ queue, record.isMapping = true) ∧ queue.length ≤ maxPendingCloseReconciliations

theorem normalizedQueue_normal (state : RuntimeState) :
    IsNormalized (normalizedQueue state).pendingCloseReconciliations := by
  have stored : (normalizedQueue state).pendingCloseReconciliations =
      setPendingCloseReconciliations (.list state.pendingCloseReconciliations) := by
    rw [normalizedQueue]
  rw [stored]
  exact And.intro (fun _ => set_mapping) (set_length _)

theorem normalized_again {state : RuntimeState}
    (normal : IsNormalized state.pendingCloseReconciliations) : normalizedQueue state = state := by
  rw [normalizedQueue, set_stored normal.2 normal.1]

/-- What an import into a normalised queue can do. -/
def ResolveOutcome [TextCase] (state : RuntimeState) (call : EvidenceImport)
    (request : ImportRequest) (after : RuntimeState) : Except String DynValue → Prop
  | .error _ => after = state
  | .ok record =>
    (after = state ∧ call.allowIdempotent = true ∧
        HeldAlready request state.pendingCloseReconciliations record ∨
      after = { state with
          pendingCloseReconciliations := after.pendingCloseReconciliations } ∧
        IsNormalized after.pendingCloseReconciliations ∧
        ReplacesDebt request state.pendingCloseReconciliations
          after.pendingCloseReconciliations record) ∧
      resolveImport after { call with allowIdempotent := true } request = (after, .ok record)

theorem resolve_outcome [TextCase] {state : RuntimeState} {call : EvidenceImport}
    {request : ImportRequest} (normal : IsNormalized state.pendingCloseReconciliations)
    (hex : isHexDigest request.digest = true) {after : RuntimeState}
    {answer : Except String DynValue}
    (resolved : resolveImport state call request = (after, answer)) :
    ResolveOutcome state call request after answer := by
  rw [resolveImport] at resolved
  split at resolved
  · rename_i existing only
    obtain ⟨earlier, later, split, owned, others, written⟩ := only_match only
    split_ifs at resolved with held
    · cases resolved
      rw [Bool.and_eq_true] at held
      refine ⟨Or.inl ⟨rfl, held.1, ?_, held.2, Or.inl owned⟩, resolve_held only rfl held.2⟩
      rw [split]
      simp
    · cases replaced : replacement state call request state.pendingCloseReconciliations existing with
      | error reason =>
        rw [replaced] at resolved
        cases resolved
        rfl
      | ok record =>
        rw [replaced] at resolved
        dsimp only at resolved
        rw [written] at resolved
        cases resolved
        rw [split] at replaced
        have mapping : existing.isMapping = true := normal.1 existing (by rw [split]; simp)
        obtain ⟨cleared, settled, passes⟩ := record_settled mapping replaced
        refine ⟨Or.inr ⟨rfl, ⟨?_, ?_⟩, earlier, existing, later, split, rfl, owned,
          (replacement_passed replaced).1, others, settled,
          record_judged mapping replaced (by decide) (by decide),
          record_judged mapping replaced (by decide) (by decide), cleared, passes⟩, ?_⟩
        · intro other member
          rw [List.mem_append, List.mem_cons] at member
          obtain inEarlier | rfl | inLater := member
          · exact normal.1 other (by rw [split]; simp [inEarlier])
          · exact record_mapping mapping replaced
          · exact normal.1 other (by rw [split]; simp [inLater])
        · have length := normal.2
          rw [split] at length
          simpa using length
        · exact replaced_repeats hex mapping owned others replaced rfl
  · rename_i unowned
    split at resolved
    · rename_i imported flags only
      cases resolved
      rw [Bool.and_eq_true] at flags
      have member : imported ∈ state.pendingCloseReconciliations.filter request.terminalized := by
        rw [only]
        exact List.mem_cons_self
      obtain ⟨listed, isTerminalized⟩ := List.mem_filter.mp member
      have held := isTerminalized
      rw [ImportRequest.terminalized, Bool.and_eq_true, Bool.and_eq_true] at held
      exact ⟨Or.inl ⟨rfl, flags.2, listed, held.1.2, Or.inr ⟨flags.1, isTerminalized⟩⟩,
        resolve_terminalized unowned rfl flags.1 only⟩
    · cases resolved
      rfl

/-- A refused import leaves the queue as it was normalised, or as it was when the arguments are
refused. An accepted one finds its evidence in the queue, or replaces exactly one debt; repeated,
it answers the same and changes nothing. -/
theorem import_atomic [TextCase] (state : RuntimeState) (call : EvidenceImport) :
    match importPendingCloseReconciliationEvidence state call with
    | (after, .error _) =>
      after = if (importRequest call).isOk then normalizedQueue state else state
    | (after, .ok record) =>
      (after = normalizedQueue state ∧ call.allowIdempotent = true ∧
          HeldAlready (readRequest call) (normalizedQueue state).pendingCloseReconciliations
            record ∨
        after = { state with
            pendingCloseReconciliations := after.pendingCloseReconciliations } ∧
          ReplacesDebt (readRequest call) (normalizedQueue state).pendingCloseReconciliations
            after.pendingCloseReconciliations record) ∧
        importPendingCloseReconciliationEvidence after { call with allowIdempotent := true } =
          (after, .ok record) := by
  rw [importPendingCloseReconciliationEvidence]
  cases checked : importRequest call with
  | error reason => simp [Except.isOk, Except.toBool]
  | ok request =>
    have read : request = readRequest call := (checked_request checked).1
    have normal := normalizedQueue_normal state
    dsimp only
    cases resolved : resolveImport (normalizedQueue state) call request with
    | mk after answer =>
      have outcome := resolve_outcome normal (request_digest checked) resolved
      cases answer with
      | error reason => exact outcome
      | ok record =>
        obtain ⟨found, again⟩ := outcome
        have stillNormal : IsNormalized after.pendingCloseReconciliations := by
          obtain ⟨rfl, _⟩ | ⟨_, kept, _⟩ := found
          · exact normal
          · exact kept
        refine ⟨?_, ?_⟩
        · rw [← read]
          obtain ⟨same, held⟩ | ⟨same, _, replaces⟩ := found
          · exact Or.inl ⟨same, held⟩
          · rw [normalizedQueue] at same
            exact Or.inr (And.intro same replaces)
        · have repeated := request_repeated checked
          rw [importPendingCloseReconciliationEvidence, repeated]
          dsimp only
          rw [normalized_again stillNormal]
          exact again

/-! ### Refused arguments and evidence that is held -/

/-- A state whose queue holds something that is no record. -/
def unreadState : RuntimeState := { engine := {}, pendingCloseReconciliations := [.null] }

/-- A record that holds the evidence of the call. -/
def importedState : RuntimeState where
  engine := {}
  pendingCloseReconciliations :=
    [.dict [("position_id", .str "p1"), ("closed_at_ms", .int 5),
      ("reconciliation_status", .str "operator_evidence_imported"),
      ("operator_evidence", .dict [("reference", .str "ticket"),
        ("sha256", .str (String.ofList (List.replicate 64 'a')))])]]

def ticketImport : EvidenceImport where
  item := .dict [("position_id", .str "p1"), ("closed_at_ms", .int 5)]
  evidenceReference := .str "ticket"
  evidenceSha256 := .str (String.ofList (List.replicate 64 'a'))
  importedAtMs := .int 7
  allowIdempotent := true

local instance asciiImportCase : TextCase := TextCase.ascii

theorem ticket_held :
    (readRequest ticketImport).heldBy (importedState.pendingCloseReconciliations.headD .null) =
      true := by
  have lowered : TextCase.lower (String.ofList (List.replicate 64 'a')) =
      String.ofList (List.replicate 64 'a') :=
    lower_digest (by decide +kernel)
  have stored : textOf (((importedState.pendingCloseReconciliations.headD .null).get
      "operator_evidence").get "sha256") = String.ofList (List.replicate 64 'a') := by
    decide +kernel
  have read : TextSearch.strip (textOf ticketImport.evidenceSha256) =
      String.ofList (List.replicate 64 'a') := by
    decide +kernel
  have same : TextCase.lower (textOf (((importedState.pendingCloseReconciliations.headD .null).get
      "operator_evidence").get "sha256")) = (readRequest ticketImport).digest := by
    rw [stored, readRequest, read]
  rw [ImportRequest.heldBy, same, decide_eq_true rfl]
  decide +kernel

/-- Refused arguments leave the queue as it was, and a repetition replaces no record. -/
theorem import_leaves_queue :
    ((importPendingCloseReconciliationEvidence unreadState
          { ticketImport with item := .null }).2.isOk = false ∧
        (importPendingCloseReconciliationEvidence unreadState
          { ticketImport with item := .null }).1.pendingCloseReconciliations.map isMapping =
            [false] ∧
        (normalizedQueue unreadState).pendingCloseReconciliations.map isMapping = [true]) ∧
      ∃ record, importPendingCloseReconciliationEvidence importedState ticketImport =
        (normalizedQueue importedState, .ok record) := by
  have passed : ((requestChecks ticketImport (readRequest ticketImport)).find? Prod.fst).isNone =
      true := by
    decide +kernel
  have checked : importRequest ticketImport = .ok (readRequest ticketImport) := by
    rw [importRequest, Option.isNone_iff_eq_none.mp passed]
  have owned : (readRequest ticketImport).owns
      (importedState.pendingCloseReconciliations.headD .null) = true := by
    decide +kernel
  refine ⟨by decide +kernel, importedState.pendingCloseReconciliations.headD .null, ?_⟩
  rw [importPendingCloseReconciliationEvidence, checked]
  exact resolve_held (List.filter_cons_of_pos owned) rfl ticket_held

end LightFee.Engine
