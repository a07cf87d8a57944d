import LightFee.Engine.RecoveryOwnerIndex
import Mathlib.Data.List.Induction

/-!
# Owners that the journal still names

Before an entry submits an order it journals a claim to it. The claim stays an owner
until the journal shows a handoff to a successor or the closure of the pending
entry. Handoffs and closures are collected over the whole list of events first; a
handoff to a pending entry or an open position counts when that one was journaled
before it.
-/

namespace LightFee.Engine

open DynValue

namespace RecoveryOwnerIndex

section

variable [TextCase]

/-! ## Reading events -/

def eventPayload (event : DynValue) : DynValue := event.get "payload" (.dict [])

def eventKind (event : DynValue) : String := TextCase.lower (ownerText (event.get "kind" (.str "")))

/-- `_journal_owner_key`. -/
def journalOwnerKey (payload : DynValue) : String :=
  ownerText (((((payload.get "entry_id").orElse (payload.get "pending_id")).orElse
    (payload.get "position_id")).orElse (payload.get "source_entry_id")).orElse
    (payload.get "internal_entry_id"))

/-- The texts of some fields that have one, each once. -/
def uniqueTexts (payload : DynValue) (fields : List String) : List String :=
  ((fields.map (fun field => ownerText (payload.get field))).filter (fun text => text ≠ "")).eraseDups

/-- `_journal_owner_identifiers`. -/
def journalOwnerIdentifiers (payload : DynValue) : List String :=
  uniqueTexts payload ["entry_id", "pending_id", "position_id", "owner_id", "source_entry_id",
    "internal_entry_id"]

/-- `_journal_order_identifier_sets`: order ids and client order ids. -/
def journalOrderIdentifierSets (payload : DynValue) : List String × List String :=
  (uniqueTexts payload ["order_id", "maker_order_id", "hedge_order_id", "exchange_order_id"],
    uniqueTexts payload ["client_order_id", "maker_client_order_id", "hedge_client_order_id",
      "clientOrderId"])

/-- The leg that a claim names under the keys of one side. -/
def claimedLeg (payload : DynValue) (symbol venueKey sideKey quantityKey : String) :
    List (String × String × String × ExactFloat) :=
  let venue := normalizeVenue (payload.get venueKey)
  let quantity := floatOf (payload.get quantityKey)
  let side := sideOf (payload.get sideKey)
  if venue ≠ "" ∧ (ExactFloat.finite 0).lt quantity ∧ side ≠ "" then
    [(venue, Venues.canonicalSymbolFromVenue venue symbol, side, quantity)]
  else []

/-- `_journal_position_specs`: the legs of a claim; older records name no venue. -/
def journalPositionSpecs (event payload : DynValue) :
    List (String × String × String × ExactFloat) :=
  let symbol := TextCase.upper (ownerText (payload.get "symbol"))
  if eventKind event ≠ "runtime.entry_owner_claimed" ∨ symbol = "" then []
  else claimedLeg payload symbol "long_venue" "long_side" "long_quantity" ++
    claimedLeg payload symbol "short_venue" "short_side" "short_quantity"

/-- `_journal_live_position_probe_evidence`. -/
def journalLivePositionProbeEvidence (event payload : DynValue) : Bool :=
  let conflict := "positive_fill_live_truth_conflict"
  let outcome := TextCase.lower (ownerText (payload.get "outcome"))
  if eventKind event = "pending_entry.terminalizer_decision" ∧ outcome ≠ conflict then false
  else if !(["pending_entry.positive_fill_live_truth_conflict",
      "pending_entry.terminalizer_decision"].contains (eventKind event)) then false
  else (ExactFloat.finite 0).lt (floatOf (payload.get "live_long_quantity")) ||
    (ExactFloat.finite 0).lt (floatOf (payload.get "live_short_quantity"))

/-! ## Retired claims -/

/-- `_terminal_pending_owner_ids`. -/
def terminalPendingOwnerIds (events : List DynValue) : List String :=
  (events.filter (fun event =>
    eventKind event = "pending_entry.removed_by_v1_lifecycle_closure" &&
      (eventPayload event).isMapping)).flatMap (fun event =>
    journalOwnerIdentifiers (eventPayload event))

/-- What the loop over handoffs has seen. -/
structure HandoffScan where
  completed : List String := []
  priorPending : List String := []
  priorOpen : List String := []

def HandoffScan.complete (scan : HandoffScan) (key : String) : HandoffScan :=
  { scan with completed := scan.completed ++ [key] }

def handoffDestination (payload : DynValue) : String :=
  TextCase.lower (ownerText (payload.get "owner_destination"))

/-- One event of `_durably_handed_off_claims`. -/
def HandoffScan.step (scan : HandoffScan) (event : DynValue) : HandoffScan :=
  let payload := eventPayload event
  let kind := eventKind event
  let key := journalOwnerKey payload
  if !payload.isMapping then scan
  else if kind = "entry.pending_registered" ∧ key ≠ "" then
    { scan with priorPending := scan.priorPending ++ [key] }
  else if kind = "entry.opened" ∧ key ≠ "" then
    { scan with priorOpen := scan.priorOpen ++ [key] }
  else if kind ≠ "runtime.entry_owner_handoff_complete" ∨ key = "" then scan
  else if handoffDestination payload = "pending_entry" then
    if scan.priorPending.contains key then scan.complete key else scan
  else if handoffDestination payload = "open_position" then
    if scan.priorOpen.contains key then scan.complete key else scan
  -- older records name no destination, and a rejected entry has no successor
  else scan.complete key

/-- `_durably_handed_off_claims`. -/
def durablyHandedOffClaims (events : List DynValue) : List String :=
  (events.foldl HandoffScan.step {}).completed

/-- Whether an event of the list still names an owner. -/
def isActiveOwnerEvent (events : List DynValue) (event : DynValue) : Bool :=
  let payload := eventPayload event
  let kind := eventKind event
  if !payload.isMapping then false
  else if kind ≠ "entry.opened" ∧
      (journalOwnerIdentifiers payload).any (terminalPendingOwnerIds events).contains then false
  else if kind = "runtime.entry_owner_handoff_incomplete" then false
  else if kind = "runtime.entry_owner_claimed" ∧
      (durablyHandedOffClaims events).contains (journalOwnerKey payload) then false
  else !(journalOrderIdentifierSets payload).1.isEmpty ||
    !(journalOrderIdentifierSets payload).2.isEmpty ||
    !(journalPositionSpecs event payload).isEmpty || journalLivePositionProbeEvidence event payload

def activeJournalOwnerEvents (events : List DynValue) : List DynValue :=
  events.filter (isActiveOwnerEvent events)

/-! ## What retires a claim -/

/-- A mapping of this kind was journaled for an owner. -/
def Journaled (kind key : String) (events : List DynValue) : Prop :=
  ∃ event ∈ events, (eventPayload event).isMapping = true ∧ eventKind event = kind ∧
    journalOwnerKey (eventPayload event) = key

/-- A handoff of the owner whose successor, when it names one, was journaled before. -/
structure HandsOff (prior : List DynValue) (key : String) (event : DynValue) : Prop where
  mapping : (eventPayload event).isMapping = true
  kind : eventKind event = "runtime.entry_owner_handoff_complete"
  named : key ≠ ""
  owner : journalOwnerKey (eventPayload event) = key
  pending : handoffDestination (eventPayload event) = "pending_entry" →
    Journaled "entry.pending_registered" key prior
  opened : handoffDestination (eventPayload event) = "open_position" →
    Journaled "entry.opened" key prior

/-- The closure of a pending entry that shares an owner id with the claim. -/
structure Closes (event claim : DynValue) : Prop where
  mapping : (eventPayload event).isMapping = true
  kind : eventKind event = "pending_entry.removed_by_v1_lifecycle_closure"
  shared : ∃ id ∈ journalOwnerIdentifiers (eventPayload claim),
    id ∈ journalOwnerIdentifiers (eventPayload event)

/-- An event that retires a claim, given the events before it. -/
def Retires (prior : List DynValue) (event claim : DynValue) : Prop :=
  HandsOff prior (journalOwnerKey (eventPayload claim)) event ∨ Closes event claim

/-- Somewhere in the events an event retires the claim. -/
def RetiredWithin (prior events : List DynValue) (claim : DynValue) : Prop :=
  ∃ front event rest, events = front ++ event :: rest ∧ Retires (prior ++ front) event claim

/-- A pre-submit claim with an order id or a client order id. -/
structure IsOrderClaim (event : DynValue) : Prop where
  mapping : (eventPayload event).isMapping = true
  kind : eventKind event = "runtime.entry_owner_claimed"
  ordered : (journalOrderIdentifierSets (eventPayload event)).1 ≠ [] ∨
    (journalOrderIdentifierSets (eventPayload event)).2 ≠ []

/-! ## What the scan has seen -/

theorem journaled_append {kind key : String} {events : List DynValue}
    (journaled : Journaled kind key events) (more : List DynValue) :
    Journaled kind key (events ++ more) := by
  obtain ⟨event, member, found⟩ := journaled
  exact ⟨event, List.mem_append_left more member, found⟩

/-- Everything that the scan holds was journaled. -/
structure HandoffScan.Backed (scan : HandoffScan) (events : List DynValue) : Prop where
  pending : ∀ key ∈ scan.priorPending, Journaled "entry.pending_registered" key events
  opened : ∀ key ∈ scan.priorOpen, Journaled "entry.opened" key events
  completed : ∀ key ∈ scan.completed,
    ∃ front event rest, events = front ++ event :: rest ∧ HandsOff front key event

theorem backed_more {scan : HandoffScan} {events : List DynValue} (backed : scan.Backed events)
    (event : DynValue) : scan.Backed (events ++ [event]) where
  pending key member := journaled_append (backed.pending key member) [event]
  opened key member := journaled_append (backed.opened key member) [event]
  completed := by
    intro key member
    obtain ⟨front, handoff, rest, rfl, handsOff⟩ := backed.completed key member
    exact ⟨front, handoff, rest ++ [event], by simp, handsOff⟩

/-- A handoff at the end of the events completes its claim. -/
theorem backed_complete {scan : HandoffScan} {events : List DynValue}
    (backed : scan.Backed events) {event : DynValue} {key : String}
    (handsOff : HandsOff events key event) : (scan.complete key).Backed (events ++ [event]) where
  pending := (backed_more backed event).pending
  opened := (backed_more backed event).opened
  completed := by
    intro other member
    obtain old | new := List.mem_append.mp member
    · exact (backed_more backed event).completed other old
    · rw [List.mem_singleton.mp new]
      exact ⟨events, event, [], rfl, handsOff⟩

theorem backed_step {scan : HandoffScan} {events : List DynValue} (backed : scan.Backed events)
    (event : DynValue) : (scan.step event).Backed (events ++ [event]) := by
  have carried := backed_more backed event
  have here : event ∈ events ++ [event] := List.mem_append_right events List.mem_cons_self
  unfold HandoffScan.step
  dsimp only
  split_ifs with unmapped registered opened other toPending known toOpen known
  · exact carried
  · refine ⟨?_, carried.opened, carried.completed⟩
    intro key member
    obtain old | new := List.mem_append.mp member
    · exact carried.pending key old
    · rw [List.mem_singleton.mp new]
      exact ⟨event, here, by simpa using unmapped, registered.1, rfl⟩
  · refine ⟨carried.pending, ?_, carried.completed⟩
    intro key member
    obtain old | new := List.mem_append.mp member
    · exact carried.opened key old
    · rw [List.mem_singleton.mp new]
      exact ⟨event, here, by simpa using unmapped, opened.1, rfl⟩
  · exact carried
  · push Not at other
    refine backed_complete backed ⟨by simpa using unmapped, other.1, other.2, rfl, ?_, ?_⟩
    · intro _
      exact backed.pending _ (List.contains_iff_mem.mp known)
    · intro toOpen
      rw [toPending] at toOpen
      exact absurd toOpen (by decide)
  · exact carried
  · push Not at other
    refine backed_complete backed ⟨by simpa using unmapped, other.1, other.2, rfl, ?_, ?_⟩
    · intro toPending'
      exact absurd toPending' toPending
    · intro _
      exact backed.opened _ (List.contains_iff_mem.mp known)
  · exact carried
  · push Not at other
    exact backed_complete backed ⟨by simpa using unmapped, other.1, other.2, rfl,
      fun same => absurd same toPending, fun same => absurd same toOpen⟩

theorem backed_scan (events : List DynValue) : (events.foldl HandoffScan.step {}).Backed events := by
  induction events using List.reverseRecOn with
  | nil => exact ⟨by simp, by simp, by simp⟩
  | append_singleton events event ih =>
    rw [List.foldl_append]
    exact backed_step ih event

/-! ## Dropped claims -/

theorem mem_terminalPendingOwnerIds {events : List DynValue} {id : String}
    (member : id ∈ terminalPendingOwnerIds events) :
    ∃ event ∈ events, (eventPayload event).isMapping = true ∧
      eventKind event = "pending_entry.removed_by_v1_lifecycle_closure" ∧
      id ∈ journalOwnerIdentifiers (eventPayload event) := by
  obtain ⟨event, filtered, named⟩ := List.mem_flatMap.mp member
  obtain ⟨inEvents, closure⟩ := List.mem_filter.mp filtered
  simp only [Bool.and_eq_true, decide_eq_true_eq] at closure
  exact ⟨event, inEvents, closure.2, closure.1, named⟩

/-- A claim that is dropped was retired somewhere in the list. -/
theorem retired_of_dropped {events : List DynValue} {claim : DynValue}
    (isClaim : IsOrderClaim claim) (dropped : isActiveOwnerEvent events claim = false) :
    RetiredWithin [] events claim := by
  unfold isActiveOwnerEvent at dropped
  dsimp only at dropped
  split_ifs at dropped with unmapped closed incomplete completed
  · simp [isClaim.mapping] at unmapped
  · obtain ⟨id, named, terminal⟩ := List.any_eq_true.mp closed.2
    obtain ⟨event, member, mapping, kind, shared⟩ :=
      mem_terminalPendingOwnerIds (List.contains_iff_mem.mp terminal)
    obtain ⟨front, rest, rfl⟩ := List.append_of_mem member
    exact ⟨front, event, rest, rfl, Or.inr ⟨mapping, kind, id, named, shared⟩⟩
  · rw [isClaim.kind] at incomplete
    exact absurd incomplete (by decide)
  · obtain ⟨front, event, rest, split, handsOff⟩ :=
      (backed_scan events).completed _ (List.contains_iff_mem.mp completed.2)
    exact ⟨front, event, rest, split, Or.inl handsOff⟩
  · have ordered := isClaim.ordered
    simp only [Bool.or_eq_false_iff, Bool.not_eq_false', List.isEmpty_iff] at dropped
    obtain ⟨⟨⟨orders, clients⟩, _⟩, _⟩ := dropped
    simp [orders, clients] at ordered

/-- The retiring event stands before the claim or after it. -/
theorem retired_before_or_after {before after : List DynValue} {claim : DynValue}
    (isClaim : IsOrderClaim claim) (retired : RetiredWithin [] (before ++ claim :: after) claim) :
    RetiredWithin [] before claim ∨ RetiredWithin (before ++ [claim]) after claim := by
  obtain ⟨front, event, rest, split, retires⟩ := retired
  rw [List.append_eq_append_iff] at split
  obtain ⟨between, frontIs, afterIs⟩ | ⟨between, beforeIs, restIs⟩ := split
  · cases between with
    | nil =>
      rw [List.nil_append, List.cons.injEq] at afterIs
      obtain ⟨rfl, rfl⟩ := afterIs
      obtain handsOff | closes := retires
      · exact absurd (handsOff.kind.symm.trans isClaim.kind) (by decide)
      · exact absurd (closes.kind.symm.trans isClaim.kind) (by decide)
    | cons first between =>
      rw [List.cons_append, List.cons.injEq] at afterIs
      obtain ⟨rfl, rfl⟩ := afterIs
      refine Or.inr ⟨between, event, rest, rfl, ?_⟩
      rw [frontIs] at retires
      simpa using retires
  · cases between with
    | nil =>
      rw [List.nil_append, List.cons.injEq] at restIs
      obtain ⟨rfl, rfl⟩ := restIs
      obtain handsOff | closes := retires
      · exact absurd (handsOff.kind.symm.trans isClaim.kind) (by decide)
      · exact absurd (closes.kind.symm.trans isClaim.kind) (by decide)
    | cons first between =>
      rw [List.cons_append, List.cons.injEq] at restIs
      obtain ⟨rfl, rfl⟩ := restIs
      exact Or.inl ⟨front, event, between, beforeIs, retires⟩

/-- A dropped claim that nothing before it retires is retired by a later event. -/
theorem dropped_claim_retired_after (before after : List DynValue) (claim : DynValue)
    (isClaim : IsOrderClaim claim)
    (dropped : claim ∉ activeJournalOwnerEvents (before ++ claim :: after))
    (unretired : ¬ RetiredWithin [] before claim) :
    RetiredWithin (before ++ [claim]) after claim := by
  have inactive : isActiveOwnerEvent (before ++ claim :: after) claim = false := by
    rw [← Bool.not_eq_true]
    intro active
    exact dropped (List.mem_filter.mpr ⟨by simp, active⟩)
  have retired := retired_of_dropped isClaim inactive
  exact (retired_before_or_after isClaim retired).resolve_left unretired

/-! ## Entries of one owner -/

/-- Somewhere in the events a closure retires the claim, or a handoff that names a
journaled successor or no destination at all. -/
def RetiredByNamedHandoff (prior events : List DynValue) (claim : DynValue) : Prop :=
  ∃ front event rest, events = front ++ event :: rest ∧
    (Closes event claim ∨
      HandsOff (prior ++ front) (journalOwnerKey (eventPayload claim)) event ∧
        handoffDestination (eventPayload event) ∈ ["pending_entry", "open_position", ""])

end

/-- The claim that an entry journals before it submits. -/
def submittingClaim : DynValue :=
  .dict [("kind", .str "runtime.entry_owner_claimed"), ("payload", .dict [
    ("entry_id", .str "entry-1"), ("symbol", .str "BTCUSDT"),
    ("maker_client_order_id", .str "m1"), ("hedge_client_order_id", .str "h1")])]

def registeredPending : DynValue :=
  .dict [("kind", .str "entry.pending_registered"), ("payload", .dict [
    ("pending_id", .str "entry-1"), ("entry_id", .str "entry-1"), ("symbol", .str "BTCUSDT")])]

def handoffEvent (destination : String) : DynValue :=
  .dict [("kind", .str "runtime.entry_owner_handoff_complete"), ("payload", .dict [
    ("entry_id", .str "entry-1"), ("owner_destination", .str destination)])]

local instance asciiOwnerCase : TextCase := TextCase.ascii

theorem isOrderClaim_submitting : IsOrderClaim submittingClaim where
  mapping := rfl
  kind := by decide +kernel
  ordered := by decide +kernel

/-- A rejected entry's claim is dropped, and its handoff names another destination. -/
theorem rejected_claim_dropped : IsOrderClaim submittingClaim ∧
    submittingClaim ∉ activeJournalOwnerEvents [submittingClaim, handoffEvent "rejected"] ∧
      ¬ RetiredByNamedHandoff [submittingClaim] [handoffEvent "rejected"] submittingClaim := by
  refine ⟨isOrderClaim_submitting, ?_, ?_⟩
  · have dropped : isActiveOwnerEvent [submittingClaim, handoffEvent "rejected"] submittingClaim =
        false := by decide +kernel
    intro member
    rw [(List.mem_filter.mp member).2] at dropped
    cases dropped
  · rintro ⟨front, event, rest, split, retires⟩
    cases front with
    | cons first front => simp at split
    | nil =>
      rw [List.nil_append, List.cons.injEq] at split
      obtain ⟨rfl, rfl⟩ := split
      obtain closes | ⟨_, destination⟩ := retires
      · have kind := closes.kind
        revert kind
        decide +kernel
      · revert destination
        decide +kernel

/-- The claim of an entry that became a pending entry. -/
theorem dropped_claim_retired_after_registered :
    RetiredWithin [submittingClaim] [registeredPending, handoffEvent "pending_entry"]
      submittingClaim := by
  refine dropped_claim_retired_after [] _ submittingClaim isOrderClaim_submitting ?_ ?_
  · have dropped : isActiveOwnerEvent
        [submittingClaim, registeredPending, handoffEvent "pending_entry"] submittingClaim =
        false := by decide +kernel
    intro member
    rw [List.nil_append] at member
    rw [(List.mem_filter.mp member).2] at dropped
    cases dropped
  · rintro ⟨front, event, rest, split, _⟩
    simp at split

end RecoveryOwnerIndex

end LightFee.Engine
