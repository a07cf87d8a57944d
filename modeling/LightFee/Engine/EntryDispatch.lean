import LightFee.Engine.EntryOwnership
import LightFee.Engine.JournalOwnerEvents
import LightFee.Engine.SnapshotValue

/-!
# Dispatching an entry

Before an entry submits its first order it journals a claim to what the orders may do and takes a
slot of the engine's capacity. A position, a pending entry or a refusal hands the claim over and
gives the slot back; an executor that raises, or that leaves no successor, keeps both.

Whatever the point at which the process stops, an order that a venue may have executed is named by
the claim or by a successor. Lines of the journal that only report are left out; a result about the
journal holds whichever of them it has.
-/

namespace LightFee.Engine

open LightFee.Venues DynValue RecoveryOwnerIndex

/-! ## The lines of the journal -/

/-- A line of the journal. -/
def journalLine (kind : String) (payload : List (String × DynValue)) : DynValue :=
  .dict [("kind", .str kind), ("payload", .dict payload)]

/-- `runtime.entry_owner_claimed`. The maker's leg decides the venue of an order, never its side. -/
def ownerClaimed (print : ExactFloat → PrintedFloat) (generateExchangeCid : String → String → Venue → String)
    (context : EntryContext) : DynValue :=
  journalLine "runtime.entry_owner_claimed"
    [("entry_id", .str context.entryId), ("symbol", .str context.symbol),
      ("long_venue", .str context.longVenue.value), ("short_venue", .str context.shortVenue.value),
      ("long_side", .str Side.buy.value), ("short_side", .str Side.sell.value),
      ("long_quantity", .float (print context.longQuantity)),
      ("short_quantity", .float (print context.shortQuantity)),
      ("maker_client_order_id", .str (generateExchangeCid context.entryId "m" context.makerVenue)),
      ("hedge_client_order_id", .str (generateExchangeCid context.entryId "h" context.hedgeVenue)),
      ("owner_state", .str "submitting")]

/-- `entry.opened`, with the fields that name its owner and its orders. -/
def entryOpened (makerRequest hedgeRequest : EntryOrderRequest) (position : OpenPosition)
    (makerFill hedgeFill : Option OrderFill) : DynValue :=
  journalLine "entry.opened"
    [("position_id", .str position.positionId), ("symbol", .str position.symbol),
      ("internal_entry_id", .str position.positionId),
      ("maker_order_id", .str ((makerFill.map OrderFill.orderId).getD "")),
      ("hedge_order_id", .str ((hedgeFill.map OrderFill.orderId).getD "")),
      ("maker_client_order_id", .str makerRequest.clientOrderId),
      ("hedge_client_order_id", .str hedgeRequest.clientOrderId)]

/-- `entry.pending_registered`, without the stored entry. -/
def pendingRegistered (entryId : String) (pending : PendingEntry ExactFloat) : DynValue :=
  journalLine "entry.pending_registered"
    [("pending_id", .str pending.pendingId), ("entry_id", .str entryId),
      ("position_id", .str pending.pendingId), ("symbol", .str pending.symbol),
      ("long_venue", .str pending.longVenue.value), ("short_venue", .str pending.shortVenue.value),
      ("maker_client_order_id", .str pending.makerClientOrderId),
      ("hedge_client_order_id", .str pending.hedgeClientOrderId),
      ("persistence_schema", .str "engine_state.pending_entry.v1")]

/-- `runtime.entry_owner_handoff_incomplete`. -/
def handoffIncomplete (generateExchangeCid : String → String → Venue → String)
    (context : EntryContext) (result : EntryExecutionResult) : DynValue :=
  journalLine "runtime.entry_owner_handoff_incomplete"
    [("entry_id", .str context.entryId), ("symbol", .str context.symbol),
      ("route", .str result.route.value), ("state", .str result.state.value),
      ("maker_client_order_id", .str (generateExchangeCid context.entryId "m" context.makerVenue)),
      ("hedge_client_order_id", .str (generateExchangeCid context.entryId "h" context.hedgeVenue)),
      ("reason", .str "executor_completed_without_local_recovery_owner")]

/-- `runtime.entry_owner_handoff_complete`. -/
def handoffComplete (entryId destination : String) : DynValue :=
  journalLine "runtime.entry_owner_handoff_complete"
    [("entry_id", .str entryId), ("owner_destination", .str destination)]

/-! ## The dispatch -/

/-- What a dispatch does, one thing after another. -/
inductive DispatchEffect where
  /-- A critical append: the line is on the disk before the next effect. -/
  | journal (line : DynValue)
  | reserve (entryId : String)
  | release (entryId : String)
  | submit (submission : EntrySubmission)
  | openPosition (position : OpenPosition)
  | registerPending (pending : PendingEntry ExactFloat)

section Dispatch

variable [TextCase]

/-- `_entry_reject_is_post_only_would_take`. -/
def entryRejectIsPostOnlyWouldTake (reason : String) : Bool :=
  ["-5022", "could not be executed as maker", "post only order will be rejected",
    "gtx_order_reject", "post_only_would_take"].any (TextSearch.occursIn · (TextCase.lower reason))

/-- `_complete_entry_owner_handoff`, and the slot is given back. -/
def ownerHandoff (entryId destination : String) : List DispatchEffect :=
  [.journal (handoffComplete entryId destination), .release entryId]

/-- The pending entry as the engine keeps it: with the cycle and the candidate that it is from. -/
def adoptPending (tickCount : Int) (candidate : OrderedDict String DynValue)
    (pending : PendingEntry ExactFloat) : PendingEntry ExactFloat :=
  { pending with
    createdCycle := if pending.createdCycle = 0 then tickCount else pending.createdCycle
    frozenCandidate := some (pending.frozenCandidate.getD candidate) }

variable (tickCount : Int) (candidate : OrderedDict String DynValue)

/-- What follows on the result of the executor. -/
def settleResult (generateExchangeCid : String → String → Venue → String) (context : EntryContext)
    (result : EntryExecutionResult) : List DispatchEffect :=
  if result.route = .rejected ∧ entryRejectIsPostOnlyWouldTake result.rejectReason = true then
    ownerHandoff context.entryId "rejected"
  else
    (result.openPosition.map DispatchEffect.openPosition).toList ++
      match result.pendingEntry with
      | some pending =>
        if pending.outcome = "rejected" then ownerHandoff context.entryId "rejected"
        else
          let adopted := adoptPending tickCount candidate pending
          [.registerPending adopted, .journal (pendingRegistered context.entryId adopted)] ++
            ownerHandoff context.entryId
              (if result.openPosition.isSome then "open_position" else "pending_entry")
      | none =>
        if result.openPosition = none ∧ result.route ≠ .rejected then
          [.journal (handoffIncomplete generateExchangeCid context result)]
        else
          ownerHandoff context.entryId
            (if result.openPosition.isSome then "open_position" else "rejected")

variable (print : ExactFloat → PrintedFloat) {World : Type} (env : EntryEnvironment World)
  (context : EntryContext) (nowMs : Int) (world : World)

/-- The executor's own effects: its orders, and the line of the position that it opens. -/
def executorEffects (outcome : Except String EntryExecutionResult × EntryRun World) :
    List DispatchEffect :=
  let requests := buildEntryOrders env.generateExchangeCid context
  outcome.2.submissions.map DispatchEffect.submit ++
    match outcome.1 with
    | .ok result =>
      (result.openPosition.map fun position => DispatchEffect.journal
        (entryOpened requests.1 requests.2 position result.makerFill result.hedgeFill)).toList
    | .error _ => []

/-- `_execute_entry_context`: the effects in their order. An executor that raises is followed by
none, so the claim and the slot stay. -/
def executeEntryContext : List DispatchEffect :=
  let outcome := execute env context nowMs world
  [.journal (ownerClaimed print env.generateExchangeCid context), .reserve context.entryId] ++
    executorEffects env context outcome ++
    match outcome.1 with
    | .ok result => settleResult tickCount candidate env.generateExchangeCid context result
    | .error _ => []

end Dispatch

/-! ## What an executor returns -/

/-- An executor hands over a position or a pending entry for the entry's symbol, or nothing: then no
order of it is exposed and its route is a refusal. -/
inductive Returned {World : Type} (context : EntryContext) (run : EntryRun World) :
    EntryExecutionResult → Prop where
  | opened {result : EntryExecutionResult} {position : OpenPosition}
      (accepted : result.route ≠ .rejected) (holds : result.openPosition = some position)
      (named : position.positionId = context.entryId) (traded : position.symbol = context.symbol)
      (alone : result.pendingEntry = none) : Returned context run result
  | pending {result : EntryExecutionResult} {pending : PendingEntry ExactFloat}
      (silent : result.rejectReason = "") (alone : result.openPosition = none)
      (holds : result.pendingEntry = some pending) (named : pending.pendingId = context.entryId)
      (traded : pending.symbol = context.symbol) (accepted : pending.outcome ≠ "rejected") :
      Returned context run result
  | refused {result : EntryExecutionResult} (refused : result.route = .rejected)
      (unopened : result.openPosition = none) (unkept : result.pendingEntry = none)
      (unexposed : ∀ submission ∈ run.submissions, submission.answer.mayBeExposed = false) :
      Returned context run result

section Returns

variable [TextCase] {World : Type} (env : EntryEnvironment World) (context : EntryContext)
  (nowMs : Int)

omit [TextCase] in
/-- A submission raises, or it notes the venue's answer and is classified by it. -/
theorem submit_cases (run : EntryRun World) (leg : EntryLeg) (request : EntryOrderRequest) :
    (∃ text, (submitOrder env run leg request).1 = .error text) ∨
      ∃ answer, (submitOrder env run leg request).1 = answer.outcome ∧
        (submitOrder env run leg request).2.submissions =
          run.submissions ++ [{ leg := leg, request := request, answer := answer }] ∧
        (leg = .hedge → ∀ ack, answer ≠ .acknowledged ack) := by
  cases answered : venueAnswer env leg request run.world with
  | none => exact .inl ⟨_, submit_unanswered env run leg request answered⟩
  | some given =>
    obtain ⟨answer, world⟩ := given
    obtain ⟨outcome, -, noted⟩ := submit_answered env run leg request answered
    refine .inr ⟨answer, outcome, noted, ?_⟩
    rintro rfl
    exact hedge_not_resting env run request answered

omit [TextCase] in
theorem resting_acknowledged {answer : EntryAnswer} {ack : PassiveOrderAck}
    (outcome : answer.outcome = .ok (.resting ack)) : answer = .acknowledged ack := by
  cases answer with
  | executed fill =>
    rw [EntryAnswer.outcome] at outcome
    split_ifs at outcome <;> cases outcome
  | acknowledged other =>
    cases outcome
    rfl
  | failed error =>
    rw [EntryAnswer.outcome] at outcome
    split at outcome
    · cases outcome
    · split_ifs at outcome <;> cases outcome

omit [TextCase] in
theorem rejected_unexposed {answer : EntryAnswer} {reason : String}
    (outcome : answer.outcome = .ok (.rejected reason)) : answer.mayBeExposed = false := by
  cases answer with
  | executed fill =>
    rw [EntryAnswer.outcome] at outcome
    split_ifs at outcome <;> cases outcome
  | acknowledged other => cases outcome
  | failed error =>
    rw [EntryAnswer.outcome] at outcome
    split at outcome
    · cases outcome
    · split_ifs at outcome with rejected
      · rw [EntryAnswer.mayBeExposed, rejected, Bool.not_true]
      all_goals cases outcome

omit [TextCase] in
/-- The state of the context makes no difference. -/
theorem returned_state {context : EntryContext} {state : EntryState} {run : EntryRun World}
    {result : EntryExecutionResult} (returned : Returned { context with state := state } run result) :
    Returned context run result := by
  cases returned with
  | opened accepted holds named traded alone => exact .opened accepted holds named traded alone
  | pending silent alone holds named traded accepted =>
    exact .pending silent alone holds named traded accepted
  | refused refused unopened unkept unexposed => exact .refused refused unopened unkept unexposed

theorem finish_returned (run : EntryRun World) (makerRequest hedgeRequest : EntryOrderRequest)
    (makerFill hedgeFill : OrderFill) :
    Returned context
      (finishFilled env context nowMs run makerRequest hedgeRequest makerFill hedgeFill).2
      (finishFilled env context nowMs run makerRequest hedgeRequest makerFill hedgeFill).1 := by
  unfold finishFilled
  dsimp only
  split_ifs
  · exact .pending rfl rfl rfl rfl rfl (by simp [makePendingEntry])
  · exact .pending rfl rfl rfl rfl rfl (by simp [makePendingEntry])
  · exact .opened (by simp) rfl rfl rfl rfl

theorem hedge_returned (run : EntryRun World) (makerRequest hedgeRequest : EntryOrderRequest)
    (makerFill : OrderFill) {result : EntryExecutionResult}
    (returned : (submitHedge env context nowMs run makerRequest hedgeRequest makerFill).1 =
      .ok result) :
    Returned context
      (submitHedge env context nowMs run makerRequest hedgeRequest makerFill).2 result := by
  unfold submitHedge at returned ⊢
  cases terminal : context.state.isTerminal with
  | true =>
    simp only [advanceEntryState, terminal, if_true, Except.bind] at returned
    cases returned
  | false =>
    have advanced : (advanceEntryState context .makerResting).bind
        (fun resting => advanceEntryState resting .submittingHedge) =
        .ok { context with state := .submittingHedge } := by
      rw [advanceEntryState, terminal, if_neg Bool.false_ne_true]
      rfl
    rw [advanced] at returned ⊢
    dsimp only at returned ⊢
    have asked := submit_cases env run .hedge hedgeRequest
    generalize submitOrder env run .hedge hedgeRequest = submission at asked returned ⊢
    obtain ⟨submitted, after⟩ := submission
    dsimp only at asked returned ⊢
    obtain ⟨text, rfl⟩ | ⟨answer, outcome, -, unposted⟩ := asked
    · cases returned
    · cases submitted with
      | error text => cases returned
      | ok entryOutcome =>
        cases entryOutcome with
        | filled hedgeFill =>
          cases returned
          exact returned_state (finish_returned env { context with state := .submittingHedge } nowMs
            after makerRequest hedgeRequest makerFill hedgeFill)
        | resting ack =>
          exact absurd (resting_acknowledged outcome.symm) (unposted rfl ack)
        | rejected reason =>
          cases returned
          exact .pending rfl rfl rfl rfl rfl (by simp [makePendingEntry])
        | uncertain orderId =>
          cases returned
          exact .pending rfl rfl rfl rfl rfl (by simp [makePendingEntry])

theorem execute_returned (world : World) {result : EntryExecutionResult}
    (returned : (execute env context nowMs world).1 = .ok result) :
    Returned context (execute env context nowMs world).2 result := by
  unfold execute at returned ⊢
  dsimp only at returned ⊢
  cases aborted : abortReason env context nowMs with
  | some reason =>
    rw [aborted] at returned
    cases returned
    exact .refused rfl rfl rfl (fun submission none => absurd none List.not_mem_nil)
  | none =>
    rw [aborted] at returned
    dsimp only at returned ⊢
    have quiet : ∀ run : EntryRun World, run.submissions = [] →
        (if env.reviewId.isSome then run.log "review.assigned" else run).submissions = [] := by
      intro run none
      split_ifs
      · exact none
      · exact none
    have before := quiet { world := world } rfl
    generalize (if env.reviewId.isSome then
      ({ world := world } : EntryRun World).log "review.assigned" else { world := world }) = start
      at before returned ⊢
    generalize (buildEntryOrders env.generateExchangeCid context).1 = makerRequest at returned ⊢
    generalize (buildEntryOrders env.generateExchangeCid context).2 = hedgeRequest at returned ⊢
    have asked := submit_cases env start .maker makerRequest
    generalize submitOrder env start .maker makerRequest = submission at asked returned ⊢
    obtain ⟨submitted, after⟩ := submission
    dsimp only at asked returned ⊢
    obtain ⟨text, rfl⟩ | ⟨answer, outcome, noted, -⟩ := asked
    · cases returned
    · cases submitted with
      | error text => cases returned
      | ok entryOutcome =>
        cases entryOutcome with
        | filled makerFill =>
          exact hedge_returned env context nowMs after makerRequest hedgeRequest makerFill returned
        | resting ack =>
          cases returned
          exact .pending rfl rfl rfl rfl rfl (by simp [makePendingEntry])
        | rejected reason =>
          cases returned
          refine .refused rfl rfl rfl (fun submission member => ?_)
          have only : submission ∈ after.submissions := member
          rw [noted, before, List.nil_append, List.mem_singleton] at only
          rw [only]
          exact rejected_unexposed outcome.symm
        | uncertain orderId =>
          cases returned
          exact .pending rfl rfl rfl rfl rfl (by simp [makePendingEntry])

end Returns

/-! ## How a dispatch ends -/

/-- What stands in a dispatch behind its orders. -/
inductive Ending (entryId symbol : String) (submissions : List EntrySubmission) :
    List DispatchEffect → Prop where
  | raised : Ending entryId symbol submissions []
  | opened {makerRequest hedgeRequest : EntryOrderRequest} {position : OpenPosition}
      {makerFill hedgeFill : Option OrderFill} (named : position.positionId = entryId)
      (traded : position.symbol = symbol) :
      Ending entryId symbol submissions
        (.journal (entryOpened makerRequest hedgeRequest position makerFill hedgeFill) ::
          .openPosition position :: ownerHandoff entryId "open_position")
  | pending {pending : PendingEntry ExactFloat} (named : pending.pendingId = entryId)
      (traded : pending.symbol = symbol) :
      Ending entryId symbol submissions
        (.registerPending pending :: .journal (pendingRegistered entryId pending) ::
          ownerHandoff entryId "pending_entry")
  | refused (unexposed : ∀ submission ∈ submissions, submission.answer.mayBeExposed = false) :
      Ending entryId symbol submissions (ownerHandoff entryId "rejected")

section Endings

variable [TextCase] (print : ExactFloat → PrintedFloat) {World : Type} (env : EntryEnvironment World)
  (context : EntryContext) (nowMs tickCount : Int) (candidate : OrderedDict String DynValue)
  (world : World)

theorem not_would_take_silent : entryRejectIsPostOnlyWouldTake "" = false := by
  have lowered : TextCase.lower "" = "" := TextCase.lower_plain "" (by simp)
  rw [entryRejectIsPostOnlyWouldTake, lowered]
  decide +kernel

/-- A dispatch claims its entry and takes a slot, sends the orders of the executor, and ends. -/
theorem dispatch_ends : ∃ ending,
    executeEntryContext tickCount candidate print env context nowMs world =
      .journal (ownerClaimed print env.generateExchangeCid context) :: .reserve context.entryId ::
        ((execute env context nowMs world).2.submissions.map DispatchEffect.submit ++ ending) ∧
      Ending context.entryId context.symbol (execute env context nowMs world).2.submissions ending ∧
      (ending = [] ↔ ∃ text, (execute env context nowMs world).1 = .error text) := by
  have returns := fun result => @execute_returned _ _ env context nowMs world result
  unfold executeEntryContext executorEffects
  generalize execute env context nowMs world = outcome at returns ⊢
  obtain ⟨answer, run⟩ := outcome
  cases answer with
  | error text => exact ⟨[], by simp, .raised, by simp⟩
  | ok result =>
    cases returns result rfl with
    | @opened position accepted holds named traded alone =>
      refine ⟨_, ?_, @Ending.opened _ _ _ (buildEntryOrders env.generateExchangeCid context).1
        (buildEntryOrders env.generateExchangeCid context).2 position result.makerFill
        result.hedgeFill named traded, by simp⟩
      simp [settleResult, accepted, holds, alone]
    | @pending pending silent alone holds named traded accepted =>
      refine ⟨_, ?_, @Ending.pending _ _ _ (adoptPending tickCount candidate pending) named traded,
        by simp⟩
      simp [settleResult, silent, alone, holds, accepted, not_would_take_silent]
    | refused rejected unopened unkept unexposed =>
      refine ⟨_, ?_, .refused unexposed, by simp [ownerHandoff]⟩
      simp [settleResult, rejected, unopened, unkept]

end Endings

/-! ## The journal about one entry -/

section Journal

variable [TextCase]

omit [TextCase] in
theorem ownerText_str (text : String) : ownerText (.str text) = text := textOf_str text

/-- Lower case and ASCII. -/
def isLowerAscii (text : String) : Bool :=
  text.toList.all fun c => decide (c.toNat < 128) && c.toLower == c

theorem lower_of_isLowerAscii {text : String} (plain : isLowerAscii text = true) :
    TextCase.lower text = text :=
  TextCase.lower_plain text fun c member => by
    simpa only [Bool.and_eq_true, decide_eq_true_eq, beq_iff_eq] using List.all_eq_true.mp plain c member

theorem kind_line {kind : String} (plain : isLowerAscii kind = true)
    (payload : List (String × DynValue)) : eventKind (journalLine kind payload) = kind := by
  have read : (journalLine kind payload).get "kind" (.str "") = .str kind := rfl
  rw [eventKind, read, ownerText_str, lower_of_isLowerAscii plain]

omit [TextCase] in
/-- An entry's id comes before the other keys of an owner. -/
theorem key_entry {entryId : String} (named : entryId ≠ "") {payload : DynValue}
    (entry : payload.get "entry_id" = .str entryId) : journalOwnerKey payload = entryId := by
  have truthy : (DynValue.str entryId).truthy = true := by simp [DynValue.truthy, named]
  simp only [journalOwnerKey, entry, DynValue.orElse, truthy, if_true, ownerText_str]

/-- The line belongs to the ownership of this entry. -/
def concerns (entryId : String) (line : DynValue) : Bool :=
  (eventPayload line).isMapping &&
    (["runtime.entry_owner_claimed", "entry.pending_registered", "entry.opened",
        "runtime.entry_owner_handoff_complete"].contains (eventKind line) &&
        journalOwnerKey (eventPayload line) == entryId ||
      eventKind line == "pending_entry.removed_by_v1_lifecycle_closure" &&
        (journalOwnerIdentifiers (eventPayload line)).contains entryId)

/-- The lines that a dispatch appends. -/
def DispatchEffect.line? : DispatchEffect → Option DynValue
  | .journal line => some line
  | _ => none

def journaled (effects : List DispatchEffect) : List DynValue :=
  effects.filterMap DispatchEffect.line?

omit [TextCase] in
theorem mem_journaled {effects : List DispatchEffect} {line : DynValue} :
    line ∈ journaled effects ↔ DispatchEffect.journal line ∈ effects := by
  rw [journaled, List.mem_filterMap]
  constructor
  · rintro ⟨effect, member, appended⟩
    cases effect with
    | journal other =>
      cases appended
      exact member
    | reserve entryId => cases appended
    | release entryId => cases appended
    | submit submission => cases appended
    | openPosition position => cases appended
    | registerPending pending => cases appended
  · exact fun member => ⟨_, member, rfl⟩

/-- The journal has these lines about the entry, and no others. -/
def Agrees (entryId : String) (lines journal : List DynValue) : Prop :=
  journal.filter (concerns entryId) = lines.filter (concerns entryId)

theorem agreed {entryId : String} {lines journal : List DynValue}
    (agrees : Agrees entryId lines journal) {line : DynValue} (about : concerns entryId line = true) :
    line ∈ journal ↔ line ∈ lines := by
  have filtered : line ∈ journal.filter (concerns entryId) ↔ line ∈ lines.filter (concerns entryId) :=
    iff_of_eq (congrArg (line ∈ ·) agrees)
  rwa [List.mem_filter, List.mem_filter, and_iff_left about, and_iff_left about] at filtered

variable {print : ExactFloat → PrintedFloat} {generateExchangeCid : String → String → Venue → String}
  {context : EntryContext} {entryId : String}

theorem kind_claimed : eventKind (ownerClaimed print generateExchangeCid context) =
    "runtime.entry_owner_claimed" := kind_line (by decide +kernel) _

theorem kind_opened {makerRequest hedgeRequest : EntryOrderRequest} {position : OpenPosition}
    {makerFill hedgeFill : Option OrderFill} :
    eventKind (entryOpened makerRequest hedgeRequest position makerFill hedgeFill) =
      "entry.opened" := kind_line (by decide +kernel) _

theorem kind_registered {pending : PendingEntry ExactFloat} :
    eventKind (pendingRegistered entryId pending) = "entry.pending_registered" :=
  kind_line (by decide +kernel) _

theorem kind_handoff {destination : String} :
    eventKind (handoffComplete entryId destination) = "runtime.entry_owner_handoff_complete" :=
  kind_line (by decide +kernel) _

omit [TextCase] in
theorem key_claimed (named : context.entryId ≠ "") :
    journalOwnerKey (eventPayload (ownerClaimed print generateExchangeCid context)) =
      context.entryId := key_entry named rfl

theorem destination_handoff {destination : String} (plain : isLowerAscii destination = true) :
    handoffDestination (eventPayload (handoffComplete entryId destination)) = destination := by
  have read : (eventPayload (handoffComplete entryId destination)).get "owner_destination" =
      .str destination := rfl
  rw [handoffDestination, read, ownerText_str, lower_of_isLowerAscii plain]

theorem concerns_claimed (named : context.entryId ≠ "") :
    concerns context.entryId (ownerClaimed print generateExchangeCid context) = true := by
  simp [concerns, kind_claimed, key_claimed named]
  rfl

omit [TextCase] in
/-- A claim names the entry alone. -/
theorem identifiers_claimed (named : context.entryId ≠ "") :
    journalOwnerIdentifiers (eventPayload (ownerClaimed print generateExchangeCid context)) =
      [context.entryId] := by
  have entry : (eventPayload (ownerClaimed print generateExchangeCid context)).get "entry_id" =
      .str context.entryId := rfl
  have others : (["pending_id", "position_id", "owner_id", "source_entry_id",
      "internal_entry_id"].map fun field => ownerText
        ((eventPayload (ownerClaimed print generateExchangeCid context)).get field)) =
          ["", "", "", "", ""] := rfl
  rw [journalOwnerIdentifiers, uniqueTexts, List.map_cons, others, entry, ownerText_str]
  simp [named, List.eraseDups_cons]

theorem claim_of_order (named : generateExchangeCid context.entryId "m" context.makerVenue ≠ "") :
    IsOrderClaim (ownerClaimed print generateExchangeCid context) where
  mapping := rfl
  kind := kind_claimed
  ordered := by
    have maker : (eventPayload (ownerClaimed print generateExchangeCid context)).get
        "maker_client_order_id" =
          .str (generateExchangeCid context.entryId "m" context.makerVenue) := rfl
    have listed : generateExchangeCid context.entryId "m" context.makerVenue ∈
        uniqueTexts (eventPayload (ownerClaimed print generateExchangeCid context))
          ["client_order_id", "maker_client_order_id", "hedge_client_order_id",
            "clientOrderId"] := by
      rw [uniqueTexts, List.mem_eraseDups, List.mem_filter]
      refine ⟨List.mem_map.mpr ⟨"maker_client_order_id", by decide, ?_⟩, by simpa using named⟩
      rw [maker, ownerText_str]
    exact .inr (List.ne_nil_of_mem listed)

end Journal

/-! ## What a crash leaves -/

section Crash

variable [TextCase] {print : ExactFloat → PrintedFloat} {World : Type}
  {env : EntryEnvironment World} {context : EntryContext} {nowMs tickCount : Int}
  {candidate : OrderedDict String DynValue} {world : World}

/-- The lines behind the orders: a successor, or the handoff to it, or to nobody when no order is
exposed. -/
theorem line_of_ending {entryId symbol : String} {submissions : List EntrySubmission}
    {ending : List DispatchEffect} (ends : Ending entryId symbol submissions ending) {line : DynValue}
    (member : DispatchEffect.journal line ∈ ending) :
    eventKind line = "entry.opened" ∨ eventKind line = "entry.pending_registered" ∨
      ∃ destination, line = handoffComplete entryId destination ∧
        (destination = "open_position" ∨ destination = "pending_entry" ∨
          destination = "rejected" ∧
            ∀ submission ∈ submissions, submission.answer.mayBeExposed = false) := by
  cases ends with
  | raised => exact absurd member List.not_mem_nil
  | opened named =>
    simp only [ownerHandoff, List.mem_cons, DispatchEffect.journal.injEq, reduceCtorEq, false_or,
      List.not_mem_nil, or_false] at member
    obtain rfl | rfl := member
    · exact .inl kind_opened
    · exact .inr (.inr ⟨_, rfl, .inl rfl⟩)
  | pending named =>
    simp only [ownerHandoff, List.mem_cons, DispatchEffect.journal.injEq, reduceCtorEq, false_or,
      List.not_mem_nil, or_false] at member
    obtain rfl | rfl := member
    · exact .inr (.inl kind_registered)
    · exact .inr (.inr ⟨_, rfl, .inr (.inl rfl)⟩)
  | refused unexposed =>
    simp only [ownerHandoff, List.mem_cons, DispatchEffect.journal.injEq, reduceCtorEq,
      List.not_mem_nil, or_false] at member
    exact .inr (.inr ⟨_, member, .inr (.inr ⟨rfl, unexposed⟩)⟩)

/-- A line of a dispatch is its claim or stands behind the orders. -/
theorem line_of_dispatch {line : DynValue}
    (member : line ∈ journaled (executeEntryContext tickCount candidate print env context nowMs world)) :
    line = ownerClaimed print env.generateExchangeCid context ∨
      eventKind line = "entry.opened" ∨ eventKind line = "entry.pending_registered" ∨
      ∃ destination, line = handoffComplete context.entryId destination ∧
        (destination = "open_position" ∨ destination = "pending_entry" ∨
          destination = "rejected" ∧
            ∀ submission ∈ (execute env context nowMs world).2.submissions,
              submission.answer.mayBeExposed = false) := by
  obtain ⟨ending, split, ends, -⟩ := dispatch_ends print env context nowMs tickCount candidate world
  rw [mem_journaled, split] at member
  simp only [List.mem_cons, DispatchEffect.journal.injEq, reduceCtorEq, false_or, List.mem_append,
    List.mem_map, and_false, exists_false] at member
  exact member.imp_right (line_of_ending ends)

/-- The orders of a dispatch are the executor's. -/
theorem submitted_of_dispatch {submission : EntrySubmission}
    (member : DispatchEffect.submit submission ∈
      executeEntryContext tickCount candidate print env context nowMs world) :
    submission ∈ (execute env context nowMs world).2.submissions := by
  obtain ⟨ending, split, ends, -⟩ := dispatch_ends print env context nowMs tickCount candidate world
  rw [split] at member
  simp only [List.mem_cons, reduceCtorEq, false_or, List.mem_append, List.mem_map,
    DispatchEffect.submit.injEq, exists_eq_right] at member
  obtain submitted | ended := member
  · exact submitted
  · cases ends <;> simp [ownerHandoff] at ended

/-- Wherever a dispatch stops, the journal still names an owner of each order that a venue may have
executed: the claim is active, or the successor that it was handed to was journaled. An effect may
be under way when the process stops. -/
theorem dispatched_orders_owned (print : ExactFloat → PrintedFloat) (env : EntryEnvironment World)
    (context : EntryContext) (nowMs tickCount : Int) (candidate : OrderedDict String DynValue)
    (world : World) (named : context.entryId ≠ "")
    (ordered : env.generateExchangeCid context.entryId "m" context.makerVenue ≠ "")
    (done : List DispatchEffect) (underWay : Option DispatchEffect) (journal : List DynValue)
    (stopped : done ++ underWay.toList <+:
      executeEntryContext tickCount candidate print env context nowMs world)
    (agrees : Agrees context.entryId (journaled done) journal)
    (submission : EntrySubmission)
    (submitted : DispatchEffect.submit submission ∈ done ++ underWay.toList)
    (exposed : submission.answer.mayBeExposed = true) :
    ownerClaimed print env.generateExchangeCid context ∈ activeJournalOwnerEvents journal ∨
      Journaled "entry.pending_registered" context.entryId journal ∨
      Journaled "entry.opened" context.entryId journal := by
  set claim := ownerClaimed print env.generateExchangeCid context with claimIs
  have inDispatch : ∀ line ∈ journaled done, line ∈
      journaled (executeEntryContext tickCount candidate print env context nowMs world) := by
    intro line member
    rw [mem_journaled] at member ⊢
    exact stopped.subset (List.mem_append_left _ member)
  have claimed : claim ∈ journal := by
    rw [agreed agrees (concerns_claimed named), mem_journaled]
    obtain ⟨ending, split, -⟩ := dispatch_ends print env context nowMs tickCount candidate world
    rw [split] at stopped
    cases done with
    | nil =>
      -- the first effect is the claim, so no order is under way
      cases underWay with
      | none => exact absurd submitted List.not_mem_nil
      | some effect =>
        obtain rfl : DispatchEffect.submit submission = effect := List.mem_singleton.mp submitted
        exact absurd (List.cons_prefix_cons.mp stopped).1 (by simp)
    | cons first rest =>
      rw [List.cons_append] at stopped
      rw [(List.cons_prefix_cons.mp stopped).1]
      exact List.mem_cons_self
  cases active : isActiveOwnerEvent journal claim with
  | true => exact .inl (List.mem_filter.mpr ⟨claimed, active⟩)
  | false =>
    obtain ⟨front, event, rest, rfl, handsOff | closes⟩ :=
      retired_of_dropped (claim_of_order ordered) active
    · have owner : journalOwnerKey (eventPayload event) = context.entryId :=
        handsOff.owner.trans (key_claimed named)
      have about : concerns context.entryId event = true := by
        simp [concerns, handsOff.mapping, handsOff.kind, owner]
      have appended := inDispatch event
        ((agreed agrees about).mp (List.mem_append_right front List.mem_cons_self))
      have successor : ∀ kind, Journaled kind (journalOwnerKey (eventPayload claim)) front →
          Journaled kind context.entryId (front ++ event :: rest) := by
        intro kind found
        rw [claimIs, key_claimed named] at found
        exact journaled_append found _
      rcases line_of_dispatch appended with rfl | opened | registered | ⟨destination, rfl, toWhom⟩
      · exact absurd (handsOff.kind.symm.trans kind_claimed) (by decide)
      · exact absurd (handsOff.kind.symm.trans opened) (by decide)
      · exact absurd (handsOff.kind.symm.trans registered) (by decide)
      · obtain rfl | rfl | ⟨rfl, unexposed⟩ := toWhom
        · exact .inr (.inr (successor _ (handsOff.opened (destination_handoff (by decide +kernel)))))
        · exact .inr (.inl (successor _ (handsOff.pending (destination_handoff (by decide +kernel)))))
        · rw [unexposed submission (submitted_of_dispatch (stopped.subset submitted))] at exposed
          cases exposed
    · obtain ⟨id, inClaim, inEvent⟩ := closes.shared
      rw [identifiers_claimed named, List.mem_singleton] at inClaim
      subst inClaim
      have about : concerns context.entryId event = true := by
        simp [concerns, closes.mapping, closes.kind, inEvent]
      have appended := inDispatch event
        ((agreed agrees about).mp (List.mem_append_right front List.mem_cons_self))
      rcases line_of_dispatch appended with rfl | opened | registered | ⟨destination, rfl, -⟩
      · exact absurd (closes.kind.symm.trans kind_claimed) (by decide)
      · exact absurd (closes.kind.symm.trans opened) (by decide)
      · exact absurd (closes.kind.symm.trans registered) (by decide)
      · exact absurd (closes.kind.symm.trans kind_handoff) (by decide)

end Crash

/-- Every number is printed as one. -/
def printOne (_ : ExactFloat) : PrintedFloat := ⟨"1", .finite 1, by decide +kernel⟩

/-- The dispatch of an entry whose hedge has no venue. -/
def unhedgedDispatch : List DispatchEffect :=
  @executeEntryContext TextCase.ascii 7 .empty printOne Unit unhedgedEnvironment unhedgedContext
    1 ()

/-- The maker's order is filled, the executor raises, and the process stops. -/
theorem dispatched_orders_owned_unhedged :
    ownerClaimed printOne unhedgedEnvironment.generateExchangeCid unhedgedContext ∈
        @activeJournalOwnerEvents TextCase.ascii (journaled unhedgedDispatch) ∨
      @Journaled TextCase.ascii "entry.pending_registered" "entry" (journaled unhedgedDispatch) ∨
      @Journaled TextCase.ascii "entry.opened" "entry" (journaled unhedgedDispatch) :=
  @dispatched_orders_owned TextCase.ascii Unit printOne unhedgedEnvironment unhedgedContext 1 7
    .empty () (by decide) (by decide) unhedgedDispatch none _ (List.append_nil _ ▸ List.prefix_rfl)
    rfl
    { leg := .maker
      request := (buildEntryOrders unhedgedEnvironment.generateExchangeCid unhedgedContext).1
      answer := .executed { venue := .binance, symbol := "BTCUSDT", side := .buy
                            quantity := .finite 1, price := .finite 100, orderId := "1" } }
    (List.mem_append_left _ (List.mem_cons_of_mem _ (List.mem_cons_of_mem _ List.mem_cons_self)))
    (by decide +kernel)

end LightFee.Engine
