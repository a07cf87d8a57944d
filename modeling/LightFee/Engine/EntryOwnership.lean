import LightFee.Engine.EntrySync

/-!
# Entries and their owners

An order that may have been executed needs an owner: a position or a pending entry that
records at least what was filled. An execution loses its owner in three ways. It raises
when a leg has no adapter, when the context is already terminal, or when the evidence of
an error cannot be built; and it hands over less than what the entry pending under the
same id had recorded.
-/

namespace LightFee.Engine

open LightFee.Venues

/-! ## What a call leaves behind -/

/-- The quantity that an answer reports as executed. -/
def EntryAnswer.filledQuantity : EntryAnswer → ExactFloat
  | executed fill => if (ExactFloat.finite 0).lt fill.quantity then fill.quantity else .finite 0
  | _ => .finite 0

/-- The order may be executed: by a positive or an unknown quantity. -/
def EntryAnswer.mayBeExposed : EntryAnswer → Bool
  | executed fill => (ExactFloat.finite 0).lt fill.quantity || fill.quantity == .notANumber
  | acknowledged _ => true
  | failed error => !error.isRejected

/-- What a call filled on a leg. -/
def filledOn (leg : EntryLeg) (submissions : List EntrySubmission) : ExactFloat :=
  ExactFloat.sum ((submissions.filter (fun submission => submission.leg == leg)).map
    (fun submission => submission.answer.filledQuantity))

/-- Fills that an owner records. -/
structure RecordedFills where
  maker : ExactFloat
  hedge : ExactFloat

def OpenPosition.recordedFills (makerIsLong : Bool) (position : OpenPosition) : RecordedFills :=
  let longFilled := (position.longFill.map (fun fill => fill.quantity)).getD (.finite 0)
  let shortFilled := (position.shortFill.map (fun fill => fill.quantity)).getD (.finite 0)
  if makerIsLong then { maker := longFilled, hedge := shortFilled }
  else { maker := shortFilled, hedge := longFilled }

def PendingEntry.recordedFills (entry : PendingEntry ExactFloat) : RecordedFills where
  maker := entry.makerLegFilled
  hedge := entry.hedgeLegFilled

/-- The owners that a result carries. -/
def EntryExecutionResult.owners (makerIsLong : Bool) (result : EntryExecutionResult) :
    List RecordedFills :=
  (result.openPosition.map (OpenPosition.recordedFills makerIsLong)).toList ++
    (result.pendingEntry.map PendingEntry.recordedFills).toList

def RecordedFills.Covers (recorded : RecordedFills) (makerFilled hedgeFilled : ExactFloat) :
    Prop :=
  makerFilled.le recorded.maker = true ∧ hedgeFilled.le recorded.hedge = true

section Ownership

variable [TextCase] {World : Type} (env : EntryEnvironment World) (context : EntryContext)

/-- The call returns, and what it may have left on a venue has an owner. -/
def ExposureOwned (outcome : Except String EntryExecutionResult × EntryRun World) : Prop :=
  ∃ result, outcome.1 = .ok result ∧
    ((∃ submission ∈ outcome.2.submissions, submission.answer.mayBeExposed = true) →
      ∃ recorded ∈ result.owners context.makerIsLong,
        recorded.Covers (filledOn .maker outcome.2.submissions)
          (filledOn .hedge outcome.2.submissions) ∧
        ∀ existing, env.pendingEntries.find? context.entryId = some existing →
          recorded.Covers existing.makerLegFilled existing.hedgeLegFilled)

/-! ## The condition -/

/-- A fill takes the place of the recorded one, and without a fill that one is kept. -/
def FillContinues (recorded filled : ExactFloat) : Prop :=
  if (ExactFloat.finite 0).lt filled then recorded.le filled = true
  else (ExactFloat.finite 0).le recorded = true

/-- What this call fills falls behind nothing that the pending entry recorded. -/
def ContinuesExisting (makerFilled hedgeFilled : ExactFloat) : Prop :=
  ∀ existing, env.pendingEntries.find? context.entryId = some existing →
    FillContinues existing.makerLegFilled makerFilled ∧
      FillContinues existing.hedgeLegFilled hedgeFilled

/-- What a venue answers to an order; nothing without an adapter. -/
def venueAnswer (leg : EntryLeg) (request : EntryOrderRequest) (world : World) :
    Option (EntryAnswer × World) :=
  (env.adapters request.venue).map (fun adapter => adapter.answer leg request world)

/-- Building the evidence of an error does not raise. -/
def EntryAnswer.EvidenceBuilds (answer : EntryAnswer) : Prop :=
  ∀ error, answer = .failed error → error.evidenceFault = none

/-- The hedge's venue has an adapter, and its answer can be handed over. -/
def HedgeHandedOver (makerFilled : ExactFloat) : Option (EntryAnswer × World) → Prop
  | none => False
  | some (answer, _) =>
    answer.EvidenceBuilds ∧ ContinuesExisting env context makerFilled answer.filledQuantity

/-- The maker's venue has an adapter, and its answer can be handed over; a filled maker
order needs an open context and a hedge besides. -/
def MakerHandedOver (hedgeRequest : EntryOrderRequest) : Option (EntryAnswer × World) → Prop
  | none => False
  | some (answer, world) =>
    answer.EvidenceBuilds ∧
      if (ExactFloat.finite 0).lt answer.filledQuantity then
        context.state.isTerminal = false ∧
          HedgeHandedOver env context answer.filledQuantity
            (venueAnswer env .hedge hedgeRequest world)
      else answer.mayBeExposed = true → ContinuesExisting env context (.finite 0) (.finite 0)

/-- Unless the call is aborted before its first order: every venue that it asks has an
adapter, and what they answer can be handed over. -/
def AnswersHandedOver (nowMs : Int) (world : World) : Prop :=
  abortReason env context nowMs = none →
    MakerHandedOver env context (buildEntryOrders env.generateExchangeCid context).2
      (venueAnswer env .maker (buildEntryOrders env.generateExchangeCid context).1 world)

end Ownership

/-! ## Submissions -/

/-- The outcome of an answer. -/
def EntryAnswer.outcome : EntryAnswer → Except String EntryOutcome
  | executed fill =>
    if (ExactFloat.finite 0).lt fill.quantity then .ok (.filled fill)
    else .ok (.uncertain fill.orderId)
  | acknowledged ack => .ok (.resting ack)
  | failed error =>
    match error.evidenceFault with
    | some fault => .error fault
    | none =>
      if error.isRejected then .ok (.rejected error.text)
      else .ok (.uncertain (if error.failureClass.isSome then error.acceptedOrderId else ""))

section Submissions

variable {World : Type} (env : EntryEnvironment World) (run : EntryRun World) (leg : EntryLeg)
  (request : EntryOrderRequest)

theorem submit_unanswered (missing : venueAnswer env leg request run.world = none) :
    (submitOrder env run leg request).1 = .error unboundErrorText := by
  rw [venueAnswer, Option.map_eq_none_iff] at missing
  simp only [submitOrder, missing]

theorem submit_answered {answer : EntryAnswer} {world : World}
    (answered : venueAnswer env leg request run.world = some (answer, world)) :
    (submitOrder env run leg request).1 = answer.outcome ∧
      (submitOrder env run leg request).2.world = world ∧
      (submitOrder env run leg request).2.submissions =
        run.submissions ++ [{ leg := leg, request := request, answer := answer }] := by
  obtain ⟨adapter, found, given⟩ := Option.map_eq_some_iff.mp answered
  have given' : adapter.answer leg request (run.log "order.submitted").world = (answer, world) :=
    given
  simp only [submitOrder, found, given']
  cases answer with
  | executed fill =>
    simp only [EntryAnswer.outcome]
    split_ifs <;> exact ⟨rfl, rfl, rfl⟩
  | acknowledged ack => exact ⟨rfl, rfl, rfl⟩
  | failed error =>
    simp only [EntryAnswer.outcome, classifyEntryError]
    cases error.evidenceFault with
    | some fault => exact ⟨rfl, rfl, rfl⟩
    | none =>
      dsimp only
      split_ifs <;> exact ⟨rfl, rfl, rfl⟩

/-- Only the maker's order rests. -/
theorem hedge_not_resting {answer : EntryAnswer} {world : World}
    (answered : venueAnswer env .hedge request run.world = some (answer, world))
    (ack : PassiveOrderAck) : answer ≠ .acknowledged ack := by
  obtain ⟨adapter, -, given⟩ := Option.map_eq_some_iff.mp answered
  rintro rfl
  rw [EntryAdapter.answer, if_neg (by simp)] at given
  split at given <;> simp at given

end Submissions

/-! ## Owners -/

theorem continues_iff (recorded : ExactFloat) {filled : ExactFloat}
    (counted : filled = .finite 0 ∨ (ExactFloat.finite 0).lt filled = true) :
    (filled.le (orElseFloat filled recorded) = true ∧
      recorded.le (orElseFloat filled recorded) = true) ↔ FillContinues recorded filled := by
  rw [FillContinues]
  rcases counted with rfl | positive
  · have kept : orElseFloat (.finite 0) recorded = recorded := rfl
    rw [kept, ExactFloat.lt_self, if_neg Bool.false_ne_true]
    refine ⟨fun both => both.1, fun above => ⟨above, ?_⟩⟩
    exact ExactFloat.le_self_of_le above
  · have replaced : orElseFloat filled recorded = filled := if_pos (ExactFloat.truthy_of_pos positive)
    rw [replaced, if_pos positive]
    exact and_iff_right (ExactFloat.le_self_of_le (ExactFloat.le_of_lt positive))

theorem counted_filled (answer : EntryAnswer) : answer.filledQuantity = .finite 0 ∨
    (ExactFloat.finite 0).lt answer.filledQuantity = true := by
  cases answer with
  | executed fill =>
    rw [EntryAnswer.filledQuantity]
    split_ifs with positive
    · exact .inr positive
    · exact .inl rfl
  | acknowledged ack => exact .inl rfl
  | failed error => exact .inl rfl

/-- An answer that reports a fill was classified as one. -/
theorem filled_outcome {answer : EntryAnswer}
    (positive : (ExactFloat.finite 0).lt answer.filledQuantity = true) :
    ∃ fill, answer.outcome = .ok (.filled fill) ∧ answer.filledQuantity = fill.quantity ∧
      answer.mayBeExposed = true ∧ answer.EvidenceBuilds := by
  cases answer with
  | executed fill =>
    by_cases filled : (ExactFloat.finite 0).lt fill.quantity = true
    · refine ⟨fill, ?_, ?_, ?_, (fun error failed => by cases failed)⟩
      · exact if_pos filled
      · exact if_pos filled
      · rw [EntryAnswer.mayBeExposed, filled, Bool.true_or]
    · rw [EntryAnswer.filledQuantity, if_neg filled, ExactFloat.lt_self] at positive
      cases positive
  | acknowledged ack => cases positive
  | failed error => cases positive

/-- Without a fill an answer raises, or is rejected, or leaves something to settle. -/
theorem unfilled_outcome {answer : EntryAnswer}
    (nothing : (ExactFloat.finite 0).lt answer.filledQuantity = false) :
    (∃ fault, answer.outcome = .error fault ∧ ¬ answer.EvidenceBuilds) ∨
      answer.EvidenceBuilds ∧
        ((∃ reason, answer.outcome = .ok (.rejected reason) ∧ answer.mayBeExposed = false) ∨
          (∃ ack, answer.outcome = .ok (.resting ack) ∧ answer.mayBeExposed = true ∧
            answer = .acknowledged ack) ∨
          ∃ orderId, answer.outcome = .ok (.uncertain orderId)) := by
  cases answer with
  | executed fill =>
    refine .inr ⟨(fun error failed => by cases failed), .inr (.inr ⟨fill.orderId, ?_⟩)⟩
    rw [EntryAnswer.outcome, if_neg]
    intro positive
    rw [EntryAnswer.filledQuantity, if_pos positive, positive] at nothing
    cases nothing
  | acknowledged ack =>
    exact .inr ⟨(fun error failed => by cases failed), .inr (.inl ⟨ack, rfl, rfl, rfl⟩)⟩
  | failed error =>
    cases evidence : error.evidenceFault with
    | some fault =>
      refine .inl ⟨fault, by simp only [EntryAnswer.outcome, evidence], fun builds => ?_⟩
      rw [builds error rfl] at evidence
      cases evidence
    | none =>
      refine .inr ⟨(fun other failed => by cases failed; exact evidence), ?_⟩
      cases refused : error.isRejected with
      | true =>
        refine .inl ⟨error.text, ?_, ?_⟩
        · simp only [EntryAnswer.outcome, evidence, refused, if_true]
        · simp only [EntryAnswer.mayBeExposed, refused, Bool.not_true]
      | false =>
        refine .inr (.inr ⟨if error.failureClass.isSome then error.acceptedOrderId else "", ?_⟩)
        simp only [EntryAnswer.outcome, evidence, refused, Bool.false_eq_true, if_false]

section Owners

variable {World : Type} (env : EntryEnvironment World) (context : EntryContext)

theorem not_owned_error (text : String) (run : EntryRun World) :
    ¬ ExposureOwned env context (.error text, run) := by
  rintro ⟨result, returned, -⟩
  cases returned

theorem owned_unexposed (result : EntryExecutionResult) {run : EntryRun World}
    (nothing : ∀ submission ∈ run.submissions, submission.answer.mayBeExposed = false) :
    ExposureOwned env context (.ok result, run) := by
  refine ⟨result, rfl, ?_⟩
  rintro ⟨submission, member, exposed⟩
  rw [nothing submission member] at exposed
  cases exposed

variable [TextCase] (nowMs : Int)

/-- The pending entry of a call owns its fills as long as it continues the existing one. -/
theorem pending_covers_iff (makerRequest hedgeRequest : EntryOrderRequest) (made : PendingOutcome)
    (makerCounted : made.makerFilled = .finite 0 ∨
      (ExactFloat.finite 0).lt made.makerFilled = true)
    (hedgeCounted : made.hedgeFilled = .finite 0 ∨
      (ExactFloat.finite 0).lt made.hedgeFilled = true) :
    ((makePendingEntry env context nowMs makerRequest hedgeRequest made).recordedFills.Covers
        made.makerFilled made.hedgeFilled ∧
      ∀ existing, env.pendingEntries.find? context.entryId = some existing →
        (makePendingEntry env context nowMs makerRequest hedgeRequest made).recordedFills.Covers
          existing.makerLegFilled existing.hedgeLegFilled) ↔
      ContinuesExisting env context made.makerFilled made.hedgeFilled := by
  unfold ContinuesExisting RecordedFills.Covers PendingEntry.recordedFills makePendingEntry
  dsimp only
  cases env.pendingEntries.find? context.entryId with
  | none =>
    have reflexive : ∀ filled : ExactFloat, filled = .finite 0 ∨
        (ExactFloat.finite 0).lt filled = true → filled.le filled = true := by
      rintro filled (rfl | positive)
      · simp
      · exact ExactFloat.le_self_of_le (ExactFloat.le_of_lt positive)
    simp [reflexive _ makerCounted, reflexive _ hedgeCounted]
  | some entry =>
    have maker := continues_iff entry.makerLegFilled makerCounted
    have hedge := continues_iff entry.hedgeLegFilled hedgeCounted
    constructor
    · rintro ⟨covered, existing⟩ other same
      cases same
      have kept := existing entry rfl
      exact ⟨maker.mp ⟨covered.1, kept.1⟩, hedge.mp ⟨covered.2, kept.2⟩⟩
    · intro continued
      have both := continued entry rfl
      refine ⟨⟨(maker.mpr both.1).1, (hedge.mpr both.2).1⟩, ?_⟩
      intro other same
      cases same
      exact ⟨(maker.mpr both.1).2, (hedge.mpr both.2).2⟩

/-- A result that hands over a pending entry. -/
theorem owned_pending_iff {result : EntryExecutionResult} {run : EntryRun World}
    {makerRequest hedgeRequest : EntryOrderRequest} (made : PendingOutcome)
    (unopened : result.openPosition = none)
    (handed : result.pendingEntry =
      some (makePendingEntry env context nowMs makerRequest hedgeRequest made))
    (exposed : ∃ submission ∈ run.submissions, submission.answer.mayBeExposed = true)
    (makerFilled : filledOn .maker run.submissions = made.makerFilled)
    (hedgeFilled : filledOn .hedge run.submissions = made.hedgeFilled)
    (makerCounted : made.makerFilled = .finite 0 ∨
      (ExactFloat.finite 0).lt made.makerFilled = true)
    (hedgeCounted : made.hedgeFilled = .finite 0 ∨
      (ExactFloat.finite 0).lt made.hedgeFilled = true) :
    ExposureOwned env context (.ok result, run) ↔
      ContinuesExisting env context made.makerFilled made.hedgeFilled := by
  rw [← pending_covers_iff env context nowMs makerRequest hedgeRequest made makerCounted
    hedgeCounted]
  have owners : result.owners context.makerIsLong =
      [(makePendingEntry env context nowMs makerRequest hedgeRequest made).recordedFills] := by
    rw [EntryExecutionResult.owners, unopened, handed]
    rfl
  constructor
  · rintro ⟨returned, same, owned⟩
    cases same
    obtain ⟨recorded, member, covered, continued⟩ := owned exposed
    rw [owners, List.mem_singleton] at member
    rw [makerFilled, hedgeFilled] at covered
    subst member
    exact ⟨covered, continued⟩
  · rintro ⟨covered, continued⟩
    refine ⟨result, rfl, fun _ => ⟨_, ?_, ?_, continued⟩⟩
    · rw [owners]
      exact List.mem_singleton_self _
    · rw [makerFilled, hedgeFilled]
      exact covered

end Owners

section Calls

variable {World : Type} (env : EntryEnvironment World) (context : EntryContext) (nowMs : Int)

/-- The position of a call owns its fills as long as they reach the recorded ones. -/
theorem owned_open_iff {result : EntryExecutionResult} {run : EntryRun World}
    {makerFill hedgeFill : OrderFill} {reviewId : Option String}
    (opened : result.openPosition =
      some (buildOpenPosition context makerFill hedgeFill nowMs reviewId))
    (unpended : result.pendingEntry = none)
    (exposed : ∃ submission ∈ run.submissions, submission.answer.mayBeExposed = true)
    (makerFilled : filledOn .maker run.submissions = makerFill.quantity)
    (hedgeFilled : filledOn .hedge run.submissions = hedgeFill.quantity)
    (makerPositive : (ExactFloat.finite 0).lt makerFill.quantity = true)
    (hedgePositive : (ExactFloat.finite 0).lt hedgeFill.quantity = true) :
    ExposureOwned env context (.ok result, run) ↔
      ContinuesExisting env context makerFill.quantity hedgeFill.quantity := by
  have recorded : OpenPosition.recordedFills context.makerIsLong
      (buildOpenPosition context makerFill hedgeFill nowMs reviewId) =
      { maker := makerFill.quantity, hedge := hedgeFill.quantity } := by
    unfold OpenPosition.recordedFills buildOpenPosition
    dsimp only
    cases context.makerIsLong <;> rfl
  have owners : result.owners context.makerIsLong =
      [{ maker := makerFill.quantity, hedge := hedgeFill.quantity }] := by
    rw [EntryExecutionResult.owners, opened, unpended, Option.map_some, recorded]
    rfl
  have continues : ContinuesExisting env context makerFill.quantity hedgeFill.quantity ↔
      ∀ existing, env.pendingEntries.find? context.entryId = some existing →
        existing.makerLegFilled.le makerFill.quantity = true ∧
          existing.hedgeLegFilled.le hedgeFill.quantity = true := by
    simp only [ContinuesExisting, FillContinues, makerPositive, hedgePositive, if_true]
  rw [continues]
  constructor
  · rintro ⟨returned, same, owned⟩
    cases same
    obtain ⟨owner, member, -, continued⟩ := owned exposed
    rw [owners, List.mem_singleton] at member
    subst member
    exact continued
  · intro continued
    refine ⟨result, rfl, fun _ => ⟨{ maker := makerFill.quantity
                                     hedge := hedgeFill.quantity }, ?_, ?_, continued⟩⟩
    · rw [owners]
      exact List.mem_singleton_self _
    · rw [makerFilled, hedgeFilled]
      exact ⟨ExactFloat.le_self_of_le (ExactFloat.le_of_lt makerPositive),
        ExactFloat.le_self_of_le (ExactFloat.le_of_lt hedgePositive)⟩

theorem filledOn_both {makerRequest hedgeRequest : EntryOrderRequest}
    {makerAnswer hedgeAnswer : EntryAnswer} :
    filledOn .maker [⟨.maker, makerRequest, makerAnswer⟩, ⟨.hedge, hedgeRequest, hedgeAnswer⟩] =
        makerAnswer.filledQuantity ∧
      filledOn .hedge [⟨.maker, makerRequest, makerAnswer⟩, ⟨.hedge, hedgeRequest, hedgeAnswer⟩] =
        hedgeAnswer.filledQuantity :=
  ⟨ExactFloat.finite_zero_add _, ExactFloat.finite_zero_add _⟩

variable [TextCase]

/-- Whatever the fills of both legs: all three ways to finish hand them over. -/
theorem finish_owned_iff (run : EntryRun World) (makerRequest hedgeRequest : EntryOrderRequest)
    {makerFill hedgeFill : OrderFill}
    (exposed : ∃ submission ∈ run.submissions, submission.answer.mayBeExposed = true)
    (makerFilled : filledOn .maker run.submissions = makerFill.quantity)
    (hedgeFilled : filledOn .hedge run.submissions = hedgeFill.quantity)
    (makerPositive : (ExactFloat.finite 0).lt makerFill.quantity = true)
    (hedgePositive : (ExactFloat.finite 0).lt hedgeFill.quantity = true) :
    ExposureOwned env context
        (.ok (finishFilled env context nowMs run makerRequest hedgeRequest makerFill hedgeFill).1,
          (finishFilled env context nowMs run makerRequest hedgeRequest makerFill hedgeFill).2) ↔
      ContinuesExisting env context makerFill.quantity hedgeFill.quantity := by
  unfold finishFilled
  extract_lets residual handedOver matched
  split_ifs with uneven below
  · exact owned_pending_iff env context nowMs
      { outcome := "partial_fill_residual", makerOrderId := makerFill.orderId, hedgeOrderId := hedgeFill.orderId
        makerFilled := makerFill.quantity, hedgeFilled := hedgeFill.quantity }
      rfl rfl exposed makerFilled hedgeFilled
      (.inr makerPositive) (.inr hedgePositive)
  · exact owned_pending_iff env context nowMs
      { outcome := "below_min_matched_ratio", makerOrderId := makerFill.orderId, hedgeOrderId := hedgeFill.orderId
        makerFilled := makerFill.quantity, hedgeFilled := hedgeFill.quantity }
      rfl rfl exposed makerFilled hedgeFilled
      (.inr makerPositive) (.inr hedgePositive)
  · exact owned_open_iff env context nowMs rfl rfl exposed makerFilled hedgeFilled makerPositive
      hedgePositive

/-- After the maker is filled: the context is open, and the hedge's answer is handed over. -/
theorem hedge_owned_iff {run : EntryRun World} {makerRequest : EntryOrderRequest}
    {makerAnswer : EntryAnswer} {makerFill : OrderFill} (hedgeRequest : EntryOrderRequest)
    (only : run.submissions = [⟨.maker, makerRequest, makerAnswer⟩])
    (filled : makerAnswer.filledQuantity = makerFill.quantity)
    (exposed : makerAnswer.mayBeExposed = true)
    (positive : (ExactFloat.finite 0).lt makerFill.quantity = true) :
    ExposureOwned env context
        (submitHedge env context nowMs run makerRequest hedgeRequest makerFill) ↔
      context.state.isTerminal = false ∧ HedgeHandedOver env context makerFill.quantity
        (venueAnswer env .hedge hedgeRequest run.world) := by
  cases terminal : context.state.isTerminal with
  | true =>
    have stuck : (advanceEntryState context .makerResting).bind
        (fun resting => advanceEntryState resting .submittingHedge) =
        .error ("Cannot advance from terminal state " ++ context.state.value ++ " to " ++
          EntryState.makerResting.value) := by
      rw [advanceEntryState, terminal, if_pos rfl]
      rfl
    have raised : submitHedge env context nowMs run makerRequest hedgeRequest makerFill =
        (.error ("Cannot advance from terminal state " ++ context.state.value ++ " to " ++
          EntryState.makerResting.value), run) := by
      rw [submitHedge, stuck]
    rw [raised]
    exact iff_of_false (not_owned_error env context _ _) (by simp)
  | false =>
    have advanced : (advanceEntryState context .makerResting).bind
        (fun resting => advanceEntryState resting .submittingHedge) =
        .ok { context with state := .submittingHedge } := by
      rw [advanceEntryState, terminal, if_neg Bool.false_ne_true]
      rfl
    rw [and_iff_right rfl, submitHedge, advanced]
    dsimp only
    cases answered : venueAnswer env .hedge hedgeRequest run.world with
    | none =>
      have unanswered := submit_unanswered env run .hedge hedgeRequest answered
      generalize submitOrder env run .hedge hedgeRequest = submission at unanswered ⊢
      obtain ⟨submitted, after⟩ := submission
      cases unanswered
      exact iff_of_false (not_owned_error env context _ _) id
    | some given =>
      obtain ⟨answer, world⟩ := given
      have asked := submit_answered env run .hedge hedgeRequest answered
      have unposted := hedge_not_resting env run hedgeRequest answered
      generalize submitOrder env run .hedge hedgeRequest = submission at asked ⊢
      obtain ⟨submitted, after⟩ := submission
      obtain ⟨classified, -, noted⟩ := asked
      rw [only, List.singleton_append] at noted
      dsimp only at classified noted ⊢
      subst classified
      have both : filledOn .maker after.submissions = makerFill.quantity ∧
          filledOn .hedge after.submissions = answer.filledQuantity := by
        rw [noted, ← filled]
        exact filledOn_both
      have seen : ∃ submission ∈ after.submissions,
          submission.answer.mayBeExposed = true := by
        rw [noted]
        exact ⟨_, List.mem_cons_self, exposed⟩
      rw [HedgeHandedOver]
      cases hedged : (ExactFloat.finite 0).lt answer.filledQuantity with
      | true =>
        obtain ⟨fill, outcome, quantity, -, builds⟩ := filled_outcome hedged
        rw [outcome, and_iff_right builds, quantity]
        rw [quantity] at both hedged
        exact finish_owned_iff env { context with state := .submittingHedge } nowMs after
          makerRequest hedgeRequest seen both.1 both.2 positive hedged
      | false =>
        have none : answer.filledQuantity = .finite 0 :=
          (counted_filled answer).resolve_right (by simp [hedged])
        rw [none] at both ⊢
        obtain ⟨fault, outcome, unbuilt⟩ | ⟨builds, leftover⟩ := unfilled_outcome hedged
        · rw [outcome]
          exact iff_of_false (not_owned_error env context _ _) (fun built => unbuilt built.1)
        rw [and_iff_right builds]
        obtain ⟨reason, outcome, -⟩ | ⟨ack, -, -, posted⟩ | ⟨orderId, outcome⟩ := leftover
        · rw [outcome]
          exact owned_pending_iff env { context with state := .submittingHedge } nowMs
            { outcome := "hedge_rejected", makerOrderId := makerFill.orderId
              makerFilled := makerFill.quantity }
            rfl rfl seen both.1 both.2 (.inr positive) (.inl rfl)
        · exact absurd posted (unposted ack)
        · rw [outcome]
          exact owned_pending_iff env { context with state := .submittingHedge } nowMs
            { outcome := "hedge_uncertain", hedgeOrderId := orderId
              makerOrderId := makerFill.orderId, makerFilled := makerFill.quantity }
            rfl rfl seen both.1 both.2 (.inr positive) (.inl rfl)

end Calls

section Execution

variable [TextCase] {World : Type} (env : EntryEnvironment World) (context : EntryContext)
  (nowMs : Int)

/-- A maker order that is not filled leaves at most a pending entry without fills. -/
theorem unfilled_owned_iff {run : EntryRun World} {result : EntryExecutionResult}
    {makerRequest hedgeRequest : EntryOrderRequest} {answer : EntryAnswer}
    (made : PendingOutcome) (unopened : result.openPosition = none)
    (handed : result.pendingEntry =
      some (makePendingEntry env context nowMs makerRequest hedgeRequest made))
    (only : run.submissions = [⟨.maker, makerRequest, answer⟩])
    (nothing : answer.filledQuantity = .finite 0)
    (unfilled : made.makerFilled = .finite 0 ∧ made.hedgeFilled = .finite 0) :
    ExposureOwned env context (.ok result, run) ↔
      (answer.mayBeExposed = true → ContinuesExisting env context (.finite 0) (.finite 0)) := by
  cases exposed : answer.mayBeExposed with
  | true =>
    have makerFilled : filledOn .maker run.submissions = made.makerFilled := by
      rw [only, unfilled.1, ← nothing]
      exact ExactFloat.finite_zero_add _
    have hedgeFilled : filledOn .hedge run.submissions = made.hedgeFilled := by
      rw [only, unfilled.2]
      rfl
    have seen : ∃ submission ∈ run.submissions, submission.answer.mayBeExposed = true := by
      rw [only]
      exact ⟨_, List.mem_cons_self, exposed⟩
    rw [owned_pending_iff env context nowMs made unopened handed seen makerFilled hedgeFilled
      (.inl unfilled.1) (.inl unfilled.2), unfilled.1, unfilled.2]
    exact ⟨fun continued _ => continued, fun continued => continued rfl⟩
  | false =>
    refine iff_of_true (owned_unexposed env context result ?_) (by simp)
    intro submission member
    rw [only, List.mem_singleton] at member
    rw [member]
    exact exposed

/-- What an execution may have left on a venue has an owner exactly when every venue that it
asks has an adapter, its context is open once the maker is filled, the errors it meets can be
described, and its fills reach those that the pending entry recorded. -/
theorem exposure_owned_iff (world : World) :
    ExposureOwned env context (execute env context nowMs world) ↔
      AnswersHandedOver env context nowMs world := by
  rw [AnswersHandedOver, execute]
  cases aborted : abortReason env context nowMs with
  | some reason =>
    refine iff_of_true (owned_unexposed env context _ ?_) (by simp)
    intro submission member
    cases member
  | none =>
    rw [forall_prop_of_true rfl]
    dsimp only
    obtain ⟨makerRequest, hedgeRequest⟩ := buildEntryOrders env.generateExchangeCid context
    dsimp only
    have first : ∀ run : EntryRun World, run =
        (if env.reviewId.isSome then
          EntryRun.log { world := world } "review.assigned" else { world := world }) →
        run.world = world ∧ run.submissions = [] := by
      rintro run rfl
      split_ifs <;> exact ⟨rfl, rfl⟩
    generalize started : (if env.reviewId.isSome then
      EntryRun.log { world := world } "review.assigned" else { world := world }) = run
    obtain ⟨same, empty⟩ := first run started.symm
    rw [← same]
    cases answered : venueAnswer env .maker makerRequest run.world with
    | none =>
      have unanswered := submit_unanswered env run .maker makerRequest answered
      generalize submitOrder env run .maker makerRequest = submission at unanswered ⊢
      obtain ⟨submitted, after⟩ := submission
      cases unanswered
      exact iff_of_false (not_owned_error env context _ _) id
    | some given =>
      obtain ⟨answer, later⟩ := given
      have asked := submit_answered env run .maker makerRequest answered
      generalize submitOrder env run .maker makerRequest = submission at asked ⊢
      obtain ⟨submitted, after⟩ := submission
      obtain ⟨classified, reached, noted⟩ := asked
      rw [empty, List.nil_append] at noted
      dsimp only at classified reached noted ⊢
      subst classified
      subst reached
      rw [MakerHandedOver]
      cases filled : (ExactFloat.finite 0).lt answer.filledQuantity with
      | true =>
        obtain ⟨fill, outcome, quantity, exposed, builds⟩ := filled_outcome filled
        rw [outcome, and_iff_right builds, if_pos rfl, quantity]
        rw [quantity] at filled
        exact hedge_owned_iff env context nowMs hedgeRequest noted quantity exposed filled
      | false =>
        have nothing : answer.filledQuantity = .finite 0 :=
          (counted_filled answer).resolve_right (by simp [filled])
        rw [if_neg Bool.false_ne_true]
        obtain ⟨fault, outcome, unbuilt⟩ | ⟨builds, leftover⟩ := unfilled_outcome filled
        · rw [outcome]
          exact iff_of_false (not_owned_error env context _ _) (fun built => unbuilt built.1)
        rw [and_iff_right builds]
        obtain ⟨reason, outcome, unexposed⟩ | ⟨ack, outcome, -, -⟩ | ⟨orderId, outcome⟩ := leftover
        · rw [outcome]
          refine iff_of_true (owned_unexposed env context _ ?_) (by simp [unexposed])
          intro submission member
          have only : submission ∈ after.submissions := member
          rw [noted, List.mem_singleton] at only
          rw [only]
          exact unexposed
        · rw [outcome]
          exact unfilled_owned_iff env context nowMs
            { outcome := "maker_resting", makerOrderId := ack.orderId
              passiveOrderAck := some ack } rfl rfl noted nothing ⟨rfl, rfl⟩
        · rw [outcome]
          exact unfilled_owned_iff env context nowMs
            { outcome := "uncertain", makerOrderId := orderId } rfl rfl noted nothing ⟨rfl, rfl⟩

end Execution

/-! ## A hedge without an adapter -/

section HedgeWithoutAdapter

/-- One unit long on the maker's venue; the hedge's venue is not configured. -/
def unhedgedContext : EntryContext where
  entryId := "entry"
  symbol := "BTCUSDT"
  longVenue := .binance
  shortVenue := .okx
  longQuantity := .finite 1
  shortQuantity := .finite 1
  longPriceHint := .finite 100
  shortPriceHint := .finite 100
  makerLeg := .buy
  entryType := .standardDualTaker

/-- A venue that fills every order. -/
def fillingEntryAdapter : EntryAdapter Unit where
  placeOrder request world :=
    (.ok { venue := request.venue, symbol := request.symbol, side := request.side
           quantity := request.quantity, price := .finite 100, orderId := "1" }, world)
  submitPassiveOrder request world :=
    (.ok { orderId := "1", price := .finite 100, quantity := request.quantity }, world)

def unhedgedEnvironment : EntryEnvironment Unit where
  adapters venue := if venue = .binance then some fillingEntryAdapter else none
  generateExchangeCid entryId leg _ := entryId ++ leg

/-- The call of that entry. -/
def unhedgedCall : Except String EntryExecutionResult × EntryRun Unit :=
  @execute TextCase.ascii Unit unhedgedEnvironment unhedgedContext 1 ()

/-- The maker's order is filled, and then the call raises. -/
theorem unhedged_entry_raises :
    filledOn .maker unhedgedCall.2.submissions = .finite 1 ∧
      ¬ ExposureOwned unhedgedEnvironment unhedgedContext unhedgedCall := by
  have raised : unhedgedCall.1 = .error unboundErrorText := by rfl
  refine ⟨by decide +kernel, ?_⟩
  rintro ⟨result, returned, -⟩
  rw [raised] at returned
  cases returned

end HedgeWithoutAdapter

end LightFee.Engine
