import LightFee.Engine.CloseReplay

/-!
# What a compensation concludes from

A compensation that returns has concluded that both venues hold nothing. Each tier of it
concludes from one of three things: a look at the position, an order that was filled to its
size, or the reconciliation of a refused client order id, which looks as well. Along the way
every order that may have changed the position leaves its identity.

The property of a tier is stated over the events that it appends to the trace, after the
ones of the call so far.
-/

namespace LightFee.Engine

open LightFee.Venues

/-! ## Identities -/

/-- The ids that a leg is known by. -/
def CloseExecutionLeg.identity (leg : CloseExecutionLeg) : String × String :=
  (leg.fill.orderId, leg.reportedClientOrderId)

/-- An entry has the order id or the client order id. -/
def Carries (entry : String × String) (orderId clientOrderId : String) : Prop :=
  (entry.1 = orderId ∧ orderId ≠ "") ∨ (entry.2 = clientOrderId ∧ clientOrderId ≠ "")

/-- An entry has an id under which the venue answered an order. -/
def NamesOrder (request : OrderRequest) (answer : Except SubmitError OrderFill)
    (entry : String × String) : Prop :=
  match answer with
  | .ok fill =>
    Carries entry fill.orderId (orText (fill.clientOrderId.getD "") request.clientOrderId)
  | .error error =>
    Carries entry error.acceptedOrderId (orText error.acceptedClientOrderId request.clientOrderId)

/-- The order was filled, accepted or left open. -/
def LeavesExposure : Except SubmitError OrderFill → Prop
  | .ok _ => True
  | .error error => error.acceptedOrderId ≠ "" ∨ error.failureClass = some .uncertain

theorem orText_named (first : String) {second : String} (named : second ≠ "") : orText first second ≠ "" := by
  rw [orText]
  split_ifs with empty
  · exact named
  · exact empty

theorem Carries.nonempty {entry : String × String} {orderId clientOrderId : String}
    (carries : Carries entry orderId clientOrderId) : ¬ (entry.1 = "" ∧ entry.2 = "") := by
  rintro ⟨noOrder, noClient⟩
  obtain ⟨same, known⟩ | ⟨same, known⟩ := carries
  · exact known (same.symm.trans noOrder)
  · exact known (same.symm.trans noClient)

theorem NamesOrder.nonempty {request : OrderRequest} {answer : Except SubmitError OrderFill}
    {entry : String × String} (names : NamesOrder request answer entry) :
    ¬ (entry.1 = "" ∧ entry.2 = "") := by
  cases answer with
  | ok fill => exact Carries.nonempty names
  | error error => exact Carries.nonempty names

theorem mem_addIdentity (identities : List (String × String)) (identity entry : String × String) :
    entry ∈ addIdentity identities identity ↔
      entry ∈ identities ∨ (entry = identity ∧ ¬ (entry.1 = "" ∧ entry.2 = "")) := by
  rw [addIdentity]
  split_ifs with known
  · constructor
    · exact .inl
    · rintro (here | ⟨rfl, nonempty⟩)
      · exact here
      · exact known.resolve_left nonempty
  · rw [List.mem_append, List.mem_singleton]
    constructor
    · rintro (here | rfl)
      · exact .inl here
      · exact .inr ⟨rfl, fun empty => known (.inl empty)⟩
    · exact .imp id And.left

theorem mem_addIdentities (start added : List (String × String)) (entry : String × String) :
    entry ∈ added.foldl addIdentity start ↔
      entry ∈ start ∨ (entry ∈ added ∧ ¬ (entry.1 = "" ∧ entry.2 = "")) := by
  induction added generalizing start with
  | nil => simp
  | cons identity rest ih =>
    rw [List.foldl_cons, ih, mem_addIdentity, List.mem_cons]
    tauto

/-- A leg that is not appended has the ids of a known one. -/
theorem mem_addLeg (legs : List CloseExecutionLeg) (leg : CloseExecutionLeg)
    (entry : String × String) :
    entry ∈ (addLeg legs leg).map CloseExecutionLeg.identity ↔
      entry ∈ legs.map CloseExecutionLeg.identity ∨ entry = leg.identity := by
  rw [addLeg]
  split_ifs with known
  · constructor
    · exact .inl
    · rintro (here | rfl)
      · exact here
      · obtain ⟨other, member, same⟩ := List.mem_map.mp known
        refine List.mem_map.mpr ⟨other, member, ?_⟩
        simp only [CloseExecutionLeg.key, Prod.mk.injEq] at same
        exact Prod.ext same.1 same.2.1
  · rw [List.map_append, List.mem_append, List.map_singleton, List.mem_singleton]

theorem mem_addLegs (start added : List CloseExecutionLeg) (entry : String × String) :
    entry ∈ (added.foldl addLeg start).map CloseExecutionLeg.identity ↔
      entry ∈ start.map CloseExecutionLeg.identity ∨
        entry ∈ added.map CloseExecutionLeg.identity := by
  induction added generalizing start with
  | nil => simp
  | cons leg rest ih =>
    rw [List.foldl_cons, ih, mem_addLeg, List.map_cons, List.mem_cons]
    tauto

/-- Everything that an outcome knows an order by. -/
def CompensationCloseOutcome.entries (outcome : CompensationCloseOutcome) :
    List (String × String) :=
  outcome.legs.map CloseExecutionLeg.identity ++ outcome.unresolvedSubmissionIdentities

namespace CompensationCloseOutcome

theorem entries_recordIdentity (outcome : CompensationCloseOutcome)
    (orderId clientOrderId : String) (entry : String × String) :
    entry ∈ (outcome.recordIdentity orderId clientOrderId).entries ↔
      entry ∈ outcome.entries ∨
        (entry = (orderId, clientOrderId) ∧ ¬ (entry.1 = "" ∧ entry.2 = "")) := by
  rw [recordIdentity, entries, entries, List.mem_append, List.mem_append, mem_addIdentity,
    or_assoc]

/-- A fill keeps what is known, and its own ids. -/
theorem entries_addFill (outcome : CompensationCloseOutcome) (fill : OrderFill)
    {clientOrderId : String} (submitMs : Int) :
    (∀ entry ∈ outcome.entries, entry ∈ (outcome.addFill fill clientOrderId submitMs).entries) ∧
      (clientOrderId ≠ "" → ∃ entry ∈ (outcome.addFill fill clientOrderId submitMs).entries,
        Carries entry fill.orderId (orText (fill.clientOrderId.getD "") clientOrderId)) := by
  rw [addFill]
  split_ifs with empty
  · refine ⟨fun entry here => (entries_recordIdentity ..).mpr (.inl here), fun named => ?_⟩
    have known := orText_named (fill.clientOrderId.getD "") named
    exact ⟨_, (entries_recordIdentity ..).mpr (.inr ⟨rfl, fun both => known both.2⟩),
      .inr ⟨rfl, known⟩⟩
  · simp only [entries, List.map_append, List.map_singleton, List.append_assoc, List.mem_append,
      List.mem_singleton]
    refine ⟨fun entry here => here.imp id .inr, fun named => ?_⟩
    exact ⟨_, .inr (.inl rfl), .inr ⟨rfl, orText_named _ named⟩⟩

theorem entries_recordError (outcome : CompensationCloseOutcome) (error : SubmitError)
    {clientOrderId : String} :
    (∀ entry ∈ outcome.entries, entry ∈ (outcome.recordError error clientOrderId).entries) ∧
      (clientOrderId ≠ "" → LeavesExposure (.error error) →
        ∃ entry ∈ (outcome.recordError error clientOrderId).entries,
          Carries entry error.acceptedOrderId
            (orText error.acceptedClientOrderId clientOrderId)) := by
  rw [recordError]
  split_ifs with exposed
  · refine ⟨fun entry here => (entries_recordIdentity ..).mpr (.inl here), fun named _ => ?_⟩
    have known := orText_named error.acceptedClientOrderId named
    exact ⟨_, (entries_recordIdentity ..).mpr (.inr ⟨rfl, fun both => known both.2⟩),
      .inr ⟨rfl, known⟩⟩
  · exact ⟨fun entry here => here, fun _ leaves => absurd leaves exposed⟩

theorem entries_addDuplicate (outcome : CompensationCloseOutcome) (request : OrderRequest)
    (found : DuplicateReconcile) (submitMs : Int) :
    ∀ entry ∈ outcome.entries, entry ∈ (outcome.addDuplicate request found submitMs).entries := by
  intro entry here
  rw [addDuplicate]
  split
  · exact (entries_addFill _ _ _).1 entry here
  · split_ifs
    · exact (entries_recordIdentity ..).mpr (.inl here)
    · exact here

theorem exchangeFlat_addDuplicate (outcome : CompensationCloseOutcome) (request : OrderRequest)
    (found : DuplicateReconcile) (submitMs : Int) :
    (outcome.addDuplicate request found submitMs).exchangeFlat = outcome.exchangeFlat := by
  rw [addDuplicate]
  split
  · rw [addFill]
    split_ifs <;> rfl
  · split_ifs <;> rfl

/-- Merging keeps the entries of both. -/
theorem entries_merge (target additional : CompensationCloseOutcome) :
    (∀ entry ∈ target.entries, entry ∈ (target.merge additional).entries) ∧
      ∀ entry ∈ additional.entries, ¬ (entry.1 = "" ∧ entry.2 = "") →
        entry ∈ (target.merge additional).entries := by
  simp only [merge, entries, List.mem_append, List.map_append, mem_addIdentities]
  tauto

end CompensationCloseOutcome

/-! ## Looks and orders of a call -/

/-- No position, or none above the dust of a flat one. -/
def notAboveDust (position : Option PositionSnapshot) : Bool :=
  match position with
  | none => true
  | some position => !flatDust.lt position.quantity.abs

/-- The size of a look, or of the retry that a refused client order id leads to. -/
def SizedBy (venue : Venue) (events : List VenueEvent) (quantity : ExactFloat) : Prop :=
  (∃ position, .observed venue (.ok (some position)) ∈ events ∧
    quantity = position.quantity.abs) ∨
  ∃ (refused : OrderRequest) (error : SubmitError)
    (found : Except String (Option OrderFillReconciliation))
    (live : Except String (Option PositionSnapshot)),
    [.placed refused (.error error), .reconciled venue refused.clientOrderId found,
      .observed venue live] <:+: events ∧
    quantity = (resolveDuplicateConflict refused.clientOrderId refused.quantity found
      live).retryQty

/-- A look that shows nothing, or an order that was filled to its size. A failing look with
an empty error text is left open. -/
def FlatConcluded (venue : Venue) (events : List VenueEvent) : Prop :=
  (∃ position, .observed venue (.ok position) ∈ events ∧ notAboveDust position = true) ∨
  (∃ before request fill after, events = before ++ .placed request (.ok fill) :: after ∧
    request.venue = venue ∧ SizedBy venue before request.quantity ∧
    (request.quantity.sub flatDust).le fill.quantity = true) ∨
  .observed venue (.error "") ∈ events

theorem notAboveDust_of_readsFlat {position : Option PositionSnapshot}
    (flat : readsFlat position = true) : notAboveDust position = true := by
  cases position with
  | none => rfl
  | some position =>
    rw [readsFlat] at flat
    rw [notAboveDust, Bool.not_eq_true']
    exact ExactFloat.lt_of_le flat

theorem SizedBy.append {venue : Venue} {events : List VenueEvent} {quantity : ExactFloat}
    (sized : SizedBy venue events quantity) (later : List VenueEvent) :
    SizedBy venue (events ++ later) quantity := by
  obtain ⟨position, here, same⟩ | ⟨refused, error, found, live, inside, same⟩ := sized
  · exact .inl ⟨position, List.mem_append_left _ here, same⟩
  · exact .inr ⟨refused, error, found, live, inside.trans (List.prefix_append _ _).isInfix, same⟩

theorem SizedBy.prepend {venue : Venue} {events : List VenueEvent} {quantity : ExactFloat}
    (sized : SizedBy venue events quantity) (earlier : List VenueEvent) :
    SizedBy venue (earlier ++ events) quantity := by
  obtain ⟨position, here, same⟩ | ⟨refused, error, found, live, inside, same⟩ := sized
  · exact .inl ⟨position, List.mem_append_right _ here, same⟩
  · exact .inr ⟨refused, error, found, live, inside.trans (List.suffix_append _ _).isInfix, same⟩

theorem FlatConcluded.append {venue : Venue} {events : List VenueEvent}
    (concluded : FlatConcluded venue events) (later : List VenueEvent) :
    FlatConcluded venue (events ++ later) := by
  obtain ⟨position, here, flat⟩ | ⟨before, request, fill, after, split, rest⟩ | blank := concluded
  · exact .inl ⟨position, List.mem_append_left _ here, flat⟩
  · refine .inr (.inl ⟨before, request, fill, after ++ later, ?_, rest⟩)
    rw [split, List.append_assoc, List.cons_append]
  · exact .inr (.inr (List.mem_append_left _ blank))

theorem FlatConcluded.prepend {venue : Venue} {events : List VenueEvent}
    (concluded : FlatConcluded venue events) (earlier : List VenueEvent) :
    FlatConcluded venue (earlier ++ events) := by
  obtain ⟨position, here, flat⟩ | ⟨before, request, fill, after, split, atVenue, sized, covers⟩ |
    blank := concluded
  · exact .inl ⟨position, List.mem_append_right _ here, flat⟩
  · refine .inr (.inl ⟨earlier ++ before, request, fill, after, ?_, atVenue,
      sized.prepend earlier, covers⟩)
    rw [split, List.append_assoc]
  · exact .inr (.inr (List.mem_append_right _ blank))

section Trace

variable {World : Type} {run after : CloseRun World} {adapter : CloseAdapter World}

theorem placeOrder_trace {request : OrderRequest} {answer : Except SubmitError OrderFill}
    (placed : run.placeOrder adapter request = (answer, after)) :
    after.trace = run.trace ++ [.placed request answer] := by
  rw [CloseRun.placeOrder] at placed
  cases placed
  rfl

theorem fetchPosition_trace {venue : Venue} {symbol : String}
    {answer : Except String (Option PositionSnapshot)}
    (fetched : run.fetchPosition adapter venue symbol = (answer, after)) :
    after.trace = run.trace ++ [.observed venue answer] := by
  rw [CloseRun.fetchPosition] at fetched
  cases fetched
  rfl

theorem reconcileDuplicate_trace {venue : Venue} {symbol clientOrderId : String}
    {targetQty : ExactFloat} {found : DuplicateReconcile}
    (reconciled : reconcileDuplicateClientOrder run adapter venue symbol clientOrderId targetQty =
      (found, after)) :
    ∃ reconciliation live,
      after.trace = run.trace ++
        [.reconciled venue clientOrderId reconciliation, .observed venue live] ∧
      found = resolveDuplicateConflict clientOrderId targetQty reconciliation live := by
  rw [reconcileDuplicateClientOrder] at reconciled
  cases reconciled
  refine ⟨(run.fetchReconciliation adapter venue symbol clientOrderId).1,
    ((run.fetchReconciliation adapter venue symbol clientOrderId).2.fetchPosition adapter venue
      symbol).1, ?_, rfl⟩
  rw [fetchPosition_trace rfl]
  exact List.append_assoc _ _ _

end Trace

theorem notAboveDust_iff (position : Option PositionSnapshot) :
    notAboveDust position = true ↔ flatDust.lt (positiveFloat
      ((position.map (fun position => position.quantity)).getD (.finite 0))) = false := by
  cases position with
  | none => exact iff_of_true rfl (by decide +kernel)
  | some position =>
    rw [notAboveDust, Bool.not_eq_true', Option.map_some, Option.getD_some, positiveFloat_eq_abs]

/-- Clearing is decided on a look that shows nothing, or failed without a text. -/
theorem clearState_looks {clientOrderId : String} {targetQty : ExactFloat}
    {reconciliation : Except String (Option OrderFillReconciliation)}
    {live : Except String (Option PositionSnapshot)}
    (clears : (resolveDuplicateConflict clientOrderId targetQty reconciliation live).clearState =
      true) :
    (∃ position, live = .ok position ∧ notAboveDust position = true) ∨ live = .error "" := by
  cases live with
  | ok position =>
    left
    refine ⟨position, rfl, (notAboveDust_iff position).mpr ?_⟩
    by_contra above
    rw [Bool.not_eq_false] at above
    unfold resolveDuplicateConflict DuplicateReconcile.clearState at clears
    dsimp only at clears
    split_ifs at clears with broken retried full shown
    · cases clears
    · cases clears
    · exact retried ⟨full, above⟩
    · exact Bool.false_ne_true ((ExactFloat.lt_of_le shown.2).symm.trans above)
    · cases clears
    · cases clears
    · cases clears
  | error text =>
    right
    by_contra shown
    have texted : text ≠ "" := fun empty => shown (congrArg Except.error empty)
    unfold resolveDuplicateConflict DuplicateReconcile.clearState at clears
    dsimp only at clears
    split_ifs at clears with broken retried full empty
    · cases clears
    · cases clears
    · exact broken ⟨full, texted⟩
    · exact texted empty.1
    · cases clears
    · cases clears
    · cases clears

/-! ## One stage -/

/-- What a stage on a venue has done: the events that it appended after the earlier ones of the
call, and the outcome that it went on from. -/
structure Flattening {World : Type} (venue : Venue) (earlier : List VenueEvent)
    (start : CompensationCloseOutcome) (run : CloseRun World)
    (result : CompensationCloseOutcome × CloseRun World) (events : List VenueEvent) : Prop where
  trace : result.2.trace = run.trace ++ events
  kept : ∀ entry ∈ start.entries, entry ∈ result.1.entries
  orders : ∀ request answer, .placed request answer ∈ events → request.venue = venue ∧
    (LeavesExposure answer → ∃ entry ∈ result.1.entries, NamesOrder request answer entry)
  flat : result.1.exchangeFlat = true →
    start.exchangeFlat = true ∨ FlatConcluded venue (earlier ++ events)

namespace Flattening

variable {World : Type} {venue : Venue} {earlier events : List VenueEvent}
  {start outcome : CompensationCloseOutcome} {run after : CloseRun World}
  {result : CompensationCloseOutcome × CloseRun World}

theorem refl (venue : Venue) (earlier : List VenueEvent) (start : CompensationCloseOutcome)
    (run : CloseRun World) : Flattening venue earlier start run (start, run) [] where
  trace := (List.append_nil _).symm
  kept _ here := here
  orders _ _ member := absurd member List.not_mem_nil
  flat := .inl

/-- One stage after the other. -/
theorem trans {later : List VenueEvent}
    (first : Flattening venue earlier start run (outcome, after) events)
    (second : Flattening venue (earlier ++ events) outcome after result later) :
    Flattening venue earlier start run result (events ++ later) where
  trace := by
    rw [second.trace, first.trace, List.append_assoc]
  kept entry here := second.kept entry (first.kept entry here)
  orders := by
    intro request answer member
    obtain early | late := List.mem_append.mp member
    · obtain ⟨atVenue, recorded⟩ := first.orders request answer early
      refine ⟨atVenue, fun leaves => ?_⟩
      obtain ⟨entry, here, names⟩ := recorded leaves
      exact ⟨entry, second.kept entry here, names⟩
    · exact second.orders request answer late
  flat := by
    intro concluded
    obtain before | now := second.flat concluded
    · obtain known | looked := first.flat before
      · exact .inl known
      · rw [← List.append_assoc]
        exact .inr (looked.append later)
    · rw [← List.append_assoc]
      exact .inr now

/-- Events other than orders, and an outcome that knows no less. -/
theorem looked (traced : after.trace = run.trace ++ events)
    (unordered : ∀ request answer, .placed request answer ∉ events)
    (kept : ∀ entry ∈ start.entries, entry ∈ outcome.entries)
    (flat : outcome.exchangeFlat = true →
      start.exchangeFlat = true ∨ FlatConcluded venue (earlier ++ events)) :
    Flattening venue earlier start run (outcome, after) events where
  trace := traced
  kept := kept
  orders request answer member := absurd member (unordered request answer)
  flat := flat

/-- A conclusion is noted. -/
theorem setFlat (stage : Flattening venue earlier start run (outcome, after) events)
    (concluded : FlatConcluded venue (earlier ++ events)) :
    Flattening venue earlier start run (outcome.setFlat true, after) events where
  trace := stage.trace
  kept := stage.kept
  orders := stage.orders
  flat _ := .inr concluded

/-- What an attempt has done is merged into what is known. -/
theorem merge (known : CompensationCloseOutcome)
    (stage : Flattening venue earlier {} run (outcome, after) events) :
    Flattening venue earlier known run (known.merge outcome, after) events where
  trace := stage.trace
  kept := (CompensationCloseOutcome.entries_merge known outcome).1
  orders := by
    intro request answer member
    obtain ⟨atVenue, recorded⟩ := stage.orders request answer member
    refine ⟨atVenue, fun leaves => ?_⟩
    obtain ⟨entry, here, names⟩ := recorded leaves
    exact ⟨entry, (CompensationCloseOutcome.entries_merge known outcome).2 entry here
      names.nonempty, names⟩
  flat := by
    intro flat
    rw [CompensationCloseOutcome.merge, Bool.or_eq_true] at flat
    obtain before | now := flat
    · exact .inl before
    · exact .inr ((stage.flat now).resolve_left Bool.false_ne_true)

end Flattening

section Stages

variable [TextCase] {World : Type} (env : CloseEnvironment World)

omit [TextCase] in
/-- An order that was filled is a leg, or an identity. -/
theorem placed_fill {venue : Venue} (earlier : List VenueEvent)
    (outcome : CompensationCloseOutcome) {run after : CloseRun World}
    {adapter : CloseAdapter World} {request : OrderRequest} {fill : OrderFill} (submitMs : Int)
    (placed : run.placeOrder adapter request = (.ok fill, after))
    (atVenue : request.venue = venue) (named : request.clientOrderId ≠ "") :
    Flattening venue earlier outcome run
      (outcome.addFill fill request.clientOrderId submitMs, after)
      [.placed request (.ok fill)] where
  trace := placeOrder_trace placed
  kept := (outcome.entries_addFill fill submitMs).1
  orders := by
    intro other answer member
    rw [List.mem_singleton] at member
    cases member
    exact ⟨atVenue, fun _ => (outcome.entries_addFill fill submitMs).2 named⟩
  flat := by
    intro flat
    rw [CompensationCloseOutcome.addFill] at flat
    split at flat
    · exact .inl flat
    · exact .inl flat

omit [TextCase] in
theorem placed_error {venue : Venue} (earlier : List VenueEvent)
    (outcome : CompensationCloseOutcome) {run after : CloseRun World}
    {adapter : CloseAdapter World} {request : OrderRequest} {error : SubmitError}
    (placed : run.placeOrder adapter request = (.error error, after))
    (atVenue : request.venue = venue) (named : request.clientOrderId ≠ "") :
    Flattening venue earlier outcome run
      (outcome.recordError error request.clientOrderId, after)
      [.placed request (.error error)] where
  trace := placeOrder_trace placed
  kept := (outcome.entries_recordError error).1
  orders := by
    intro other answer member
    rw [List.mem_singleton] at member
    cases member
    exact ⟨atVenue, fun leaves => (outcome.entries_recordError error).2 named leaves⟩
  flat := by
    intro flat
    rw [CompensationCloseOutcome.recordError] at flat
    split at flat
    · exact .inl flat
    · exact .inl flat

omit [TextCase] in
theorem observed_unordered (venue : Venue) (answer : Except String (Option PositionSnapshot))
    (request : OrderRequest) (placed : Except SubmitError OrderFill) :
    VenueEvent.placed request placed ∉ [.observed venue answer] := by
  intro member
  cases List.mem_singleton.mp member

omit [TextCase] in
theorem failed_ne_compensated : CompensationEnd.failed ≠ .compensated := by
  intro same
  cases same

omit [TextCase] in
/-- A look that shows nothing. -/
theorem concluded_of_look {venue : Venue} (earlier : List VenueEvent)
    {position : Option PositionSnapshot} (flat : readsFlat position = true) :
    FlatConcluded venue (earlier ++ [.observed venue (.ok position)]) :=
  .inl ⟨position, List.mem_append_right _ (List.mem_singleton.mpr rfl),
    notAboveDust_of_readsFlat flat⟩

omit [TextCase] in
/-- An order that was filled to the size it was given. -/
theorem concluded_of_fill {venue : Venue} {earlier : List VenueEvent} {request : OrderRequest}
    {fill : OrderFill} (atVenue : request.venue = venue)
    (sized : SizedBy venue earlier request.quantity)
    (covers : (request.quantity.sub flatDust).le fill.quantity = true) :
    FlatConcluded venue (earlier ++ [.placed request (.ok fill)]) :=
  .inr (.inl ⟨earlier, request, fill, [], rfl, atVenue, sized, covers⟩)

omit [TextCase] in
theorem verifyExchangeFlat_flattens (tier : FlattenStage) (adapter : CloseAdapter World)
    (earlier : List VenueEvent) (outcome : CompensationCloseOutcome) (run : CloseRun World) :
    ∃ events, Flattening tier.venue earlier outcome run
      (verifyExchangeFlat tier adapter outcome run) events := by
  rw [verifyExchangeFlat]
  split
  · next position after fetched =>
    refine ⟨_, .looked (fetchPosition_trace fetched) (observed_unordered _ _)
      (fun _ here => here) (fun flat => ?_)⟩
    exact .inr (concluded_of_look earlier flat)
  · next text after fetched =>
    exact ⟨_, .looked (fetchPosition_trace fetched) (observed_unordered _ _)
      (fun _ here => here) .inl⟩

omit [TextCase] in
/-- The retry after a refusal, at the size that the refusal leads to. -/
theorem retryDuplicate_flattens (named : ∀ positionId stage,
      env.compactClientOrderId positionId stage ≠ "")
    (tier : FlattenStage) (adapter : CloseAdapter World) (request : OrderRequest)
    (found : DuplicateReconcile) (submitMs : Int) (earlier : List VenueEvent)
    (outcome : CompensationCloseOutcome) (run : CloseRun World)
    (atVenue : request.venue = tier.venue) (sized : SizedBy tier.venue earlier found.retryQty) :
    ∃ events, Flattening tier.venue earlier outcome run
      (retryDuplicate env tier adapter request found submitMs outcome run) events := by
  rw [retryDuplicate]
  split
  next answer after placed =>
    cases answer with
    | error error =>
      have refused := placed_error earlier outcome placed atVenue (named _ _)
      obtain ⟨looks, verified⟩ := verifyExchangeFlat_flattens tier adapter _ _ after
      exact ⟨_, refused.trans verified⟩
    | ok fill =>
      have filled := placed_fill earlier outcome submitMs placed atVenue (named _ _)
      dsimp only
      split_ifs with covers again
      · exact ⟨_, filled.setFlat (concluded_of_fill atVenue sized covers)⟩
      · obtain ⟨looks, verified⟩ := verifyExchangeFlat_flattens tier adapter _ _ after
        exact ⟨_, filled.trans verified⟩
      · obtain ⟨looks, verified⟩ := verifyExchangeFlat_flattens tier adapter _ _ after
        obtain ⟨more, twice⟩ := verifyExchangeFlat_flattens tier adapter _ _ _
        exact ⟨_, (filled.trans verified).trans twice⟩

omit [TextCase] in
/-- A refused client order id, after the order that was refused. -/
theorem flattenDuplicate_flattens (named : ∀ positionId stage,
      env.compactClientOrderId positionId stage ≠ "")
    (tier : FlattenStage) (adapter : CloseAdapter World) (request : OrderRequest)
    (submitMs : Int) (earlier : List VenueEvent) {error : SubmitError}
    (outcome : CompensationCloseOutcome) (run : CloseRun World)
    (atVenue : request.venue = tier.venue) :
    ∃ events, Flattening tier.venue (earlier ++ [.placed request (.error error)]) outcome run
      (flattenDuplicate env tier adapter request submitMs outcome run) events := by
  rw [flattenDuplicate]
  split
  next found after reconciled =>
    obtain ⟨reconciliation, live, traced, resolved⟩ := reconcileDuplicate_trace reconciled
    have looked (noted : CloseRun World) (same : noted.trace = after.trace) :
        Flattening tier.venue (earlier ++ [.placed request (.error error)]) outcome run
        (outcome.addDuplicate request found submitMs, noted)
        [.reconciled tier.venue request.clientOrderId reconciliation,
          .observed tier.venue live] := by
      refine .looked (same.trans traced) ?_ (outcome.entries_addDuplicate request found submitMs) ?_
      · intro other answer member
        simp at member
      · intro flat
        rw [outcome.exchangeFlat_addDuplicate] at flat
        exact .inl flat
    have sized : SizedBy tier.venue (earlier ++ [.placed request (.error error)] ++
        [.reconciled tier.venue request.clientOrderId reconciliation,
          .observed tier.venue live]) found.retryQty := by
      refine .inr ⟨request, error, reconciliation, live, ?_, congrArg _ resolved⟩
      rw [List.append_assoc]
      exact (List.suffix_append _ _).isInfix
    dsimp only
    split_ifs with clears retried
    · refine ⟨_, (looked _ (by rfl)).setFlat ?_⟩
      rw [resolved] at clears
      apply FlatConcluded.prepend
      obtain ⟨position, rfl, flat⟩ | rfl := clearState_looks clears
      · exact .inl ⟨position, by simp, flat⟩
      · exact .inr (.inr (by simp))
    · obtain ⟨orders, placedAgain⟩ := retryDuplicate_flattens env named tier adapter request
        found submitMs _ (outcome.addDuplicate request found submitMs) _ atVenue sized
      exact ⟨_, (looked _ (by rfl)).trans placedAgain⟩
    · obtain ⟨looks, verified⟩ := verifyExchangeFlat_flattens tier adapter
        (earlier ++ [.placed request (.error error)] ++
          [.reconciled tier.venue request.clientOrderId reconciliation,
            .observed tier.venue live])
        (outcome.addDuplicate request found submitMs) _
      exact ⟨_, (looked _ (by rfl)).trans verified⟩

/-- One order of a stage, and what follows from its answer. -/
theorem compensateCloseLegExposure_flattens (named : ∀ positionId stage,
      env.compactClientOrderId positionId stage ≠ "")
    (tier : FlattenStage) (quantity : ExactFloat) (side : Side) (earlier : List VenueEvent)
    (run : CloseRun World) (sized : SizedBy tier.venue earlier quantity) :
    ∃ events, Flattening tier.venue earlier {} run
      (compensateCloseLegExposure env tier quantity side run) events := by
  rw [compensateCloseLegExposure]
  split
  · exact ⟨[], .refl ..⟩
  · next adapter _ =>
    extract_lets clientOrderId submitMs request
    split
    next answer after placed =>
      cases answer with
      | error error =>
        have refused := placed_error earlier {} placed rfl (named _ _)
        dsimp only
        split_ifs
        · obtain ⟨events, flattened⟩ := flattenDuplicate_flattens env named tier adapter request
            submitMs earlier _ after rfl
          exact ⟨_, refused.trans flattened⟩
        · obtain ⟨looks, verified⟩ := verifyExchangeFlat_flattens tier adapter _ _ after
          exact ⟨_, refused.trans verified⟩
      | ok fill =>
        have filled := placed_fill earlier {} (env.wallClockNowMs run.world) placed rfl
          (named _ _)
        dsimp only
        split_ifs with covers
        · exact ⟨_, filled.setFlat (concluded_of_fill rfl sized covers)⟩
        · obtain ⟨looks, verified⟩ := verifyExchangeFlat_flattens tier adapter _ _ after
          exact ⟨_, filled.trans verified⟩

/-- The attempts from a given one on, each sized by what was last looked up. -/
theorem flattenAttempts_flattens (named : ∀ positionId stage,
      env.compactClientOrderId positionId stage ≠ "")
    (adapter : CloseAdapter World) (tier : FlattenStage) (left attempt : Nat)
    (quantity : ExactFloat) (side : Side) (earlier : List VenueEvent)
    (outcome : CompensationCloseOutcome) (run : CloseRun World)
    (sized : SizedBy tier.venue earlier quantity) :
    ∃ events, Flattening tier.venue earlier outcome run
      (flattenAttempts env adapter tier left attempt quantity side outcome run) events := by
  induction left generalizing attempt quantity side earlier outcome run with
  | zero => exact ⟨[], .refl ..⟩
  | succ left ih =>
    rw [flattenAttempts]
    obtain ⟨events, once⟩ := compensateCloseLegExposure_flattens env named
      { tier with stage := tier.stage ++ "_attempt_" ++ toString attempt } quantity side earlier
      run sized
    split
    next attempted after submitted =>
      rw [submitted] at once
      have merged := once.merge outcome
      dsimp only
      split_ifs
      · exact ⟨_, merged⟩
      · exact ⟨_, merged⟩
      split
      · next text later fetched =>
        obtain ⟨more, rest⟩ := ih (attempt + 1) quantity side _ (outcome.merge attempted) later
          ((sized.append events).append [.observed tier.venue (.error text)])
        refine ⟨_, merged.trans (.trans (.looked (fetchPosition_trace fetched)
          (observed_unordered _ _) (fun _ here => here) .inl) rest)⟩
      · next later fetched =>
        have looked : Flattening tier.venue (earlier ++ events) (outcome.merge attempted) after
            (outcome.merge attempted, later) [.observed tier.venue (.ok none)] :=
          .looked (fetchPosition_trace fetched) (observed_unordered _ _) (fun _ here => here) .inl
        exact ⟨_, merged.trans (looked.setFlat (concluded_of_look _ rfl))⟩
      · next position later fetched =>
        have looked : Flattening tier.venue (earlier ++ events) (outcome.merge attempted) after
            (outcome.merge attempted, later) [.observed tier.venue (.ok (some position))] :=
          .looked (fetchPosition_trace fetched) (observed_unordered _ _) (fun _ here => here) .inl
        split_ifs with flat
        · exact ⟨_, merged.trans (looked.setFlat (concluded_of_look _ flat))⟩
        · obtain ⟨more, rest⟩ := ih (attempt + 1) position.quantity.abs position.side.opposite
            (earlier ++ events ++ [.observed tier.venue (.ok (some position))])
            (outcome.merge attempted) later
            (.inl ⟨position, List.mem_append_right _ (List.mem_singleton.mpr rfl), rfl⟩)
          exact ⟨_, merged.trans (looked.trans rest)⟩

/-- The delayed last attempt. -/
theorem compensationHardStop_flattens (named : ∀ positionId stage,
      env.compactClientOrderId positionId stage ≠ "")
    (tier : FlattenStage) (earlier : List VenueEvent) (run : CloseRun World) :
    ∃ events, Flattening tier.venue earlier {} run
      (compensationHardStopCloseLeg env tier run) events := by
  rw [compensationHardStopCloseLeg]
  split
  · exact ⟨[], .refl ..⟩
  · next adapter _ =>
    split
    · next text after fetched =>
      exact ⟨_, .looked (fetchPosition_trace fetched) (observed_unordered _ _)
        (fun _ here => here) .inl⟩
    · next after fetched =>
      exact ⟨_, .looked (fetchPosition_trace fetched) (observed_unordered _ _)
        (fun _ here => here) (fun _ => .inr (concluded_of_look _ rfl))⟩
    · next position after fetched =>
      split_ifs with flat
      · exact ⟨_, .looked (fetchPosition_trace fetched) (observed_unordered _ _)
          (fun _ here => here) (fun _ => .inr (concluded_of_look _ flat))⟩
      · obtain ⟨events, once⟩ := compensateCloseLegExposure_flattens env named
          { tier with stage := tier.stage ++ "_hard_stop" } position.quantity.abs
          position.side.opposite (earlier ++ [.observed tier.venue (.ok (some position))]) after
          (.inl ⟨position, List.mem_append_right _ (List.mem_singleton.mpr rfl), rfl⟩)
        have looked : Flattening tier.venue earlier {} run ({}, after)
            [.observed tier.venue (.ok (some position))] :=
          .looked (fetchPosition_trace fetched) (observed_unordered _ _) (fun _ here => here) .inl
        exact ⟨_, looked.trans once⟩

theorem flattenTiers_flattens (named : ∀ positionId stage,
      env.compactClientOrderId positionId stage ≠ "")
    (tier : FlattenStage) (quantity : ExactFloat) (side : Side) (earlier : List VenueEvent)
    (run : CloseRun World) (sized : SizedBy tier.venue earlier quantity) :
    ∃ events, Flattening tier.venue earlier {} run
      (flattenTiers env tier quantity side run) events := by
  rw [flattenTiers]
  have attempts : ∃ events, Flattening tier.venue earlier {} run
      (flattenCloseLegWithRetries env tier quantity side run) events := by
    rw [flattenCloseLegWithRetries]
    split
    · exact ⟨[], .refl ..⟩
    · exact flattenAttempts_flattens env named _ tier _ 1 quantity side earlier {} run sized
  obtain ⟨events, attempted⟩ := attempts
  split
  next outcome after retried =>
    rw [retried] at attempted
    split_ifs
    · exact ⟨_, attempted⟩
    · obtain ⟨more, last⟩ := compensationHardStop_flattens env named tier (earlier ++ events) after
      exact ⟨_, attempted.trans (last.merge outcome)⟩

end Stages

/-! ## The call -/

/-- The entries of the side of a venue. -/
def CollectedClose.entriesAt (collected : CollectedClose) (position : OpenPosition)
    (venue : Venue) : List (String × String) :=
  if venue = position.shortVenue then
    collected.shortLegs.map CloseExecutionLeg.identity ++
      collected.unresolvedShortSubmissionIdentities
  else
    collected.longLegs.map CloseExecutionLeg.identity ++
      collected.unresolvedLongSubmissionIdentities

/-- What is retained of an outcome is found on its side, and nothing is lost. -/
theorem retain_entries (collected : CollectedClose) (position : OpenPosition) (venue : Venue)
    (outcome : CompensationCloseOutcome) :
    (∀ other, ∀ entry ∈ collected.entriesAt position other,
        entry ∈ (collected.retain position venue outcome).entriesAt position other) ∧
      ∀ entry ∈ outcome.entries, ¬ (entry.1 = "" ∧ entry.2 = "") →
        entry ∈ (collected.retain position venue outcome).entriesAt position venue := by
  rw [CollectedClose.retain]
  split_ifs with short
  · refine ⟨fun other entry here => ?_, fun entry here nonempty => ?_⟩
    · simp only [CollectedClose.entriesAt] at here ⊢
      split_ifs at here ⊢
      · simp only [List.mem_append, mem_addLegs, mem_addIdentities] at here ⊢
        tauto
      · exact here
    · simp only [CollectedClose.entriesAt, CompensationCloseOutcome.entries, if_pos short,
        List.mem_append, mem_addLegs, mem_addIdentities] at here ⊢
      tauto
  · refine ⟨fun other entry here => ?_, fun entry here nonempty => ?_⟩
    · simp only [CollectedClose.entriesAt] at here ⊢
      split_ifs at here ⊢
      · exact here
      · simp only [List.mem_append, mem_addLegs, mem_addIdentities] at here ⊢
        tauto
    · simp only [CollectedClose.entriesAt, CompensationCloseOutcome.entries, if_neg short,
        List.mem_append, mem_addLegs, mem_addIdentities] at here ⊢
      tauto

section Call

variable [TextCase] {World : Type} (env : CloseEnvironment World) (position : OpenPosition)
  (report : CompensationReport)

/-- What a venue's turn leaves: its orders are known on its side, and a success has been
concluded from the venue. -/
structure VenueTurn (venue : Venue) (collected : CollectedClose) (run : CloseRun World)
    (result : CompensationEnd × CollectedClose × CloseRun World) (events : List VenueEvent) :
    Prop where
  trace : result.2.2.trace = run.trace ++ events
  kept : ∀ other, ∀ entry ∈ collected.entriesAt position other,
    entry ∈ result.2.1.entriesAt position other
  orders : ∀ request answer, .placed request answer ∈ events → request.venue = venue ∧
    (LeavesExposure answer → ∃ entry ∈ result.2.1.entriesAt position venue,
      NamesOrder request answer entry)
  flat : result.1 = .compensated → (env.adapters venue).isSome = true → FlatConcluded venue events

omit [TextCase] in
/-- A turn of looks only. -/
theorem VenueTurn.looked {venue : Venue} {collected : CollectedClose} {run after : CloseRun World}
    {events : List VenueEvent} {how : CompensationEnd} (traced : after.trace = run.trace ++ events)
    (unordered : ∀ request answer, .placed request answer ∉ events)
    (flat : how = .compensated → (env.adapters venue).isSome = true →
      FlatConcluded venue events) :
    VenueTurn env position venue collected run (how, collected, after) events where
  trace := traced
  kept _ _ here := here
  orders request answer member := absurd member (unordered request answer)
  flat := flat

theorem flattenVenue_turn (named : ∀ positionId stage,
      env.compactClientOrderId positionId stage ≠ "")
    (venue : Venue) (stage : String) (adapter : CloseAdapter World) (shown : PositionSnapshot)
    (collected : CollectedClose) {run after : CloseRun World}
    (traced : after.trace = run.trace ++ [.observed venue (.ok (some shown))]) :
    ∃ events, VenueTurn env position venue collected run
      (flattenVenue env position report venue stage adapter shown collected after) events := by
  rw [flattenVenue]
  obtain ⟨events, flattened⟩ := flattenTiers_flattens env named
    { venue := venue, symbol := position.symbol, positionId := position.positionId, stage := stage }
    shown.quantity.abs shown.side.opposite [.observed venue (.ok (some shown))] after
    (.inl ⟨shown, List.mem_singleton.mpr rfl, rfl⟩)
  split
  next outcome later flattening =>
    rw [flattening] at flattened
    obtain ⟨keeps, records⟩ := retain_entries collected position venue outcome
    have orders (more : List VenueEvent)
        (unordered : ∀ request answer, .placed request answer ∉ more) :
        ∀ request answer,
          .placed request answer ∈ [.observed venue (.ok (some shown))] ++ events ++ more →
          request.venue = venue ∧ (LeavesExposure answer →
            ∃ entry ∈ (collected.retain position venue outcome).entriesAt position venue,
              NamesOrder request answer entry) := by
      intro request answer member
      simp only [List.mem_append, observed_unordered, unordered, false_or, or_false] at member
      obtain ⟨atVenue, recorded⟩ := flattened.orders request answer member
      refine ⟨atVenue, fun leaves => ?_⟩
      obtain ⟨entry, here, names⟩ := recorded leaves
      exact ⟨entry, records entry here names.nonempty, names⟩
    have trace : later.trace = run.trace ++ ([.observed venue (.ok (some shown))] ++ events) := by
      rw [flattened.trace, traced, List.append_assoc]
    dsimp only
    split_ifs with flat
    · refine ⟨[.observed venue (.ok (some shown))] ++ events ++ [], ⟨?_, keeps, ?_, fun _ _ => ?_⟩⟩
      · rw [List.append_nil]
        exact trace
      · exact orders [] (fun _ _ => List.not_mem_nil)
      · rw [List.append_nil]
        exact (flattened.flat flat).resolve_left Bool.false_ne_true
    split
    · next seen final fetched =>
      have whole : final.trace = run.trace ++
          ([.observed venue (.ok (some shown))] ++ events ++ [.observed venue (.ok seen)]) := by
        rw [fetchPosition_trace fetched, trace, List.append_assoc]
      split_ifs with empty
      · exact ⟨_, whole, keeps, orders _ (observed_unordered _ _),
          fun _ _ => concluded_of_look _ empty⟩
      · exact ⟨_, whole, keeps, orders _ (observed_unordered _ _),
          fun ended => absurd ended failed_ne_compensated⟩
    · next text final fetched =>
      have whole : final.trace = run.trace ++
          ([.observed venue (.ok (some shown))] ++ events ++ [.observed venue (.error text)]) := by
        rw [fetchPosition_trace fetched, trace, List.append_assoc]
      exact ⟨_, whole, keeps, orders _ (observed_unordered _ _),
        fun ended => absurd ended failed_ne_compensated⟩

theorem compensateVenue_turn (named : ∀ positionId stage,
      env.compactClientOrderId positionId stage ≠ "")
    (venue : Venue) (stage : String) (collected : CollectedClose) (run : CloseRun World) :
    ∃ events, VenueTurn env position venue collected run
      (compensateVenue env position report venue stage collected run) events := by
  rw [compensateVenue]
  split
  · next missing =>
    refine ⟨[], .looked env position (List.append_nil _).symm (fun _ _ => List.not_mem_nil)
      (fun _ present => ?_)⟩
    rw [missing] at present
    cases present
  · next adapter _ =>
    split
    · next text after fetched =>
      have traced := fetchPosition_trace fetched
      exact ⟨[.observed venue (.error text)], .looked env position traced
        (observed_unordered _ _) (fun ended => absurd ended failed_ne_compensated)⟩
    · next after fetched =>
      exact ⟨_, .looked env position (fetchPosition_trace fetched) (observed_unordered _ _)
        (fun _ _ => concluded_of_look [] rfl)⟩
    · next shown after fetched =>
      split_ifs with flat
      · exact ⟨_, .looked env position (fetchPosition_trace fetched) (observed_unordered _ _)
          (fun _ _ => concluded_of_look [] flat)⟩
      · exact flattenVenue_turn env position report named venue stage adapter shown collected
          (fetchPosition_trace fetched)

/-- What a compensation that returned can vouch for: each venue with an adapter showed nothing
or filled an order that was sized by a look, and every order that may have changed a position
is known on its side. -/
structure Compensated (after : CollectedClose) (events : List VenueEvent) : Prop where
  flat : ∀ venue ∈ [position.shortVenue, position.longVenue],
    (env.adapters venue).isSome = true → FlatConcluded venue events
  recorded : ∀ request answer, .placed request answer ∈ events → LeavesExposure answer →
    ∃ entry ∈ after.entriesAt position request.venue, NamesOrder request answer entry

/-- **A compensation that returns has looked at both venues or filled what it looked up, and
forgets no order that may have been executed.** -/
theorem compensation_vouches (collected : CollectedClose) (run : CloseRun World)
    (named : ∀ positionId stage, env.compactClientOrderId positionId stage ≠ "")
    (compensated : (compensateFailedFullClose env position report collected run).1 =
      .compensated) :
    ∃ events,
      (compensateFailedFullClose env position report collected run).2.2.trace =
        run.trace ++ events ∧
      Compensated env position
        (compensateFailedFullClose env position report collected run).2.1 events := by
  rw [compensateFailedFullClose] at compensated ⊢
  obtain ⟨shortEvents, short⟩ := compensateVenue_turn env position report named
    position.shortVenue "exit_compensate_short" collected run
  split
  · next failed => 
    rw [failed] at compensated
    cases compensated
  · next between middle done =>
    rw [done] at short compensated
    obtain ⟨longEvents, long⟩ := compensateVenue_turn env position report named
      position.longVenue "exit_compensate_long" between middle
    dsimp only at compensated ⊢
    split
    · next failed =>
      rw [failed] at compensated
      cases compensated
    · next final last finished =>
      rw [finished] at long
      refine ⟨shortEvents ++ longEvents, ?_, ?_, ?_⟩
      · rw [← List.append_assoc, ← short.trace]
        exact long.trace
      · intro venue member present
        rw [List.mem_cons, List.mem_singleton] at member
        obtain rfl | rfl := member
        · exact (short.flat rfl present).append longEvents
        · exact (long.flat rfl present).prepend shortEvents
      · intro request answer member leaves
        obtain early | late := List.mem_append.mp member
        · obtain ⟨atVenue, recorded⟩ := short.orders request answer early
          obtain ⟨entry, here, names⟩ := recorded leaves
          rw [atVenue]
          exact ⟨entry, long.kept _ entry here, names⟩
        · obtain ⟨atVenue, recorded⟩ := long.orders request answer late
          obtain ⟨entry, here, names⟩ := recorded leaves
          rw [atVenue]
          exact ⟨entry, here, names⟩

end Call

section Example

local instance compensationCase : TextCase := .ascii

/-- A look with a position of no size. -/
def flatSeen (venue : Venue) (events : List VenueEvent) : Bool :=
  events.any (fun event =>
    match event with
    | .observed other (.ok (some position)) =>
      decide (other = venue) && position.quantity.abs.le flatDust
    | _ => false)

/-- The last quantity that a venue showed, and what its orders filled since. -/
def shownAndFilled (venue : Venue) (events : List VenueEvent) :
    Option ExactFloat × List ExactFloat :=
  events.foldl (fun seen event =>
    match event with
    | .observed other (.ok (some position)) =>
      if other = venue then (some position.quantity.abs, []) else seen
    | .placed request (.ok fill) =>
      if request.venue = venue then (seen.1, seen.2 ++ [fill.quantity]) else seen
    | _ => seen) (none, [])

def coveredByFills (venue : Venue) (events : List VenueEvent) : Bool :=
  match shownAndFilled venue events with
  | (some shown, fills) => (shown.sub flatDust).le (.sum fills)
  | (none, _) => false

/-- Nothing is concluded from a missing position or adapter, and no order is forgotten. -/
structure ObservedFlatness {World : Type} (env : CloseEnvironment World) (position : OpenPosition)
    (after : CollectedClose) (events : List VenueEvent) : Prop where
  adapters : ∀ venue ∈ [position.shortVenue, position.longVenue], (env.adapters venue).isSome
  flat : ∀ venue ∈ [position.shortVenue, position.longVenue],
    (flatSeen venue events || coveredByFills venue events) = true
  recorded : ∀ request answer, .placed request answer ∈ events →
    ∃ entry ∈ after.entriesAt position request.venue, NamesOrder request answer entry

/-- A venue that shows two units until it has rejected an order, and no position after it. -/
def rejectingAdapter : CloseAdapter Bool where
  placeOrder _ _ := (.error { failureClass := some .rejected, text := "closed" }, true)
  fetchPosition _ rejected :=
    (.ok (if rejected then none else some { side := .sell, quantity := .finite 2 }), rejected)
  fetchOrderFillReconciliation _ _ rejected := (.ok none, rejected)

def rejectingVenues : CloseEnvironment Bool where
  adapters _ := some rejectingAdapter
  compactClientOrderId positionId stage := positionId ++ ":" ++ stage
  wallClockNowMs _ := 0

theorem rejectingVenues_named (positionId stage : String) :
    rejectingVenues.compactClientOrderId positionId stage ≠ "" := by
  intro empty
  have texts := congrArg String.toList empty
  simp [rejectingVenues] at texts

def failedExit : CompensationReport where
  reason := "exit"
  failedStage := "exit_short_chunk_0"
  failedVenue := .okx
  error := "timeout"

theorem compensation_vouches_rejected :
    ∃ events,
      (compensateFailedFullClose rejectingVenues replayedPosition failedExit {}
        (beginClose replayedState false)).2.2.trace = [] ++ events ∧
      Compensated rejectingVenues replayedPosition
        (compensateFailedFullClose rejectingVenues replayedPosition failedExit {}
          (beginClose replayedState false)).2.1 events :=
  compensation_vouches rejectingVenues replayedPosition failedExit {}
    (beginClose replayedState false) rejectingVenues_named (by decide +kernel)

/-- A venue that rejects the order and then shows no position counts as flat. -/
theorem missing_position_compensates :
    ¬ ∀ (World : Type) (env : CloseEnvironment World) (position : OpenPosition)
      (report : CompensationReport) (collected : CollectedClose) (run : CloseRun World),
      (∀ positionId stage, env.compactClientOrderId positionId stage ≠ "") →
      (compensateFailedFullClose env position report collected run).1 = .compensated →
      ∃ events,
        (compensateFailedFullClose env position report collected run).2.2.trace =
          run.trace ++ events ∧
        ObservedFlatness env position
          (compensateFailedFullClose env position report collected run).2.1 events := by
  intro stated
  obtain ⟨events, traced, observed⟩ := stated Bool rejectingVenues replayedPosition failedExit {}
    (beginClose replayedState false) rejectingVenues_named (by decide +kernel)
  have flat := observed.flat .okx List.mem_cons_self
  rw [show events = _ from traced.symm] at flat
  exact absurd flat (by decide +kernel)

end Example

end LightFee.Engine
