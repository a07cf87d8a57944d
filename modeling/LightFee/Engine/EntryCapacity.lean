import LightFee.Engine.EntryDispatch
import Mathlib.Data.Finset.Card
import Mathlib.Algebra.Order.Group.Int

/-!
# The capacity for entries

An open position, a pending entry and a slot that an unresolved dispatch keeps each take one place.
A scan hands over more candidates than there are places, so the loop looks at the capacity before
each of them. The gates that a candidate passes before its orders go out are any function of the
candidate, the state and the world.
-/

namespace LightFee.Engine

open LightFee.Venues DynValue RecoveryOwnerIndex

/-! ## Places -/

/-- What takes places, and the pending entry of each client order id. -/
structure EntrySlots where
  engine : EngineState
  reservations : Finset String := ∅
  recoveryDedupIndex : OrderedDict String String := .empty

structure EntryCapacity where
  maxConcurrentPositions : Int
  openPositionCount : Nat
  pendingEntryCount : Nat
  entryCapacityReservationCount : Nat
  effectiveEntrySlotCount : Nat
  remainingSlots : Int
  capacityBlocked : Bool

namespace EntrySlots

def effectiveEntrySlotCount (slots : EntrySlots) : Nat :=
  slots.engine.openPositions.keys.length + slots.engine.pendingEntries.keys.length +
    slots.reservations.card

/-- `_entry_capacity_snapshot`. -/
def entryCapacitySnapshot (configured : Int) (slots : EntrySlots) : EntryCapacity :=
  let maxSlots := max configured 1
  { maxConcurrentPositions := maxSlots
    openPositionCount := slots.engine.openPositions.keys.length
    pendingEntryCount := slots.engine.pendingEntries.keys.length
    entryCapacityReservationCount := slots.reservations.card
    effectiveEntrySlotCount := slots.effectiveEntrySlotCount
    remainingSlots := max (maxSlots - slots.effectiveEntrySlotCount) 0
    capacityBlocked := decide (maxSlots ≤ slots.effectiveEntrySlotCount) }

/-- What one effect of a dispatch changes. -/
def apply (slots : EntrySlots) : DispatchEffect → EntrySlots
  | .journal _ => slots
  | .reserve entryId =>
    if entryId = "" then slots
    else { slots with reservations := insert entryId slots.reservations }
  | .release entryId => { slots with reservations := slots.reservations.erase entryId }
  | .submit _ => slots
  | .openPosition position =>
    { slots with engine := { slots.engine with
        openPositions := slots.engine.openPositions.insert position.positionId position } }
  | .registerPending pending =>
    { slots with
      engine := { slots.engine with
        pendingEntries := slots.engine.pendingEntries.insert pending.pendingId pending }
      recoveryDedupIndex :=
        (slots.recoveryDedupIndex.insert pending.makerClientOrderId pending.pendingId).insert
          pending.hedgeClientOrderId pending.pendingId }

def applyAll (slots : EntrySlots) (effects : List DispatchEffect) : EntrySlots :=
  effects.foldl apply slots

/-- The id takes no place. -/
structure Fresh (slots : EntrySlots) (entryId : String) : Prop where
  opened : entryId ∉ slots.engine.openPositions.keys
  pending : entryId ∉ slots.engine.pendingEntries.keys
  reserved : entryId ∉ slots.reservations

/-! ## One dispatch -/

theorem applyAll_append (slots : EntrySlots) (first second : List DispatchEffect) :
    slots.applyAll (first ++ second) = (slots.applyAll first).applyAll second :=
  List.foldl_append

/-- Orders take no place. -/
theorem applyAll_submits (slots : EntrySlots) (submissions : List EntrySubmission) :
    slots.applyAll (submissions.map DispatchEffect.submit) = slots := by
  induction submissions with
  | nil => rfl
  | cons submission rest ih => exact ih

end EntrySlots

/-- How the places after a dispatch differ from the places before: at most one more is taken, one
is when an order may be executed, and only by this entry. -/
structure Dispatched (entryId : String) (submissions : List EntrySubmission)
    (before after : EntrySlots) : Prop where
  counted : after.effectiveEntrySlotCount ≤ before.effectiveEntrySlotCount + 1
  kept : before.effectiveEntrySlotCount ≤ after.effectiveEntrySlotCount
  exposed : (∃ submission ∈ submissions, submission.answer.mayBeExposed = true) →
    after.effectiveEntrySlotCount = before.effectiveEntrySlotCount + 1
  others : ∀ other, other ≠ entryId → before.Fresh other → after.Fresh other

namespace Dispatched

variable {entryId : String} {submissions : List EntrySubmission} {slots : EntrySlots}

/-- A place more is taken, by this entry. -/
theorem taken {after : EntrySlots}
    (counted : after.effectiveEntrySlotCount = slots.effectiveEntrySlotCount + 1)
    (others : ∀ other, other ≠ entryId → slots.Fresh other → after.Fresh other) :
    Dispatched entryId submissions slots after where
  counted := counted.le
  kept := by omega
  exposed := fun _ => counted
  others := others

theorem reserved (named : entryId ≠ "") (fresh : slots.Fresh entryId) :
    Dispatched entryId submissions slots (slots.apply (.reserve entryId)) := by
  rw [EntrySlots.apply, if_neg named]
  refine taken ?_ (fun other different untaken => ?_)
  · simp [EntrySlots.effectiveEntrySlotCount, Finset.card_insert_of_notMem fresh.reserved]
    omega
  · exact ⟨untaken.opened, untaken.pending, by simp [different, untaken.reserved]⟩

/-- What an ending leaves. -/
theorem ended {symbol : String} {ending : List DispatchEffect}
    (ends : Ending entryId symbol submissions ending)
    (named : entryId ≠ "") (fresh : slots.Fresh entryId) :
    Dispatched entryId submissions slots
      ((slots.apply (.reserve entryId)).applyAll ending) := by
  cases ends with
  | raised => exact reserved named fresh
  | @opened makerRequest hedgeRequest position makerFill hedgeFill sameId =>
    subst sameId
    refine taken ?_ (fun other different untaken => ?_)
    · simp [EntrySlots.applyAll, EntrySlots.apply, ownerHandoff, EntrySlots.effectiveEntrySlotCount,
        named, fresh.reserved, OrderedDict.keys_insert, fresh.opened]
      omega
    · refine ⟨?_, ?_, ?_⟩
      · simp [EntrySlots.applyAll, EntrySlots.apply, ownerHandoff, named, OrderedDict.mem_keys_insert,
          different, untaken.opened]
      · simp [EntrySlots.applyAll, EntrySlots.apply, ownerHandoff, named, untaken.pending]
      · simp [EntrySlots.applyAll, EntrySlots.apply, ownerHandoff, named, untaken.reserved, different]
  | @pending pending sameId =>
    subst sameId
    refine taken ?_ (fun other different untaken => ?_)
    · simp [EntrySlots.applyAll, EntrySlots.apply, ownerHandoff, EntrySlots.effectiveEntrySlotCount,
        named, fresh.reserved, OrderedDict.keys_insert, fresh.pending]
      omega
    · refine ⟨?_, ?_, ?_⟩
      · simp [EntrySlots.applyAll, EntrySlots.apply, ownerHandoff, named, untaken.opened]
      · simp [EntrySlots.applyAll, EntrySlots.apply, ownerHandoff, named, OrderedDict.mem_keys_insert,
          different, untaken.pending]
      · simp [EntrySlots.applyAll, EntrySlots.apply, ownerHandoff, named, untaken.reserved, different]
  | refused unexposed =>
    have unchanged : (slots.apply (.reserve entryId)).applyAll (ownerHandoff entryId "rejected") =
        slots := by
      simp [EntrySlots.applyAll, EntrySlots.apply, ownerHandoff, named, fresh.reserved]
    rw [unchanged]
    refine ⟨Nat.le_succ _, le_refl _, ?_, fun other different untaken => untaken⟩
    rintro ⟨submission, member, exposed⟩
    rw [unexposed submission member] at exposed
    cases exposed

/-- A whole dispatch. -/
theorem whole [TextCase] {World : Type} (print : ExactFloat → PrintedFloat)
    (env : EntryEnvironment World) (context : EntryContext) (nowMs tickCount : Int)
    (candidate : OrderedDict String DynValue) (world : World) (named : context.entryId ≠ "")
    (fresh : slots.Fresh context.entryId) :
    Dispatched context.entryId (execute env context nowMs world).2.submissions slots
      (slots.applyAll (executeEntryContext tickCount candidate print env context nowMs world)) := by
  obtain ⟨ending, split, ends, -⟩ :=
    dispatch_ends print env context nowMs tickCount candidate world
  have after : slots.applyAll
      (executeEntryContext tickCount candidate print env context nowMs world) =
        (slots.apply (.reserve context.entryId)).applyAll ending := by
    rw [split, EntrySlots.applyAll, List.foldl_cons, List.foldl_cons, ← EntrySlots.applyAll,
      EntrySlots.applyAll_append, EntrySlots.applyAll_submits]
    rfl
  rw [after]
  exact ended ends named fresh

end Dispatched

/-! ## A scan's candidates -/

/-- A candidate: its symbol, and all its fields. -/
structure EntryCandidate where
  symbol : String
  fields : OrderedDict String DynValue

def dispatchEntryId (nowMs : Int) (symbol : String) : String :=
  "entry-" ++ toString nowMs ++ "-" ++ symbol

theorem dispatchEntryId_named (nowMs : Int) (symbol : String) : dispatchEntryId nowMs symbol ≠ "" := by
  intro empty
  have letters := congrArg String.toList empty
  simp [dispatchEntryId] at letters

theorem dispatchEntryId_inj {nowMs : Int} {symbol other : String}
    (same : dispatchEntryId nowMs symbol = dispatchEntryId nowMs other) : symbol = other := by
  rw [dispatchEntryId, dispatchEntryId] at same
  exact String.append_right_inj _ |>.mp same

/-- What a scan works with: the executor that it has in a state, and the gates, which build the
context of a candidate or block it. -/
structure EntryScan (World : Type) where
  nowMs : Int
  tickCount : Int
  environment : EntrySlots → EntryEnvironment World
  admitted : EntryCandidate → EntrySlots → World → Option EntryContext × World

/-- The state of the loop, with the orders of each entry that was executed. -/
structure ScanState (World : Type) where
  slots : EntrySlots
  world : World
  dispatched : Nat := 0
  calls : List (List EntrySubmission) := []

/-- An order of the call may be executed. -/
def mayExpose (submissions : List EntrySubmission) : Bool :=
  submissions.any fun submission => submission.answer.mayBeExposed

section Scan

variable [TextCase] (print : ExactFloat → PrintedFloat) {World : Type} (scan : EntryScan World)

/-- `_dispatch_entry`. -/
def dispatchEntry (candidate : EntryCandidate) (state : ScanState World) : ScanState World :=
  match scan.admitted candidate state.slots state.world with
  | (none, world) => { state with world := world }
  | (some context, world) =>
    let named := { context with
      entryId := dispatchEntryId scan.nowMs candidate.symbol
      symbol := candidate.symbol }
    let env := scan.environment state.slots
    let outcome := execute env named scan.nowMs world
    { slots := state.slots.applyAll (executeEntryContext scan.tickCount candidate.fields print env
        named scan.nowMs world)
      world := outcome.2.world
      dispatched := state.dispatched + if outcome.1.isOk then 1 else 0
      calls := state.calls ++ [outcome.2.submissions] }

/-- `_dispatch_selected_entry_candidates`: the capacity is looked at before each candidate. -/
def dispatchSelected (configured : Int) : List EntryCandidate → ScanState World → ScanState World
  | [], state => state
  | candidate :: rest, state =>
    if (state.slots.entryCapacitySnapshot configured).remainingSlots ≤ 0 then state
    else dispatchSelected configured rest (dispatchEntry print scan candidate state)

/-- The places after a candidate, with the calls that may have left an order behind. -/
structure Accounted (entryId : String) (before after : ScanState World) : Prop where
  counted : after.slots.effectiveEntrySlotCount ≤ before.slots.effectiveEntrySlotCount + 1
  exposed : before.slots.effectiveEntrySlotCount + (after.calls.filter mayExpose).length ≤
    after.slots.effectiveEntrySlotCount + (before.calls.filter mayExpose).length
  others : ∀ other, other ≠ entryId → before.slots.Fresh other → after.slots.Fresh other

theorem dispatch_accounted (candidate : EntryCandidate) (state : ScanState World)
    (fresh : state.slots.Fresh (dispatchEntryId scan.nowMs candidate.symbol)) :
    Accounted (dispatchEntryId scan.nowMs candidate.symbol) state
      (dispatchEntry print scan candidate state) := by
  unfold dispatchEntry
  split
  · exact ⟨Nat.le_succ _, le_refl _, fun other different untaken => untaken⟩
  · next context world _ =>
    have whole := Dispatched.whole print (scan.environment state.slots)
      { context with
        entryId := dispatchEntryId scan.nowMs candidate.symbol
        symbol := candidate.symbol }
      scan.nowMs scan.tickCount candidate.fields world (dispatchEntryId_named _ _) fresh
    refine ⟨whole.counted, ?_, whole.others⟩
    dsimp only
    rw [List.filter_append, List.length_append, List.filter_singleton]
    have kept := whole.kept
    have taken := whole.exposed
    cases exposes : mayExpose (execute (scan.environment state.slots)
      { context with
        entryId := dispatchEntryId scan.nowMs candidate.symbol
        symbol := candidate.symbol } scan.nowMs world).2.submissions with
    | true =>
      rw [mayExpose, List.any_eq_true] at exposes
      have more := taken exposes
      simp only [cond_true, List.length_singleton]
      omega
    | false =>
      simp only [cond_false, List.length_nil]
      omega

/-- A scan whose candidates have symbols of their own takes a place for every entry of which an
order may be executed, and never more places than are configured, unless more were taken before. -/
theorem exposed_within_capacity (configured : Int) (finalists : List EntryCandidate)
    (state : ScanState World) (distinct : (finalists.map EntryCandidate.symbol).Nodup)
    (fresh : ∀ candidate ∈ finalists,
      state.slots.Fresh (dispatchEntryId scan.nowMs candidate.symbol)) :
    let final := dispatchSelected print scan configured finalists state
    state.slots.effectiveEntrySlotCount + (final.calls.filter mayExpose).length ≤
        final.slots.effectiveEntrySlotCount + (state.calls.filter mayExpose).length ∧
      (final.slots.effectiveEntrySlotCount : Int) ≤
        max (state.slots.effectiveEntrySlotCount : Int) (max configured 1) := by
  induction finalists generalizing state with
  | nil => exact ⟨le_refl _, le_max_left _ _⟩
  | cons candidate rest ih =>
    rw [List.map_cons, List.nodup_cons] at distinct
    rw [dispatchSelected]
    split_ifs with full
    · exact ⟨le_refl _, le_max_left _ _⟩
    · have accounted := dispatch_accounted print scan candidate state
        (fresh candidate List.mem_cons_self)
      have counted := accounted.counted
      have exposed := accounted.exposed
      obtain ⟨exposedRest, boundedRest⟩ := ih
        (dispatchEntry print scan candidate state) distinct.2 (fun other member =>
          accounted.others _ (fun same => distinct.1 (List.mem_map.mpr
            ⟨other, member, dispatchEntryId_inj same⟩)) (fresh other (List.mem_cons_of_mem _ member)))
      refine ⟨by omega, ?_⟩
      rw [EntrySlots.entryCapacitySnapshot] at full
      dsimp only at full
      omega

end Scan

/-- Every candidate is admitted with the context of the entry whose hedge has no venue. -/
def admittingScan : EntryScan Unit where
  nowMs := 1
  tickCount := 7
  environment _ := unhedgedEnvironment
  admitted _ _ world := (some unhedgedContext, world)

def scanStart : ScanState Unit where
  slots := { engine := {} }
  world := ()

/-- Two candidates and one place. -/
theorem exposed_within_capacity_two :
    let final := @dispatchSelected TextCase.ascii printOne Unit admittingScan 1
      [⟨"BTCUSDT", .empty⟩, ⟨"ETHUSDT", .empty⟩] scanStart
    scanStart.slots.effectiveEntrySlotCount + (final.calls.filter mayExpose).length ≤
        final.slots.effectiveEntrySlotCount + (scanStart.calls.filter mayExpose).length ∧
      (final.slots.effectiveEntrySlotCount : Int) ≤
        max (scanStart.slots.effectiveEntrySlotCount : Int) (max 1 1) :=
  @exposed_within_capacity TextCase.ascii printOne Unit admittingScan 1
    [⟨"BTCUSDT", .empty⟩, ⟨"ETHUSDT", .empty⟩] scanStart (by decide)
    (fun _ _ => ⟨List.not_mem_nil, List.not_mem_nil, Finset.notMem_empty _⟩)

example : (@dispatchSelected TextCase.ascii printOne Unit admittingScan 1
    [⟨"BTCUSDT", .empty⟩, ⟨"ETHUSDT", .empty⟩] scanStart).calls.map mayExpose = [true] := by
  decide +kernel

end LightFee.Engine
