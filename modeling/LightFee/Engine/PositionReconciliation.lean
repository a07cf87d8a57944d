import LightFee.Venues.Specs
import Mathlib.Tactic.NormNum

/-!
# Flatness from the venues' positions

Two probes ask the adapters of both legs for a position and conclude from two
small sizes that nothing is open. Both read a position that is missing as a
size of zero: the reconciliation when an adapter is missing or answers nothing,
the terminal probe when an answer is missing or its quantity unreadable. The
conclusion rests on observations exactly when both answers are there, or one of
them already shows a position.
-/

namespace LightFee.Engine

open LightFee.Venues

/-- A venue adapter; it may keep state between its calls, and a call may raise. -/
structure VenueAdapter (World : Type) where
  fetchOrderFillReconciliation :
    (symbol orderId clientOrderId : String) → World → Option (DynValue × World)
  fetchPosition : (symbol : String) → World → Option (DynValue × World)

/-- The attribute of a record. -/
def attribute? (value : DynValue) (name : String) : Option DynValue :=
  match value with
  | .obj attributes => OrderedDict.lookupEntries name attributes
  | _ => none

/-- `abs(value)`; texts and collections raise. -/
def absNumber? : DynValue → Option ExactFloat
  | .bool value => some (.finite (if value then 1 else 0))
  | .int value => some (.finite |(value : ℚ)|)
  | .float value => some value.value.abs
  | _ => none

/-- `min(left, right)`: the left one unless the right one is less. -/
def minFloat (left right : ExactFloat) : ExactFloat := if right.lt left then right else left

section Probes

variable {World : Type} (adapters : Venue → Option (VenueAdapter World))

/-- What the reconciliation learns about positions. -/
structure PositionReconciliationResult where
  positionId : String
  symbol : String
  longPosition : DynValue
  shortPosition : DynValue
  matchedQuantity : ExactFloat := .finite 0
  isFlat : Bool

/-- The adapter of a leg, when it has a venue that is known. -/
def legAdapter (venue : Option Venue) : Option (VenueAdapter World) := venue.bind adapters

/-- The position of a leg after its order is looked up. -/
def reconcileLeg (adapter : Option (VenueAdapter World)) (symbol orderId clientOrderId : String)
    (world : World) : Option (DynValue × World) :=
  match adapter with
  | none => some (.null, world)
  | some adapter => do
    let lookedUp ←
      if orderId ≠ "" then
        (adapter.fetchOrderFillReconciliation symbol orderId clientOrderId world).map Prod.snd
      else if clientOrderId ≠ "" then
        (adapter.fetchOrderFillReconciliation symbol "" clientOrderId world).map Prod.snd
      else some world
    adapter.fetchPosition symbol lookedUp

/-- The size of a leg's position; no position is no size. -/
def legSize (position : DynValue) : Option ExactFloat :=
  if position.truthy then (attribute? position "quantity").bind absNumber? else some (.finite 0)

/-- The tolerance of the reconciliation. -/
def flatTolerance : ExactFloat := .finite (1 / 10 ^ 12)

def reconcilePosition (positionId symbol : String) (longVenue shortVenue : Option Venue)
    (longOrderId shortOrderId longClientOrderId shortClientOrderId : String) (world : World) :
    Option (PositionReconciliationResult × World) := do
  let (longPosition, afterLong) ← reconcileLeg (legAdapter adapters longVenue) symbol longOrderId
    longClientOrderId world
  let (shortPosition, after) ← reconcileLeg (legAdapter adapters shortVenue) symbol shortOrderId
    shortClientOrderId afterLong
  let longSize ← legSize longPosition
  let shortSize ← legSize shortPosition
  let isFlat := longSize.lt flatTolerance && shortSize.lt flatTolerance
  let matched := if !isFlat && longPosition.truthy && shortPosition.truthy then
    minFloat longSize shortSize else .finite 0
  return ({
    positionId := positionId
    symbol := symbol
    longPosition := longPosition
    shortPosition := shortPosition
    matchedQuantity := matched
    isFlat := isFlat }, after)

/-- The quantity a position shows, if it is there and reads as a number. -/
def shownQuantity (position : DynValue) : Option ExactFloat :=
  ((attribute? position "quantity").or (attribute? position "size")).bind DynValue.toFloat?

def closeReconciliationLiveSize (position : DynValue) : ExactFloat :=
  if position.isNull then .finite 0
  else
    let raw := (attribute? position "quantity").getD
      ((attribute? position "size").getD (.int 0))
    match raw.toFloat? with
    | some size => if size.isFinite then size else .finite 0
    | none => .finite 0

/-- The positions of a pending close's legs, when both adapters answer. -/
def fetchTerminalPositions (symbol : String) (longVenue shortVenue : Venue) (world : World) :
    Option (DynValue × DynValue) := do
  let longAdapter ← adapters longVenue
  let shortAdapter ← adapters shortVenue
  let (longPosition, afterLong) ← longAdapter.fetchPosition symbol world
  let (shortPosition, _) ← shortAdapter.fetchPosition symbol afterLong
  return (longPosition, shortPosition)

def fetchPendingCloseTerminalLiveSizes (symbol : String) (longVenue shortVenue : Venue)
    (world : World) : Option (ExactFloat × ExactFloat) := do
  let (longPosition, shortPosition) ←
    fetchTerminalPositions adapters symbol longVenue shortVenue world
  return (closeReconciliationLiveSize longPosition, closeReconciliationLiveSize shortPosition)

end Probes

/-! ## Observations -/

/-- The adapter of the leg exists, and answered with a finite quantity below the
reconciliation's tolerance. -/
def LegObservedFlat {World : Type} (adapters : Venue → Option (VenueAdapter World))
    (venue : Option Venue) (position : DynValue) : Prop :=
  (legAdapter adapters venue).isSome ∧
    ∃ raw quantity, attribute? position "quantity" = some raw ∧
      raw.toFloat? = some (.finite quantity) ∧ |quantity| < 1 / 10 ^ 12

/-- The leg's answer shows a size that is not below the tolerance. -/
def LegShowsPosition (position : DynValue) : Prop :=
  ∃ size, position.truthy = true ∧ legSize position = some size ∧ size.lt flatTolerance = false

/-- The answer shows a finite quantity. -/
def ShowsFinite (position : DynValue) : Prop :=
  ∃ quantity, shownQuantity position = some (.finite quantity)

/-- The answer shows a finite quantity within `1e-9` of zero. -/
def ShowsZero (position : DynValue) : Prop :=
  ∃ quantity, shownQuantity position = some (.finite quantity) ∧ |quantity| ≤ 1 / 10 ^ 9

/-- The answer shows a finite quantity beyond `1e-9`. -/
def ShowsSize (position : DynValue) : Prop :=
  ∃ quantity, shownQuantity position = some (.finite quantity) ∧ 1 / 10 ^ 9 < |quantity|

/-- A size within `1e-9` of zero. -/
def NearZero (size : ExactFloat) : Prop := size.abs.le (.finite (1 / 10 ^ 9)) = true

/-! ## The reconciliation -/

/-- A size below the tolerance is the size of a finite number. -/
theorem small_number {raw : DynValue} {size : ExactFloat} (read : absNumber? raw = some size)
    (small : size.lt flatTolerance = true) :
    ∃ quantity, raw.toFloat? = some (.finite quantity) ∧ |quantity| < 1 / 10 ^ 12 := by
  cases raw with
  | bool value =>
      refine ⟨if value then 1 else 0, rfl, ?_⟩
      cases read
      cases value
      · norm_num
      · simp [flatTolerance] at small
        norm_num at small
  | int value =>
      cases read
      exact ⟨value, rfl, by simpa [flatTolerance] using small⟩
  | float value =>
      cases read
      cases exact : value.value with
      | finite quantity =>
          rw [exact] at small
          exact ⟨quantity, by simp [DynValue.toFloat?, exact], by simpa [flatTolerance] using small⟩
      | infinite negative =>
          rw [exact] at small
          cases small
      | notANumber =>
          rw [exact] at small
          cases small
  | null => cases read
  | str value => cases read
  | list items => cases read
  | dict entries => cases read
  | obj attributes => cases read

/-- A position that answers is the answer of an adapter. -/
theorem answered_adapter {World : Type} {adapters : Venue → Option (VenueAdapter World)}
    {venue : Option Venue} {symbol orderId clientOrderId : String} {world after : World}
    {position : DynValue}
    (answered : reconcileLeg (legAdapter adapters venue) symbol orderId clientOrderId world =
      some (position, after)) (shown : position.truthy = true) :
    (legAdapter adapters venue).isSome := by
  cases adapter : legAdapter adapters venue with
  | none =>
      rw [adapter] at answered
      cases answered
      cases shown
  | some adapter => rfl

theorem observed_truthy {World : Type} {adapters : Venue → Option (VenueAdapter World)}
    {venue : Option Venue} {position : DynValue} (observed : LegObservedFlat adapters venue position) :
    position.truthy = true := by
  obtain ⟨-, raw, quantity, found, -⟩ := observed
  cases position with
  | obj attributes => rfl
  | _ => cases found

/-- A leg read as flat is observed flat, if it answers at all. -/
theorem flat_leg_observed {World : Type} {adapters : Venue → Option (VenueAdapter World)}
    {venue : Option Venue} {position : DynValue} {size : ExactFloat}
    (adapter : (legAdapter adapters venue).isSome) (shown : position.truthy = true)
    (read : legSize position = some size) (small : size.lt flatTolerance = true) :
    LegObservedFlat adapters venue position := by
  rw [legSize, if_pos shown] at read
  obtain ⟨raw, found, number⟩ := Option.bind_eq_some_iff.mp read
  obtain ⟨quantity, value, near⟩ := small_number number small
  exact ⟨adapter, raw, quantity, found, value, near⟩

/-- A leg not read as flat shows a position. -/
theorem large_leg_shows {position : DynValue} {size : ExactFloat}
    (read : legSize position = some size) (large : size.lt flatTolerance = false) :
    LegShowsPosition position := by
  cases shown : position.truthy with
  | true => exact ⟨size, shown, read, large⟩
  | false =>
      rw [legSize, if_neg (by simp [shown])] at read
      cases read
      norm_num [flatTolerance] at large

/-- The reconciliation concludes flatness from observations exactly when both
legs answer or one of them shows a position. -/
theorem reconcile_observed_iff {World : Type} {adapters : Venue → Option (VenueAdapter World)}
    {positionId symbol : String} {longVenue shortVenue : Option Venue}
    {longOrderId shortOrderId longClientOrderId shortClientOrderId : String}
    {world after : World} {result : PositionReconciliationResult}
    (reconciled : reconcilePosition adapters positionId symbol longVenue shortVenue longOrderId
      shortOrderId longClientOrderId shortClientOrderId world = some (result, after)) :
    (result.isFlat = true →
      LegObservedFlat adapters longVenue result.longPosition ∧
        LegObservedFlat adapters shortVenue result.shortPosition) ↔
      (result.longPosition.truthy = true ∧ result.shortPosition.truthy = true) ∨
        LegShowsPosition result.longPosition ∨ LegShowsPosition result.shortPosition := by
  unfold reconcilePosition at reconciled
  obtain ⟨⟨longPosition, afterLong⟩, longAnswered, reconciled⟩ :=
    Option.bind_eq_some_iff.mp reconciled
  obtain ⟨⟨shortPosition, afterShort⟩, shortAnswered, reconciled⟩ :=
    Option.bind_eq_some_iff.mp reconciled
  obtain ⟨longSize, longRead, reconciled⟩ := Option.bind_eq_some_iff.mp reconciled
  obtain ⟨shortSize, shortRead, reconciled⟩ := Option.bind_eq_some_iff.mp reconciled
  cases reconciled
  dsimp only
  constructor
  · intro observed
    cases longSmall : longSize.lt flatTolerance with
    | false => exact Or.inr (Or.inl (large_leg_shows longRead longSmall))
    | true =>
        cases shortSmall : shortSize.lt flatTolerance with
        | false => exact Or.inr (Or.inr (large_leg_shows shortRead shortSmall))
        | true =>
            obtain ⟨long, short⟩ := observed (by rw [longSmall, shortSmall]; rfl)
            exact Or.inl ⟨observed_truthy long, observed_truthy short⟩
  · intro shown flat
    obtain ⟨longSmall, shortSmall⟩ := Bool.and_eq_true_iff.mp flat
    rcases shown with ⟨long, short⟩ | ⟨size, -, read, large⟩ | ⟨size, -, read, large⟩
    · constructor
      · exact flat_leg_observed (answered_adapter longAnswered long) long longRead longSmall
      · exact flat_leg_observed (answered_adapter shortAnswered short) short shortRead shortSmall
    · rw [longRead] at read
      cases read
      rw [longSmall] at large
      cases large
    · rw [shortRead] at read
      cases read
      rw [shortSmall] at large
      cases large

/-! ## The terminal probe -/

/-- The size of an answer: the finite quantity it shows, or nothing. -/
theorem live_size_cases (position : DynValue) :
    (∃ quantity, shownQuantity position = some (.finite quantity) ∧
        closeReconciliationLiveSize position = .finite quantity) ∨
      (¬ ShowsFinite position ∧ closeReconciliationLiveSize position = .finite 0) := by
  have raw : (attribute? position "quantity").getD ((attribute? position "size").getD (.int 0)) =
      ((attribute? position "quantity").or (attribute? position "size")).getD (.int 0) := by
    cases attribute? position "quantity" <;> rfl
  unfold ShowsFinite closeReconciliationLiveSize
  rw [raw, shownQuantity]
  cases found : (attribute? position "quantity").or (attribute? position "size") with
  | none =>
      refine Or.inr ⟨?_, ?_⟩
      · rintro ⟨quantity, shown⟩
        cases shown
      · simp [DynValue.toFloat?, ExactFloat.isFinite]
  | some value =>
      have present : position.isNull = false := by
        cases position with
        | null => cases found
        | _ => rfl
      rw [present]
      cases read : value.toFloat? with
      | none =>
          refine Or.inr ⟨?_, by simp [read]⟩
          rintro ⟨quantity, shown⟩
          simp [read] at shown
      | some size =>
          cases size with
          | finite quantity => exact Or.inl ⟨quantity, by simp [read], by simp [read, ExactFloat.isFinite]⟩
          | infinite negative =>
              refine Or.inr ⟨?_, by simp [read, ExactFloat.isFinite]⟩
              rintro ⟨quantity, shown⟩
              simp [read] at shown
          | notANumber =>
              refine Or.inr ⟨?_, by simp [read, ExactFloat.isFinite]⟩
              rintro ⟨quantity, shown⟩
              simp [read] at shown

theorem near_zero_finite (quantity : ℚ) :
    NearZero (.finite quantity) ↔ |quantity| ≤ 1 / 10 ^ 9 := by
  simp [NearZero]

/-- An answer that shows a finite quantity and reads near zero shows zero. -/
theorem near_zero_shows {position : DynValue} (shown : ShowsFinite position)
    (near : NearZero (closeReconciliationLiveSize position)) : ShowsZero position := by
  rcases live_size_cases position with ⟨quantity, found, size⟩ | ⟨hidden, -⟩
  · rw [size, near_zero_finite] at near
    exact ⟨quantity, found, near⟩
  · exact absurd shown hidden

/-- An answer that does not read near zero shows a size. -/
theorem not_near_zero_shows {position : DynValue}
    (far : ¬ NearZero (closeReconciliationLiveSize position)) : ShowsSize position := by
  rcases live_size_cases position with ⟨quantity, found, size⟩ | ⟨-, size⟩
  · rw [size, near_zero_finite] at far
    exact ⟨quantity, found, not_le.mp far⟩
  · rw [size, near_zero_finite] at far
    exact absurd (by norm_num) far

theorem shows_size_not_near {position : DynValue} (shown : ShowsSize position) :
    ¬ NearZero (closeReconciliationLiveSize position) := by
  obtain ⟨quantity, found, large⟩ := shown
  rcases live_size_cases position with ⟨other, same, size⟩ | ⟨hidden, -⟩
  · rw [found] at same
    cases same
    rw [size, near_zero_finite]
    exact not_le.mpr large
  · exact absurd ⟨quantity, found⟩ hidden

/-- Two answers read as near zero both show zero, exactly when both show a finite
quantity or one of them shows a size. -/
theorem live_sizes_observed_iff (longPosition shortPosition : DynValue) :
    (NearZero (closeReconciliationLiveSize longPosition) ∧
        NearZero (closeReconciliationLiveSize shortPosition) →
      ShowsZero longPosition ∧ ShowsZero shortPosition) ↔
      (ShowsFinite longPosition ∧ ShowsFinite shortPosition) ∨
        ShowsSize longPosition ∨ ShowsSize shortPosition := by
  constructor
  · intro observed
    by_cases longNear : NearZero (closeReconciliationLiveSize longPosition)
    · by_cases shortNear : NearZero (closeReconciliationLiveSize shortPosition)
      · obtain ⟨⟨long, longShown, -⟩, ⟨short, shortShown, -⟩⟩ := observed ⟨longNear, shortNear⟩
        exact Or.inl ⟨⟨long, longShown⟩, ⟨short, shortShown⟩⟩
      · exact Or.inr (Or.inr (not_near_zero_shows shortNear))
    · exact Or.inr (Or.inl (not_near_zero_shows longNear))
  · rintro (⟨long, short⟩ | long | short) ⟨longNear, shortNear⟩
    · exact ⟨near_zero_shows long longNear, near_zero_shows short shortNear⟩
    · exact absurd longNear (shows_size_not_near long)
    · exact absurd shortNear (shows_size_not_near short)

/-- For every adapters and answers: the reconciliation's flatness, and a terminal
probe that returns two sizes near zero, rest on observations of both legs exactly
when both answers show what they are read as, or one of them shows a size. -/
theorem flatness_observed_iff {World : Type} (adapters : Venue → Option (VenueAdapter World)) :
    (∀ positionId symbol longVenue shortVenue longOrderId shortOrderId longClientOrderId
        shortClientOrderId world result after,
      reconcilePosition adapters positionId symbol longVenue shortVenue longOrderId shortOrderId
        longClientOrderId shortClientOrderId world = some (result, after) →
      ((result.isFlat = true →
        LegObservedFlat adapters longVenue result.longPosition ∧
          LegObservedFlat adapters shortVenue result.shortPosition) ↔
        (result.longPosition.truthy = true ∧ result.shortPosition.truthy = true) ∨
          LegShowsPosition result.longPosition ∨ LegShowsPosition result.shortPosition)) ∧
    (∀ symbol longVenue shortVenue world longSize shortSize,
      fetchPendingCloseTerminalLiveSizes adapters symbol longVenue shortVenue world =
        some (longSize, shortSize) →
      (adapters longVenue).isSome ∧ (adapters shortVenue).isSome ∧
      ∃ longPosition shortPosition,
        fetchTerminalPositions adapters symbol longVenue shortVenue world =
          some (longPosition, shortPosition) ∧
        ((NearZero longSize ∧ NearZero shortSize →
          ShowsZero longPosition ∧ ShowsZero shortPosition) ↔
          (ShowsFinite longPosition ∧ ShowsFinite shortPosition) ∨
            ShowsSize longPosition ∨ ShowsSize shortPosition)) := by
  constructor
  · intro positionId symbol longVenue shortVenue longOrderId shortOrderId longClientOrderId
      shortClientOrderId world result after reconciled
    exact reconcile_observed_iff reconciled
  · intro symbol longVenue shortVenue world longSize shortSize returned
    unfold fetchPendingCloseTerminalLiveSizes at returned
    obtain ⟨⟨longPosition, shortPosition⟩, fetched, returned⟩ := Option.bind_eq_some_iff.mp returned
    cases returned
    have adapterPair := fetched
    unfold fetchTerminalPositions at adapterPair
    obtain ⟨longAdapter, long, adapterPair⟩ := Option.bind_eq_some_iff.mp adapterPair
    obtain ⟨shortAdapter, short, -⟩ := Option.bind_eq_some_iff.mp adapterPair
    refine ⟨by rw [long]; rfl, by rw [short]; rfl, longPosition, shortPosition, fetched, ?_⟩
    exact live_sizes_observed_iff longPosition shortPosition

/-- Adapters that answer every question with nothing. -/
def silentAdapters : Venue → Option (VenueAdapter Unit) := fun _ =>
  some { fetchOrderFillReconciliation := fun _ _ _ world => some (.null, world)
         fetchPosition := fun _ world => some (.null, world) }

/-- No adapter at all. -/
def noAdapters : Venue → Option (VenueAdapter Unit) := fun _ => none

/-- Without any adapter, and without any answer, both legs are read as flat. -/
theorem silence_read_as_flat :
    (∃ result, reconcilePosition noAdapters "p1" "BTCUSDT" (some .okx) (some .bybit) "" "" "" "" () =
        some (result, ()) ∧ result.isFlat = true ∧
        ¬ LegObservedFlat noAdapters (some .okx) result.longPosition) ∧
      fetchTerminalPositions silentAdapters "BTCUSDT" .okx .bybit () = some (.null, .null) ∧
      fetchPendingCloseTerminalLiveSizes silentAdapters "BTCUSDT" .okx .bybit () =
        some (.finite 0, .finite 0) ∧
      NearZero (.finite 0) ∧ ¬ ShowsZero .null := by
  refine ⟨?_, rfl, rfl, by norm_num [NearZero], ?_⟩
  · have flat : (reconcilePosition noAdapters "p1" "BTCUSDT" (some .okx) (some .bybit)
        "" "" "" "" ()).map (fun outcome => outcome.1.isFlat) = some true := by decide +kernel
    obtain ⟨⟨result, ⟨⟩⟩, reconciled, isFlat⟩ := Option.map_eq_some_iff.mp flat
    refine ⟨result, reconciled, isFlat, ?_⟩
    rintro ⟨adapter, -⟩
    cases adapter
  · rintro ⟨quantity, shown, -⟩
    cases shown

end LightFee.Engine
