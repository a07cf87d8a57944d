import LightFee.Engine.PassiveOrderManager
import Mathlib.Data.List.Basic

/-!
# The operations of a passive order manager

Every decision is followed by the notes of its operations. A decision holds the
tokens its notes take, with one exception: a replacement after the working
timeout is announced on one token and noted twice. In a run without that
exception the notes in a window are paid for by the bucket's allowance.
-/

namespace LightFee.Engine

/-- Operations the caller submits, and notes, for a decision. -/
def PassiveOrderManagerDecisionType.operations : PassiveOrderManagerDecisionType → Nat
  | .place | .amend => 1
  | .cancelReplace => 2
  | _ => 0

/-- One call of a run; a decision comes with the notes that follow it. -/
inductive ManagerEvent where
  | decide (input : PassiveOrderDecisionInput) (nowMs : Int)
  | success (nowMs : Int)
  | failure (nowMs : Int)

def ManagerEvent.nowMs : ManagerEvent → Int
  | .decide _ nowMs | .success nowMs | .failure nowMs => nowMs

namespace PassiveOrderManager

def step (manager : PassiveOrderManager) : ManagerEvent → PassiveOrderManager
  | .decide input nowMs =>
    (·.noteOperation nowMs)^[(manager.decide input nowMs).2.kind.operations]
      (manager.decide input nowMs).1
  | .success nowMs => manager.noteSuccess nowMs
  | .failure nowMs => manager.noteFailure nowMs

/-- Times of the operations one event notes. -/
def noted (manager : PassiveOrderManager) : ManagerEvent → List Int
  | .decide input nowMs =>
    List.replicate (manager.decide input nowMs).2.kind.operations nowMs
  | _ => []

/-- Times of the operations a run notes, in order. -/
def operations (manager : PassiveOrderManager) : List ManagerEvent → List Int
  | [] => []
  | event :: rest => manager.noted event ++ (manager.step event).operations rest

/-- The run's decisions, each with the manager it meets. -/
def decisions (manager : PassiveOrderManager) :
    List ManagerEvent → List (PassiveOrderManager × PassiveOrderDecisionInput × Int)
  | [] => []
  | event :: rest =>
    (match event with
      | .decide input nowMs => [(manager, input, nowMs)]
      | _ => []) ++ (manager.step event).decisions rest

/-- Operations noted from `start` to `finish`. -/
def operationsWithin (manager : PassiveOrderManager) (events : List ManagerEvent)
    (start finish : Int) : List Int :=
  (manager.operations events).filter (fun time => start ≤ time ∧ time ≤ finish)

/-- The call meets a resting order beyond the working timeout, with a token for
one operation but not for two. -/
def Overdraws (manager : PassiveOrderManager) (input : PassiveOrderDecisionInput)
    (nowMs : Int) : Prop :=
  manager.isInCooldown nowMs = false ∧
  (1 ≤ (manager.refillOpsBucket nowMs).opsBucketTokens ∧
    (manager.refillOpsBucket nowMs).opsBucketTokens < 2) ∧
  (positivePrice input.targetPrice).isSome ∧ input.tickSize.le (.finite 0) = false ∧
  input.currentPrice.isSome ∧ input.timedOut manager.profile.workingTimeoutMs nowMs = true

/-! ## One decision -/

@[simp] theorem skip_operations (reason : PassiveSkipReason) :
    (PassiveOrderManagerDecision.skip reason).kind.operations = 0 := rfl

@[simp] theorem replace_operations (input : PassiveOrderDecisionInput) (targetPrice : ExactFloat)
    (reason : PassiveReplaceReason) :
    (PassiveOrderManagerDecision.replace input targetPrice reason).kind.operations = 2 := rfl

/-- A replacement of an order that may rest on has its two tokens. -/
theorem reprice_reserves {manager : PassiveOrderManager} (input : PassiveOrderDecisionInput)
    (targetPrice : ExactFloat) (nowMs : Int) (token : 1 ≤ manager.opsBucketTokens) :
    ((manager.reprice input targetPrice nowMs).kind.operations : ℚ) ≤ manager.opsBucketTokens := by
  have nonnegative : 0 ≤ manager.opsBucketTokens := zero_le_one.trans token
  unfold reprice
  dsimp only
  split
  · simpa
  split
  · simpa
  split
  · simpa
  split
  · simpa [PassiveOrderManagerDecisionType.operations]
  split
  · simpa
  next affordable =>
    rw [replace_operations]
    exact not_lt.mp affordable

/-- A refilled manager holds the tokens of its decision, unless the order has
rested beyond the timeout and there is a token for one operation only. -/
theorem decide_refilled_reserves (manager : PassiveOrderManager)
    (input : PassiveOrderDecisionInput) (nowMs : Int) :
    ((manager.decideRefilled input nowMs).kind.operations : ℚ) ≤ max 0 manager.opsBucketTokens ↔
      ¬ ((1 ≤ manager.opsBucketTokens ∧ manager.opsBucketTokens < 2) ∧
        (positivePrice input.targetPrice).isSome ∧ input.tickSize.le (.finite 0) = false ∧
        input.currentPrice.isSome ∧ input.timedOut manager.profile.workingTimeoutMs nowMs = true) := by
  unfold decideRefilled
  by_cases empty : manager.opsBucketTokens < 1
  · simp [empty]
  · have token : 1 ≤ manager.opsBucketTokens := not_lt.mp empty
    have nonnegative : 0 ≤ manager.opsBucketTokens := zero_le_one.trans token
    rw [if_neg empty, max_eq_right nonnegative]
    cases positivePrice input.targetPrice with
    | none => simpa
    | some targetPrice =>
        dsimp only
        split_ifs with tick missing late
        · simpa [tick]
        · have absent : input.currentPrice.isSome = false := by simpa using missing
          simpa [PassiveOrderManagerDecisionType.operations, absent] using token
        · have resting : input.currentPrice.isSome = true := by
            simpa [Option.isSome_iff_ne_none] using missing
          simp [tick, resting, late, token]
        · simp [late, reprice_reserves input targetPrice nowMs token]

/-! ## The bucket -/

/-- Tokens a millisecond earns. -/
def ratePerMs (manager : PassiveOrderManager) : ℚ :=
  manager.profile.effectiveRefillPerSec / 1000

/-- What the manager can still note from `start` to `finish`; before its first
refill it may start full. -/
def allowance (start finish : Int) (manager : PassiveOrderManager) : ℚ :=
  match manager.opsBucketLastRefillAtMs with
  | some last => TokenBucket.allowance manager.profile.effectiveCapacity manager.ratePerMs
      start finish ⟨manager.opsBucketTokens, last⟩
  | none => manager.profile.effectiveCapacity + max 0 (finish - start : ℚ) * manager.ratePerMs

/-- A manager as its own calls up to a time leave it. -/
structure Sound (nowMs : Int) (manager : PassiveOrderManager) : Prop where
  limits : manager.profile.Positive
  nonnegative : 0 ≤ manager.opsBucketTokens
  capped : manager.opsBucketTokens ≤ manager.profile.effectiveCapacity
  past : ∀ last ∈ manager.opsBucketLastRefillAtMs, last ≤ nowMs

theorem effective_capacity_pos {profile : PassiveOrderManagerProfile} (limits : profile.Positive) :
    0 < profile.effectiveCapacity := by
  apply lt_min limits.capacity
  exact_mod_cast lt_max_of_lt_left limits.rate

theorem effective_refill_pos {profile : PassiveOrderManagerProfile} (limits : profile.Positive) :
    0 < profile.effectiveRefillPerSec := by
  apply lt_min limits.refill
  exact_mod_cast lt_max_of_lt_left limits.rate

theorem create_sound {profile : PassiveOrderManagerProfile} (limits : profile.Positive)
    (nowMs : Int) : (create profile).Sound nowMs where
  limits := limits
  nonnegative := (effective_capacity_pos limits).le
  capped := le_refl _
  past := by
    intro last refilled
    cases refilled

namespace Sound

variable {manager : PassiveOrderManager} {nowMs start finish : Int}

theorem rate_nonneg (sound : manager.Sound nowMs) : 0 ≤ manager.ratePerMs :=
  div_nonneg (effective_refill_pos sound.limits).le (by norm_num)

theorem bounded (sound : manager.Sound nowMs) (last : ℚ) :
    TokenBucket.Bounded manager.profile.effectiveCapacity ⟨manager.opsBucketTokens, last⟩ :=
  ⟨sound.nonnegative, sound.capped⟩

theorem later (sound : manager.Sound nowMs) {nextMs : Int} (ordered : nowMs ≤ nextMs) :
    manager.Sound nextMs :=
  ⟨sound.limits, sound.nonnegative, sound.capped,
    fun last refilled => (sound.past last refilled).trans ordered⟩

theorem allowance_nonneg (sound : manager.Sound nowMs) : 0 ≤ manager.allowance start finish := by
  unfold allowance
  cases manager.opsBucketLastRefillAtMs with
  | none =>
      apply add_nonneg (effective_capacity_pos sound.limits).le
      exact mul_nonneg (le_max_left _ _) sound.rate_nonneg
  | some last => exact TokenBucket.allowance_nonneg sound.rate_nonneg (sound.bounded last)

/-- A window allows one capacity and its own refill. -/
theorem allowance_le (sound : manager.Sound nowMs) (window : start ≤ finish) :
    manager.allowance start finish ≤
      manager.profile.effectiveCapacity +
        manager.profile.effectiveRefillPerSec * (finish - start : Int) / 1000 := by
  have windowTime : (start : ℚ) ≤ finish := by exact_mod_cast window
  have allowed : manager.allowance start finish ≤
      manager.profile.effectiveCapacity + (finish - start) * manager.ratePerMs := by
    unfold allowance
    cases manager.opsBucketLastRefillAtMs with
    | none => rw [max_eq_right (sub_nonneg.mpr windowTime)]
    | some last => exact TokenBucket.allowance_le sound.rate_nonneg (sound.bounded last) windowTime
  calc manager.allowance start finish
      ≤ manager.profile.effectiveCapacity + (finish - start) * manager.ratePerMs := allowed
    _ = _ := by
      unfold ratePerMs
      push_cast
      ring

end Sound

/-- The tokens after a refill are those of the bucket refilled to that time. -/
theorem refill_view {manager : PassiveOrderManager} {nowMs last : Int}
    (sound : manager.Sound nowMs) (refilled : manager.opsBucketLastRefillAtMs = some last) :
    (⟨(manager.refillOpsBucket nowMs).opsBucketTokens, nowMs⟩ : TokenBucket.Bucket ℚ) =
      TokenBucket.refill manager.profile.effectiveCapacity manager.ratePerMs
        ⟨manager.opsBucketTokens, last⟩ nowMs := by
  have past : last ≤ nowMs := sound.past last refilled
  simp only [refillOpsBucket, refilled, max_eq_right (sub_nonneg.mpr past), TokenBucket.refill]
  split_ifs with early
  · have now : nowMs = last := le_antisymm (by exact_mod_cast early) past
    simp [now, sound.capped]
  · simp only [TokenBucket.Bucket.mk.injEq, and_true, ratePerMs]
    congr 2
    push_cast
    ring

theorem refill_sound {manager : PassiveOrderManager} {nowMs : Int} (sound : manager.Sound nowMs) :
    (manager.refillOpsBucket nowMs).Sound nowMs := by
  have bounded : TokenBucket.Bounded manager.profile.effectiveCapacity
      ⟨(manager.refillOpsBucket nowMs).opsBucketTokens, nowMs⟩ := by
    cases refilled : manager.opsBucketLastRefillAtMs with
    | none =>
        simp only [refillOpsBucket, refilled]
        exact ⟨(effective_capacity_pos sound.limits).le, le_refl _⟩
    | some last =>
        rw [refill_view sound refilled]
        exact TokenBucket.refill_bounded sound.rate_nonneg (sound.bounded last) nowMs
  refine ⟨sound.limits, bounded.nonnegative, bounded.capped, ?_⟩
  intro last refilled
  cases refilled
  exact le_refl nowMs

/-- A refill before the window closes does not raise the allowance. -/
theorem refill_allowance_le {manager : PassiveOrderManager} {nowMs start finish : Int}
    (sound : manager.Sound nowMs) (unclosed : nowMs ≤ finish) :
    (manager.refillOpsBucket nowMs).allowance start finish ≤ manager.allowance start finish := by
  have unclosedTime : (nowMs : ℚ) ≤ finish := by exact_mod_cast unclosed
  have view : (manager.refillOpsBucket nowMs).allowance start finish =
      TokenBucket.allowance manager.profile.effectiveCapacity manager.ratePerMs start finish
        ⟨(manager.refillOpsBucket nowMs).opsBucketTokens, nowMs⟩ := rfl
  rw [view]
  cases refilled : manager.opsBucketLastRefillAtMs with
  | none =>
      simp only [allowance, refilled, TokenBucket.allowance, refillOpsBucket]
      have shorter : max 0 ((finish : ℚ) - max (nowMs : ℚ) start) ≤ max 0 (finish - start : ℚ) :=
        max_le_max_left 0 (by linarith [le_max_right (nowMs : ℚ) start])
      have earns := mul_le_mul_of_nonneg_right shorter sound.rate_nonneg
      split_ifs <;> linarith
  | some last =>
      rw [refill_view sound refilled]
      simp only [allowance, refilled]
      exact TokenBucket.refill_allowance_le sound.rate_nonneg unclosedTime

/-! ## The notes of one decision -/

/-- A refilled manager notes operations it has tokens for one token each. -/
theorem notes_spend {manager : PassiveOrderManager} {nowMs : Int} (count : Nat)
    (sound : manager.Sound nowMs) (current : manager.opsBucketLastRefillAtMs = some nowMs)
    (enough : (count : ℚ) ≤ manager.opsBucketTokens) :
    let after := (·.noteOperation nowMs)^[count] manager
    after.profile = manager.profile ∧ after.opsBucketLastRefillAtMs = some nowMs ∧
      after.opsBucketTokens = manager.opsBucketTokens - count := by
  induction count generalizing manager with
  | zero => simp [current]
  | succ count ih =>
      push_cast at enough
      have token : 1 ≤ manager.opsBucketTokens := by
        have : (0 : ℚ) ≤ count := Nat.cast_nonneg count
        linarith
      have full : (manager.refillOpsBucket nowMs).opsBucketTokens = manager.opsBucketTokens := by
        simp [refillOpsBucket, current, sound.capped]
      have spent : (manager.noteOperation nowMs).opsBucketTokens = manager.opsBucketTokens - 1 := by
        simp [noteOperation, full, token]
      have noted : (manager.noteOperation nowMs).Sound nowMs := by
        constructor
        · exact sound.limits
        · rw [spent]
          linarith
        · rw [spent]
          have capped := sound.capped
          change _ ≤ manager.profile.effectiveCapacity
          linarith
        · exact (refill_sound sound).past
      have rest := ih noted rfl (by rw [spent]; linarith)
      rw [Function.iterate_succ_apply]
      refine ⟨rest.1, rest.2.1, ?_⟩
      rw [rest.2.2, spent]
      push_cast
      ring

/-- Notes inside the window are paid for by the allowance. -/
theorem notes_pay {manager : PassiveOrderManager} {nowMs : Int} (start finish : Int) (count : Nat)
    (sound : manager.Sound nowMs) (current : manager.opsBucketLastRefillAtMs = some nowMs)
    (enough : (count : ℚ) ≤ manager.opsBucketTokens) :
    let after := (·.noteOperation nowMs)^[count] manager
    after.Sound nowMs ∧
      (if start ≤ nowMs then count else 0 : Nat) + after.allowance start finish ≤
        manager.allowance start finish := by
  intro after
  rcases notes_spend count sound current enough with ⟨sameProfile, sameTime, spent⟩
  have counted : (0 : ℚ) ≤ count := Nat.cast_nonneg count
  have rate : after.ratePerMs = manager.ratePerMs := by
    rw [ratePerMs, ratePerMs, sameProfile]
  constructor
  · constructor
    · rw [sameProfile]
      exact sound.limits
    · rw [spent]
      linarith
    · rw [spent, sameProfile]
      linarith [sound.capped]
    · intro last refilled
      rw [sameTime] at refilled
      cases refilled
      exact le_refl nowMs
  · rw [allowance, allowance, sameTime, current, rate, sameProfile, spent]
    simp only [TokenBucket.allowance, Int.cast_lt]
    by_cases opened : start ≤ nowMs
    · rw [if_pos opened, if_neg (not_lt.mpr opened), if_neg (not_lt.mpr opened)]
      linarith
    · rw [if_neg opened, if_pos (not_le.mp opened), if_pos (not_le.mp opened), Nat.cast_zero,
        zero_add]

/-- A decision holds the tokens of its notes exactly when it does not overdraw. -/
theorem decide_reserves {manager : PassiveOrderManager} {nowMs : Int}
    (sound : manager.Sound nowMs) (input : PassiveOrderDecisionInput) :
    ((manager.decide input nowMs).2.kind.operations : ℚ) ≤
        (manager.decide input nowMs).1.opsBucketTokens ↔ ¬ manager.Overdraws input nowMs := by
  unfold decide Overdraws
  cases cooling : manager.isInCooldown nowMs with
  | true => simpa [PassiveOrderManagerDecisionType.operations] using sound.nonnegative
  | false =>
      simp only [Bool.false_eq_true, if_false, true_and]
      have reserves := decide_refilled_reserves
        ({ manager with cooldownUntilMs := none }.refillOpsBucket nowMs) input nowMs
      have refilledNonnegative :
          0 ≤ ({ manager with cooldownUntilMs := none }.refillOpsBucket nowMs).opsBucketTokens :=
        (refill_sound sound).nonnegative
      rw [max_eq_right refilledNonnegative] at reserves
      exact reserves

/-! ## A run -/

theorem noted_times {manager : PassiveOrderManager} {event : ManagerEvent} {time : Int}
    (noted : time ∈ manager.noted event) : time = event.nowMs := by
  cases event with
  | decide input nowMs => exact List.eq_of_mem_replicate noted
  | success nowMs => cases noted
  | failure nowMs => cases noted

theorem operation_times {manager : PassiveOrderManager} {events : List ManagerEvent} {time : Int}
    (noted : time ∈ manager.operations events) : time ∈ events.map ManagerEvent.nowMs := by
  induction events generalizing manager with
  | nil => cases noted
  | cons event rest ih =>
      rw [List.map_cons]
      rcases List.mem_append.mp noted with here | later
      · rw [noted_times here]
        exact List.mem_cons_self
      · exact List.mem_cons_of_mem _ (ih later)

/-- An event before the window closes: its notes in the window are paid for. -/
theorem step_pays {manager : PassiveOrderManager} {event : ManagerEvent} (start : Int)
    {finish : Int}
    (sound : manager.Sound event.nowMs) (unclosed : event.nowMs ≤ finish)
    (affordable : ∀ input nowMs, event = .decide input nowMs → ¬ manager.Overdraws input nowMs) :
    (manager.step event).Sound event.nowMs ∧
      ((manager.noted event).filter (fun time => start ≤ time ∧ time ≤ finish)).length +
        (manager.step event).allowance start finish ≤ manager.allowance start finish := by
  have refilled := refill_sound sound
  have lowered : (manager.refillOpsBucket event.nowMs).allowance start finish ≤
      manager.allowance start finish := refill_allowance_le sound unclosed
  cases event with
  | success nowMs =>
      refine ⟨⟨refilled.limits, refilled.nonnegative, refilled.capped, refilled.past⟩, ?_⟩
      have same : (manager.step (.success nowMs)).allowance start finish =
          (manager.refillOpsBucket nowMs).allowance start finish := rfl
      simpa [noted, same, ManagerEvent.nowMs] using lowered
  | failure nowMs =>
      refine ⟨⟨refilled.limits, refilled.nonnegative, refilled.capped, refilled.past⟩, ?_⟩
      have same : (manager.step (.failure nowMs)).allowance start finish =
          (manager.refillOpsBucket nowMs).allowance start finish := rfl
      simpa [noted, same, ManagerEvent.nowMs] using lowered
  | decide input nowMs =>
      have enough := (decide_reserves sound input).mpr (affordable input nowMs rfl)
      have within : ((manager.noted (.decide input nowMs)).filter
          (fun time => start ≤ time ∧ time ≤ finish)).length =
            if start ≤ nowMs then (manager.decide input nowMs).2.kind.operations else 0 := by
        have inTime : nowMs ≤ finish := unclosed
        by_cases opened : start ≤ nowMs <;> simp [noted, opened, inTime]
      rw [within, step]
      cases cooling : manager.isInCooldown nowMs with
      | true =>
          have idle : manager.decide input nowMs = (manager, _) := if_pos cooling
          rw [idle]
          simpa [PassiveOrderManagerDecisionType.operations] using sound
      | false =>
          have active : (manager.decide input nowMs).1 =
              { manager with cooldownUntilMs := none }.refillOpsBucket nowMs := by
            simp [decide, cooling]
          have ready : (manager.decide input nowMs).1.Sound nowMs := by
            rw [active]
            exact ⟨refilled.limits, refilled.nonnegative, refilled.capped, refilled.past⟩
          have current : (manager.decide input nowMs).1.opsBucketLastRefillAtMs = some nowMs := by
            rw [active]
            rfl
          have same : (manager.decide input nowMs).1.allowance start finish =
              (manager.refillOpsBucket nowMs).allowance start finish := by
            rw [active]
            rfl
          obtain ⟨soundAfter, pays⟩ := notes_pay start finish _ ready current enough
          refine ⟨soundAfter, ?_⟩
          exact pays.trans (same.le.trans lowered)

/-- In a run without an overdraft the notes of a window are paid for. -/
theorem run_pays (events : List ManagerEvent) {manager : PassiveOrderManager}
    {earliest start finish : Int} (sound : manager.Sound earliest)
    (after : ∀ time ∈ events.map ManagerEvent.nowMs, earliest ≤ time)
    (ordered : (events.map ManagerEvent.nowMs).Pairwise (· ≤ ·))
    (affordable : ∀ call ∈ manager.decisions events, ¬ call.1.Overdraws call.2.1 call.2.2) :
    ((manager.operationsWithin events start finish).length : ℚ) ≤
      manager.allowance start finish := by
  induction events generalizing manager earliest with
  | nil => simpa [operationsWithin, operations] using sound.allowance_nonneg
  | cons event rest ih =>
      rw [List.map_cons] at after ordered
      rcases List.pairwise_cons.mp ordered with ⟨first, orderedRest⟩
      have now : manager.Sound event.nowMs := sound.later (after _ List.mem_cons_self)
      by_cases unclosed : event.nowMs ≤ finish
      · have affordableHere : ∀ input nowMs, event = .decide input nowMs →
            ¬ manager.Overdraws input nowMs := by
          intro input nowMs same
          exact affordable (manager, input, nowMs) (by simp [decisions, same])
        have affordableRest : ∀ call ∈ (manager.step event).decisions rest,
            ¬ call.1.Overdraws call.2.1 call.2.2 := by
          intro call here
          exact affordable call (List.mem_append_right _ here)
        obtain ⟨soundNext, paid⟩ := step_pays start now unclosed affordableHere
        have later := ih soundNext first orderedRest affordableRest
        have split : (manager.operationsWithin (event :: rest) start finish).length =
            ((manager.noted event).filter (fun time => start ≤ time ∧ time ≤ finish)).length +
              ((manager.step event).operationsWithin rest start finish).length := by
          simp [operationsWithin, operations]
        rw [split]
        push_cast
        linarith
      · -- The window is over, and every later event is later still.
        have nothing : manager.operationsWithin (event :: rest) start finish = [] := by
          rw [operationsWithin, List.filter_eq_nil_iff]
          intro time noted inside
          have inTime : time ≤ finish := (of_decide_eq_true inside).2
          rcases List.mem_cons.mp (operation_times noted) with here | later
          · omega
          · have afterEvent := first time later
            omega
        rw [nothing]
        exact now.allowance_nonneg

/-- Without an overdraft, a run notes in a window at most one effective capacity
and the window's effective refill. -/
theorem operations_within_budget (profile : PassiveOrderManagerProfile)
    (events : List ManagerEvent) (start finish : Int) (limits : profile.Positive)
    (ordered : (events.map ManagerEvent.nowMs).Pairwise (· ≤ ·)) (window : start ≤ finish)
    (affordable : ∀ call ∈ (create profile).decisions events,
      ¬ call.1.Overdraws call.2.1 call.2.2) :
    (((create profile).operationsWithin events start finish).length : ℚ) ≤
      profile.effectiveCapacity +
        profile.effectiveRefillPerSec * (finish - start : Int) / 1000 := by
  cases events with
  | nil =>
      have sound := create_sound limits start
      exact (run_pays [] sound (by simp) ordered affordable).trans (sound.allowance_le window)
  | cons event rest =>
      have sound := create_sound limits event.nowMs
      have after : ∀ time ∈ (event :: rest).map ManagerEvent.nowMs, event.nowMs ≤ time := by
        intro time listed
        rcases List.mem_cons.mp listed with here | later
        · exact here.ge
        · exact (List.pairwise_cons.mp ordered).1 time later
      exact (run_pays _ sound after ordered affordable).trans (sound.allowance_le window)

/-- A target without a resting order. -/
def placeInput : PassiveOrderDecisionInput :=
  { tickSize := .finite 1, targetPrice := some (.finite 100) }

/-- An order that rests at the target since time zero. -/
def restingInput : PassiveOrderDecisionInput :=
  { placeInput with currentPrice := some (.finite 100), restingSinceMs := some 0 }

/-- A placement, and a replacement once the bucket holds two tokens. -/
theorem operations_within_budget_replaced :
    let profile : PassiveOrderManagerProfile := { opsBucketCapacity := 2, opsBucketRefillPerSec := 1 }
    let events := [ManagerEvent.decide placeInput 0, .success 0, .decide restingInput 3000]
    ((create profile).operationsWithin events 0 3000).length = 3 ∧
      (((create profile).operationsWithin events 0 3000).length : ℚ) ≤
        profile.effectiveCapacity + profile.effectiveRefillPerSec * (3000 - 0 : Int) / 1000 := by
  intro profile events
  have affordable : ∀ call ∈ (create profile).decisions events,
      ¬ call.1.Overdraws call.2.1 call.2.2 := by
    intro call here
    rcases List.mem_pair.mp here with here | here
    · subst here
      rintro ⟨-, -, -, -, resting, -⟩
      cases resting
    · subst here
      rintro ⟨-, ⟨-, short⟩, -⟩
      revert short
      decide +kernel
  refine ⟨by decide +kernel, ?_⟩
  exact operations_within_budget profile events 0 3000 ⟨by decide, by decide, by decide⟩ (by decide)
    (by decide) affordable

/-- Seven placements leave one of eight tokens, and the replacement of a timed
out order still notes two operations: nine in one millisecond. -/
theorem replacement_overdraws :
    let profile : PassiveOrderManagerProfile := {}
    let events := List.replicate 7 (ManagerEvent.decide placeInput 3000) ++
      [.decide restingInput 3000]
    profile.Positive ∧ (events.map ManagerEvent.nowMs).Pairwise (· ≤ ·) ∧
      profile.effectiveCapacity + profile.effectiveRefillPerSec * (3000 - 3000 : Int) / 1000 <
        ((create profile).operationsWithin events 3000 3000).length := by
  intro profile events
  exact ⟨⟨by decide, by decide, by decide⟩, by decide, by decide +kernel⟩

end PassiveOrderManager

end LightFee.Engine
