import LightFee.RateLimit.Admission

/-!
# Refused requests

A refused request refills some of its buckets and changes nothing else, so no later call can
tell whether it was made. Its retry hint ends the check that failed; a request that is repeated
when the hint says so fails one check at a time and never the same one twice, as long as the
clock does not run behind what the buckets have seen.
-/

namespace LightFee.RateLimit

/-! ## Calls after a refusal -/

/-- A call of the engine. -/
inductive EngineCall where
  | timed (event : EngineEvent)
  | consumeList (name : String) (others : List String) (nowMs : Int)
  | register (registration : Registration)

def EngineEvent.time : EngineEvent → Int
  | .consume _ _ nowMs => nowMs
  | .cooldown _ _ nowMs => nowMs
  | .backoff _ nowMs => nowMs

/-- A registration has no time. -/
def EngineCall.time? : EngineCall → Option Int
  | .timed event => some event.time
  | .consumeList _ _ nowMs => some nowMs
  | .register _ => none

/-- No call of the list is earlier. -/
def NotBefore (startMs : Int) (calls : List EngineCall) : Prop :=
  ∀ call ∈ calls, ∀ nowMs, call.time? = some nowMs → startMs ≤ nowMs

namespace RateLimitEngine

def call (engine : RateLimitEngine) : EngineCall → RateLimitEngine
  | .timed event => engine.step event
  | .consumeList name others nowMs => (engine.tryConsumeList name others nowMs).1
  | .register registration => engine.register registration

/-- The error of a request, and the delay that a backoff returns. -/
def outcome (engine : RateLimitEngine) : EngineCall → Option RateLimitError × Nat
  | .timed (.consume names weight nowMs) => ((engine.tryConsumeScopes names weight nowMs).2, 0)
  | .timed (.backoff names nowMs) => (none, (engine.applyBackoff names nowMs).2)
  | .consumeList name others nowMs => ((engine.tryConsumeList name others nowMs).2, 0)
  | _ => (none, 0)

/-- The outcomes of calls in their order. -/
def outcomes (engine : RateLimitEngine) : List EngineCall → List (Option RateLimitError × Nat)
  | [] => []
  | call :: rest => engine.outcome call :: (engine.call call).outcomes rest

/-- The refusals of a request that is repeated when the last hint says so; the first argument
bounds the calls. -/
def refusals (names : List String) (weight : ℚ) : Nat → RateLimitEngine → Int → Option Nat
  | 0, _, _ => none
  | calls + 1, engine, nowMs =>
    match engine.tryConsumeScopes names weight nowMs with
    | (_, none) => some 0
    | (next, some error) =>
      (refusals names weight calls next (nowMs + error.retryInMs)).map (· + 1)

end RateLimitEngine

/-! ## Refilling in steps -/

theorem refill_early {bucket : BucketState} {nowMs : Int} (early : nowMs ≤ bucket.lastRefillMs) :
    bucket.refill nowMs = bucket := by
  rw [BucketState.refill, if_pos (by omega)]

theorem refill_late {bucket : BucketState} {nowMs : Int} (late : bucket.lastRefillMs < nowMs) :
    bucket.refill nowMs = { bucket with
      tokens := min bucket.capacity
        (bucket.tokens + ((nowMs - bucket.lastRefillMs : Int) : ℚ) * bucket.refillPerMs)
      lastRefillMs := nowMs } := by
  have elapsed : max 0 (nowMs - bucket.lastRefillMs) = nowMs - bucket.lastRefillMs := by omega
  rw [BucketState.refill, elapsed, if_neg (by omega)]

/-- A cap that is applied on the way is applied at the end. -/
theorem min_capped {capacity amount gained : ℚ} (nonneg : 0 ≤ gained) :
    min capacity (min capacity amount + gained) = min capacity (amount + gained) := by
  rcases le_total capacity amount with full | room
  · rw [min_eq_left full, min_eq_left (by linarith), min_eq_left (by linarith)]
  · rw [min_eq_right room]

/-- A refill on the way changes nothing for a later one. -/
theorem refill_later {bucket : BucketState} (rate : 0 ≤ bucket.refillPerMs) {nowMs laterMs : Int}
    (ordered : nowMs ≤ laterMs) : (bucket.refill nowMs).refill laterMs = bucket.refill laterMs := by
  rcases le_or_gt nowMs bucket.lastRefillMs with early | late
  · rw [refill_early early]
  · rcases eq_or_lt_of_le ordered with rfl | later
    · exact refill_refill _ _
    · have gained : 0 ≤ ((laterMs - nowMs : Int) : ℚ) * bucket.refillPerMs :=
        mul_nonneg (by exact_mod_cast (by omega : 0 ≤ laterMs - nowMs)) rate
      have split : ((laterMs - bucket.lastRefillMs : Int) : ℚ) * bucket.refillPerMs =
          ((nowMs - bucket.lastRefillMs : Int) : ℚ) * bucket.refillPerMs +
            ((laterMs - nowMs : Int) : ℚ) * bucket.refillPerMs := by
        push_cast
        ring
      rw [refill_late late, refill_late (late.trans later), refill_late later, split,
        min_capped gained, add_assoc]

/-! ## What a refusal leaves -/

/-- Two states of a scope that no call can tell apart from a time on. -/
def ScopeState.SameFrom (startMs : Int) (left right : ScopeState) : Prop :=
  ∀ nowMs, startMs ≤ nowMs →
    RateLimitEngine.refillState nowMs left = RateLimitEngine.refillState nowMs right

/-- A scope's refill and last request are not after the time. -/
def ScopeState.SeenBy (nowMs : Int) (state : ScopeState) : Prop :=
  (∀ bucket, state.bucket = some bucket → bucket.lastRefillMs ≤ nowMs) ∧
    ∀ last, state.lastRequestAtMs = some last → last ≤ nowMs

namespace RateLimitEngine

/-- Two engines that no call can tell apart from a time on. -/
structure SameFrom (startMs : Int) (left right : RateLimitEngine) : Prop where
  windowMs : left.windowMs = right.windowMs
  margin : left.margin = right.margin
  backoffInitialMs : left.backoffInitialMs = right.backoffInitialMs
  backoffMaxMs : left.backoffMaxMs = right.backoffMaxMs
  scopes : ∀ name, (left.scope name).SameFrom startMs (right.scope name)

end RateLimitEngine

namespace ScopeState.SameFrom

variable {startMs : Int} {left right : ScopeState}

theorem refl (startMs : Int) (state : ScopeState) : state.SameFrom startMs state :=
  fun _ _ => rfl

/-- A refill leaves its scope the same from its time on. -/
theorem refill {state : ScopeState}
    (rate : ∀ bucket, state.bucket = some bucket → 0 ≤ bucket.refillPerMs) (nowMs : Int) :
    (RateLimitEngine.refillState nowMs state).SameFrom nowMs state := by
  intro laterMs ordered
  rw [RateLimitEngine.refillState, RateLimitEngine.refillState]
  cases held : state.bucket with
  | none => simp only [RateLimitEngine.refillState, held, Option.map_none]
  | some bucket =>
    simp only [RateLimitEngine.refillState, held, Option.map_some,
      refill_later (rate bucket held) ordered]

/-- What a refill does not touch is the same. -/
theorem parts (same : left.SameFrom startMs right) :
    left.bucket.map BucketState.cooldownUntilMs = right.bucket.map BucketState.cooldownUntilMs ∧
      left.weight = right.weight ∧ left.minIntervalMs = right.minIntervalMs ∧
      left.lastRequestAtMs = right.lastRequestAtMs ∧
      left.backoffFailures = right.backoffFailures := by
  have refilled := same startMs (le_refl _)
  have cooldowns (state : ScopeState) :
      (RateLimitEngine.refillState startMs state).bucket.map BucketState.cooldownUntilMs =
        state.bucket.map BucketState.cooldownUntilMs := by
    rw [RateLimitEngine.refillState, Option.map_map]
    congr 1
    funext bucket
    simp only [Function.comp_apply, BucketState.refill]
    split_ifs <;> rfl
  have weights := congrArg ScopeState.weight refilled
  have intervals := congrArg ScopeState.minIntervalMs refilled
  have requests := congrArg ScopeState.lastRequestAtMs refilled
  have failures := congrArg ScopeState.backoffFailures refilled
  refine ⟨?_, weights, intervals, requests, failures⟩
  rw [← cooldowns left, refilled, cooldowns right]

/-- A change that a refill does not see keeps scopes the same. -/
theorem through (same : left.SameFrom startMs right) (change : ScopeState → ScopeState)
    (commutes : ∀ nowMs state, RateLimitEngine.refillState nowMs (change state) =
      change (RateLimitEngine.refillState nowMs state)) :
    (change left).SameFrom startMs (change right) := by
  intro nowMs ordered
  rw [commutes, commutes, same nowMs ordered]

end ScopeState.SameFrom

namespace RateLimitEngine

variable {startMs : Int} {left right : RateLimitEngine}

theorem SameFrom.refl (startMs : Int) (engine : RateLimitEngine) : engine.SameFrom startMs engine :=
  ⟨rfl, rfl, rfl, rfl, fun _ => .refl _ _⟩

theorem SameFrom.trans {middle : RateLimitEngine} (first : left.SameFrom startMs middle)
    (second : middle.SameFrom startMs right) : left.SameFrom startMs right where
  windowMs := first.windowMs.trans second.windowMs
  margin := first.margin.trans second.margin
  backoffInitialMs := first.backoffInitialMs.trans second.backoffInitialMs
  backoffMaxMs := first.backoffMaxMs.trans second.backoffMaxMs
  scopes name nowMs ordered :=
    (first.scopes name nowMs ordered).trans (second.scopes name nowMs ordered)

theorem SameFrom.later (same : left.SameFrom startMs right) {laterMs : Int}
    (ordered : startMs ≤ laterMs) : left.SameFrom laterMs right :=
  { same with scopes := fun name nowMs later => same.scopes name nowMs (ordered.trans later) }

/-- The same change of one scope. -/
theorem SameFrom.scopeMut (same : left.SameFrom startMs right) (name : String)
    {leftChange rightChange : ScopeState → ScopeState}
    (changed : (leftChange (left.scope name)).SameFrom startMs (rightChange (right.scope name))) :
    (left.scopeMut name leftChange).SameFrom startMs (right.scopeMut name rightChange) where
  windowMs := same.windowMs
  margin := same.margin
  backoffInitialMs := same.backoffInitialMs
  backoffMaxMs := same.backoffMaxMs
  scopes other := by
    rw [scope_mut, scope_mut]
    split_ifs
    · exact changed
    · exact same.scopes other

theorem SameFrom.foldScopes (same : left.SameFrom startMs right) (names : List String)
    {change : ScopeState → ScopeState}
    (commutes : ∀ nowMs state, refillState nowMs (change state) = change (refillState nowMs state)) :
    (names.foldl (fun current name => current.scopeMut name change) left).SameFrom startMs
      (names.foldl (fun current name => current.scopeMut name change) right) := by
  induction names generalizing left right with
  | nil => exact same
  | cons name rest ih =>
    exact ih (same.scopeMut name ((same.scopes name).through _ commutes))

/-- A cooldown is not seen by a refill. -/
theorem refill_cool (untilMs nowMs : Int) (state : ScopeState) :
    refillState nowMs (coolScope untilMs state) = coolScope untilMs (refillState nowMs state) := by
  rw [refillState, coolScope, coolScope, refillState]
  congr 1
  rw [Option.map_map, Option.map_map]
  congr 1
  funext bucket
  simp only [Function.comp_apply, BucketState.refill]
  split_ifs <;> rfl

theorem SameFrom.cooldownRetryMs (same : left.SameFrom startMs right) (names : List String)
    (nowMs : Int) : left.cooldownRetryMs names nowMs = right.cooldownRetryMs names nowMs := by
  rw [RateLimitEngine.cooldownRetryMs, RateLimitEngine.cooldownRetryMs]
  refine congrArg (fun longest : Int => if 0 < longest then some longest else none) ?_
  refine List.foldl_ext _ _ _ fun longest name _ => ?_
  have cooldowns := (same.scopes name).parts.1
  simp only [bucket]
  cases onLeft : (left.scope name).bucket with
  | none =>
    cases onRight : (right.scope name).bucket with
    | none => rfl
    | some bucket =>
      rw [onLeft, onRight] at cooldowns
      cases cooldowns
  | some leftBucket =>
    cases onRight : (right.scope name).bucket with
    | none =>
      rw [onLeft, onRight] at cooldowns
      cases cooldowns
    | some rightBucket =>
      rw [onLeft, onRight] at cooldowns
      have untils : leftBucket.cooldownUntilMs = rightBucket.cooldownUntilMs :=
        Option.some.inj cooldowns
      simp only [untils]

theorem SameFrom.minIntervalRetryMs (same : left.SameFrom startMs right) (names : List String)
    (nowMs : Int) : left.minIntervalRetryMs names nowMs = right.minIntervalRetryMs names nowMs := by
  have intervals (name : String) := (same.scopes name).parts.2.2.1
  have requests (name : String) := (same.scopes name).parts.2.2.2.1
  simp only [RateLimitEngine.minIntervalRetryMs, intervals, requests]

theorem SameFrom.resolveWeightFromScopes (same : left.SameFrom startMs right)
    (names : List String) :
    left.resolveWeightFromScopes names = right.resolveWeightFromScopes names := by
  have weights (name : String) := (same.scopes name).parts.2.1
  simp only [RateLimitEngine.resolveWeightFromScopes, resolveWeight, weights]

/-- One scope is refilled and checked alike. -/
theorem SameFrom.refillScope (same : left.SameFrom startMs right) (name : String) (weight : ℚ)
    {nowMs : Int} (later : startMs ≤ nowMs) :
    (left.refillScope name weight nowMs).1.SameFrom startMs
        (right.refillScope name weight nowMs).1 ∧
      (left.refillScope name weight nowMs).2 = (right.refillScope name weight nowMs).2 := by
  have refilled := same.scopes name nowMs later
  have buckets := congrArg ScopeState.bucket refilled
  simp only [refillState] at buckets
  unfold RateLimitEngine.refillScope
  simp only [bucket]
  cases onLeft : (left.scope name).bucket with
  | none =>
    cases onRight : (right.scope name).bucket with
    | none => exact ⟨same, rfl⟩
    | some bucket =>
      rw [onLeft, onRight] at buckets
      cases buckets
  | some leftBucket =>
    cases onRight : (right.scope name).bucket with
    | none =>
      rw [onLeft, onRight] at buckets
      cases buckets
    | some rightBucket =>
      rw [onLeft, onRight] at buckets
      have equal : leftBucket.refill nowMs = rightBucket.refill nowMs := Option.some.inj buckets
      have states : { left.scope name with bucket := some (leftBucket.refill nowMs) } =
          { right.scope name with bucket := some (rightBucket.refill nowMs) } := by
        rw [refillState, refillState, onLeft, onRight] at refilled
        exact refilled
      dsimp only
      rw [equal] at states ⊢
      refine ⟨same.scopeMut name ?_, rfl⟩
      rw [states]
      exact .refl _ _

theorem SameFrom.refillScopes (same : left.SameFrom startMs right) (names : List String)
    (weight : ℚ) {nowMs : Int} (later : startMs ≤ nowMs) :
    (left.refillScopes weight nowMs names).1.SameFrom startMs
        (right.refillScopes weight nowMs names).1 ∧
      (left.refillScopes weight nowMs names).2 = (right.refillScopes weight nowMs names).2 := by
  induction names generalizing left right with
  | nil => exact ⟨same, rfl⟩
  | cons name rest ih =>
    have first := same.refillScope name weight later
    unfold RateLimitEngine.refillScopes
    rcases onLeft : left.refillScope name weight nowMs with ⟨leftNext, leftError⟩
    rcases onRight : right.refillScope name weight nowMs with ⟨rightNext, rightError⟩
    rw [onLeft, onRight] at first
    obtain ⟨next, errors⟩ := first
    dsimp only at next errors ⊢
    subst errors
    cases leftError with
    | some error => exact ⟨next, rfl⟩
    | none => exact ih next

/-- Equal scopes pay alike. -/
theorem SameFrom.deductScopes (same : left.SameFrom startMs right) {names : List String}
    (equal : ∀ name ∈ names, left.scope name = right.scope name) (weight : ℚ) (nowMs : Int) :
    (left.deductScopes names weight nowMs).SameFrom startMs
      (right.deductScopes names weight nowMs) := by
  induction names generalizing left right with
  | nil => exact same
  | cons name rest ih =>
    have here := equal name List.mem_cons_self
    refine ih (same.scopeMut name ?_) ?_
    · rw [here]
      exact .refl _ _
    · intro other member
      rw [scope_mut, scope_mut, here, equal other (List.mem_cons_of_mem _ member)]

/-- A request is answered alike. -/
theorem SameFrom.tryConsumeScopes (same : left.SameFrom startMs right) (names : List String)
    (weight : ℚ) {nowMs : Int} (later : startMs ≤ nowMs) :
    (left.tryConsumeScopes names weight nowMs).1.SameFrom startMs
        (right.tryConsumeScopes names weight nowMs).1 ∧
      (left.tryConsumeScopes names weight nowMs).2 =
        (right.tryConsumeScopes names weight nowMs).2 := by
  unfold RateLimitEngine.tryConsumeScopes
  rw [same.cooldownRetryMs names nowMs, same.minIntervalRetryMs names nowMs]
  cases right.cooldownRetryMs names nowMs with
  | some retry => exact ⟨same, rfl⟩
  | none =>
    cases right.minIntervalRetryMs names nowMs with
    | some retry => exact ⟨same, rfl⟩
    | none =>
      obtain ⟨next, errors⟩ := same.refillScopes names weight later
      -- Named scopes that passed are refilled up to now, so they are equal.
      have equal (passed : (left.refillScopes weight nowMs names).2 = none) (name : String)
          (named : name ∈ names) : (left.refillScopes weight nowMs names).1.scope name =
            (right.refillScopes weight nowMs names).1.scope name := by
        rw [(refill_scopes_passes passed named).1,
          (refill_scopes_passes (errors.symm.trans passed) named).1]
        exact same.scopes name nowMs later
      rcases onLeft : left.refillScopes weight nowMs names with ⟨leftNext, leftError⟩
      rcases onRight : right.refillScopes weight nowMs names with ⟨rightNext, rightError⟩
      rw [onLeft, onRight] at next errors equal
      dsimp only at next errors equal ⊢
      subst errors
      cases leftError with
      | some error => exact ⟨next, rfl⟩
      | none => exact ⟨next.deductScopes (equal rfl) weight nowMs, rfl⟩

theorem SameFrom.applyBackoff (same : left.SameFrom startMs right) (names : List String)
    (nowMs : Int) :
    (left.applyBackoff names nowMs).1.SameFrom startMs (right.applyBackoff names nowMs).1 ∧
      (left.applyBackoff names nowMs).2 = (right.applyBackoff names nowMs).2 := by
  rw [RateLimitEngine.applyBackoff, RateLimitEngine.applyBackoff]
  generalize (0 : Nat) = longest
  induction names generalizing left right longest with
  | nil => exact ⟨same, rfl⟩
  | cons name rest ih =>
    have scope := same.scopes name
    have one : (left.backoffScope name nowMs).1.SameFrom startMs
        (right.backoffScope name nowMs).1 ∧
        (left.backoffScope name nowMs).2 = (right.backoffScope name nowMs).2 := by
      obtain ⟨cooldowns, -, -, -, failures⟩ := scope.parts
      unfold backoffScope
      dsimp only
      cases onLeft : (left.scope name).bucket with
      | none =>
        cases onRight : (right.scope name).bucket with
        | none => exact ⟨same.scopeMut name scope, rfl⟩
        | some bucket =>
          rw [onLeft, onRight] at cooldowns
          cases cooldowns
      | some leftBucket =>
        cases onRight : (right.scope name).bucket with
        | none =>
          rw [onLeft, onRight] at cooldowns
          cases cooldowns
        | some rightBucket =>
          have delays : left.failureBackoffMs (left.scope name).backoffFailures =
              right.failureBackoffMs (right.scope name).backoffFailures := by
            rw [failureBackoffMs, failureBackoffMs, same.backoffInitialMs, same.backoffMaxMs,
              failures]
          dsimp only
          rw [delays]
          refine ⟨same.scopeMut name (scope.through (fun state =>
            { coolScope (nowMs + right.failureBackoffMs (right.scope name).backoffFailures) state with
              backoffFailures := state.backoffFailures + 1 }) fun laterMs state => ?_), rfl⟩
          exact congrArg (fun cooled : ScopeState =>
            { cooled with backoffFailures := state.backoffFailures + 1 })
            (refill_cool _ laterMs state)
    rw [List.foldl_cons, List.foldl_cons]
    dsimp only
    rw [one.2]
    exact ih one.1 _

theorem SameFrom.register (same : left.SameFrom startMs right) (registration : Registration) :
    (left.register registration).SameFrom startMs (right.register registration) := by
  cases registration with
  | bucket name budgetPerMinute capacity refillPerSec =>
    simp only [RateLimitEngine.register, registerBucket, same.margin, same.windowMs]
    refine same.scopeMut name fun nowMs later => ?_
    obtain ⟨-, weights, intervals, requests, failures⟩ := (same.scopes name).parts
    simp only [refillState, weights, intervals, requests, failures]
  | weight name weight =>
    simp only [RateLimitEngine.register, registerWeight]
    refine same.scopeMut name ?_
    exact (same.scopes name).through
      (fun state => { state with weight := some weight }) fun _ _ => rfl
  | minInterval name intervalMs =>
    simp only [RateLimitEngine.register, registerMinInterval]
    refine same.scopeMut name ?_
    exact (same.scopes name).through
      (fun state => { state with minIntervalMs := some intervalMs }) fun _ _ => rfl

/-- Engines that are the same answer every later call alike. -/
theorem SameFrom.outcomes (same : left.SameFrom startMs right) {calls : List EngineCall}
    (later : NotBefore startMs calls) : left.outcomes calls = right.outcomes calls := by
  induction calls generalizing left right with
  | nil => rfl
  | cons call rest ih =>
    have restLater : NotBefore startMs rest :=
      fun call member => later call (List.mem_cons_of_mem _ member)
    have step : (left.call call).SameFrom startMs (right.call call) ∧
        left.outcome call = right.outcome call := by
      cases call with
      | register registration => exact ⟨same.register registration, rfl⟩
      | consumeList name others nowMs =>
        have answered := same.tryConsumeScopes (name :: others.filter (fun other => other ≠ name))
          (right.resolveWeightFromScopes (name :: others.filter (fun other => other ≠ name)))
          (later _ List.mem_cons_self nowMs rfl)
        simp only [RateLimitEngine.call, RateLimitEngine.outcome, tryConsumeList,
          same.resolveWeightFromScopes]
        exact ⟨answered.1, congrArg (·, 0) answered.2⟩
      | timed event =>
        have now := later _ List.mem_cons_self event.time rfl
        cases event with
        | consume names weight nowMs =>
          have answered := same.tryConsumeScopes names weight now
          exact ⟨answered.1, congrArg (·, 0) answered.2⟩
        | cooldown names retryAfterMs nowMs =>
          exact ⟨same.foldScopes names (fun laterMs => refill_cool _ laterMs), rfl⟩
        | backoff names nowMs =>
          have delayed := same.applyBackoff names nowMs
          exact ⟨delayed.1, congrArg (none, ·) delayed.2⟩
    rw [RateLimitEngine.outcomes, RateLimitEngine.outcomes, step.2,
      ih step.1 restLater]

/-- A refusal leaves the engine the same from its time on. -/
theorem refused_same {engine : RateLimitEngine} {names : List String} {weight : ℚ} {nowMs : Int}
    (rates : ∀ name bucket, engine.bucket name = some bucket → 0 < bucket.refillPerMs)
    (refused : (engine.tryConsumeScopes names weight nowMs).2 ≠ none) :
    (engine.tryConsumeScopes names weight nowMs).1.SameFrom nowMs engine := by
  have parameters (names : List String) (engine : RateLimitEngine) :
      (engine.refillScopes weight nowMs names).1.windowMs = engine.windowMs ∧
        (engine.refillScopes weight nowMs names).1.margin = engine.margin ∧
        (engine.refillScopes weight nowMs names).1.backoffInitialMs = engine.backoffInitialMs ∧
        (engine.refillScopes weight nowMs names).1.backoffMaxMs = engine.backoffMaxMs := by
    induction names generalizing engine with
    | nil => exact ⟨rfl, rfl, rfl, rfl⟩
    | cons name rest ih =>
      have first : (engine.refillScope name weight nowMs).1.windowMs = engine.windowMs ∧
          (engine.refillScope name weight nowMs).1.margin = engine.margin ∧
          (engine.refillScope name weight nowMs).1.backoffInitialMs = engine.backoffInitialMs ∧
          (engine.refillScope name weight nowMs).1.backoffMaxMs = engine.backoffMaxMs := by
        unfold RateLimitEngine.refillScope
        split <;> exact ⟨rfl, rfl, rfl, rfl⟩
      unfold RateLimitEngine.refillScopes
      rcases tried : engine.refillScope name weight nowMs with ⟨next, error⟩
      rw [tried] at first
      cases error with
      | some error => exact first
      | none =>
        have later := ih next
        exact ⟨later.1.trans first.1, later.2.1.trans first.2.1, later.2.2.1.trans first.2.2.1,
          later.2.2.2.trans first.2.2.2⟩
  rcases consume_refused refused with same | refilled
  · rw [same]
    exact .refl _ _
  · rw [refilled]
    obtain ⟨window, margin, initial, longest⟩ := parameters names engine
    refine ⟨window, margin, initial, longest, fun name => ?_⟩
    rcases refill_scopes_scope weight nowMs names engine name with same | once
    · rw [same]
      exact .refl _ _
    · rw [once]
      exact .refill (fun bucket held => (rates name bucket held).le) nowMs

/-! ## What a hint promises -/

/-- What the listed scopes have seen is not after the time. -/
def Settled (engine : RateLimitEngine) (names : List String) (nowMs : Int) : Prop :=
  ∀ name ∈ names, (engine.scope name).SeenBy nowMs

/-- A listed bucket cannot pay. -/
def isShort (engine : RateLimitEngine) (weight : ℚ) (nowMs : Int) (name : String) : Bool :=
  match engine.bucket name with
  | none => false
  | some bucket => decide ((bucket.refill nowMs).tokens + admissionSlack < weight)

/-- The checks that a request would fail, each bucket by itself. -/
def failing (engine : RateLimitEngine) (names : List String) (weight : ℚ) (nowMs : Int) : Nat :=
  (engine.cooldownRetryMs names nowMs).toList.length +
    (engine.minIntervalRetryMs names nowMs).toList.length +
    (names.filter (engine.isShort weight nowMs)).length

theorem failing_le (engine : RateLimitEngine) (names : List String) (weight : ℚ) (nowMs : Int) :
    engine.failing names weight nowMs ≤ names.length + 2 := by
  have cooldowns : (engine.cooldownRetryMs names nowMs).toList.length ≤ 1 :=
    Option.length_toList_le
  have intervals : (engine.minIntervalRetryMs names nowMs).toList.length ≤ 1 :=
    Option.length_toList_le
  have shorts := List.length_filter_le (engine.isShort weight nowMs) names
  rw [failing]
  omega

/-- A fold whose steps stay below a bound stays below it. -/
theorem foldl_le {step : Int → String → Int} {bound : Int} {names : List String}
    (stays : ∀ name ∈ names, ∀ longest ≤ bound, step longest name ≤ bound) {longest : Int}
    (start : longest ≤ bound) : names.foldl step longest ≤ bound := by
  induction names generalizing longest with
  | nil => exact start
  | cons head rest ih =>
    refine ih (fun name named => stays name (List.mem_cons_of_mem _ named)) ?_
    exact stays head List.mem_cons_self longest start

theorem cooldown_none {engine : RateLimitEngine} {names : List String} {nowMs : Int}
    (passed : ∀ name ∈ names, ∀ bucket, engine.bucket name = some bucket →
      bucket.cooldownUntilMs ≤ nowMs) : engine.cooldownRetryMs names nowMs = none := by
  rw [cooldownRetryMs]
  refine if_neg (not_lt.mpr (foldl_le (fun name named longest short => ?_) (le_refl _)))
  cases found : engine.bucket name with
  | none => exact short
  | some bucket =>
    have ended := passed name named bucket found
    exact max_le short (by omega)

/-- A cooldown hint outlasts every listed cooldown. -/
theorem cooldown_hint {engine : RateLimitEngine} {names : List String} {nowMs retry : Int}
    (hinted : engine.cooldownRetryMs names nowMs = some retry) :
    0 < retry ∧ ∀ name ∈ names, ∀ bucket, engine.bucket name = some bucket →
      bucket.cooldownUntilMs ≤ nowMs + retry := by
  constructor
  · unfold cooldownRetryMs at hinted
    dsimp only at hinted
    split_ifs at hinted with positive
    exact Option.some.inj hinted ▸ positive
  · intro name named bucket found
    have waited := cooldown_waited nowMs named found
    rwa [hinted, Option.getD_some] at waited

theorem interval_none {engine : RateLimitEngine} {names : List String} {nowMs : Int}
    (passed : ∀ name ∈ names, ∀ interval last, (engine.scope name).minIntervalMs = some interval →
      (engine.scope name).lastRequestAtMs = some last → interval ≤ max 0 (nowMs - last)) :
    engine.minIntervalRetryMs names nowMs = none := by
  rw [minIntervalRetryMs]
  refine if_neg (not_lt.mpr (foldl_le (fun name named longest short => ?_) (le_refl _)))
  split
  next interval last limited noted =>
    rw [if_neg (not_lt.mpr (passed name named interval last limited noted))]
    exact short
  · exact short

/-- An interval hint outlasts every listed interval. -/
theorem interval_hint {engine : RateLimitEngine} {names : List String} {nowMs : Int} {retry : Int}
    (hinted : engine.minIntervalRetryMs names nowMs = some retry) :
    0 < retry ∧ ∀ name ∈ names, ∀ interval last,
      (engine.scope name).minIntervalMs = some interval →
      (engine.scope name).lastRequestAtMs = some last →
        interval ≤ max 0 (nowMs - last) + retry := by
  constructor
  · unfold minIntervalRetryMs at hinted
    dsimp only at hinted
    split_ifs at hinted with positive
    exact Option.some.inj hinted ▸ positive
  · intro name named interval last limited noted
    have waited := interval_waited nowMs named limited noted
    rwa [hinted, Option.getD_some] at waited

/-- A bucket is worth waiting for. -/
structure Refills (weight : ℚ) (bucket : BucketState) : Prop where
  rate : 0 < bucket.refillPerMs
  capacity : weight ≤ bucket.capacity

/-- A later refill holds no less, up to the weight. -/
theorem refill_pays {bucket : BucketState} {weight : ℚ} (refills : Refills weight bucket)
    {nowMs laterMs : Int} (ordered : nowMs ≤ laterMs) :
    (bucket.refill laterMs).tokens + admissionSlack < weight →
      (bucket.refill nowMs).tokens + admissionSlack < weight := by
  intro short
  rw [← refill_later refills.rate.le ordered] at short
  rcases le_or_gt laterMs (bucket.refill nowMs).lastRefillMs with early | late
  · rwa [refill_early early] at short
  · rw [refill_late late] at short
    have gained : 0 ≤ ((laterMs - (bucket.refill nowMs).lastRefillMs : Int) : ℚ) *
        (bucket.refill nowMs).refillPerMs := by
      rw [refill_rate]
      exact mul_nonneg (by exact_mod_cast (by omega :
        0 ≤ laterMs - (bucket.refill nowMs).lastRefillMs)) refills.rate.le
    have slack : (0 : ℚ) < admissionSlack := by
      norm_num [admissionSlack]
    dsimp only at short
    rcases min_lt_iff.mp (lt_sub_iff_add_lt.mpr short) with full | part
    · rw [refill_capacity] at full
      linarith [refills.capacity]
    · linarith

/-- The hint of a short bucket is long enough: its whole milliseconds refill what is missing. -/
theorem budget_hint {bucket : BucketState} {weight : ℚ} (rate : 0 < bucket.refillPerMs)
    (short : bucket.tokens + admissionSlack < weight) :
    0 < budgetRetryMs bucket weight ∧ weight ≤
      bucket.tokens + (budgetRetryMs bucket weight : ℚ) * bucket.refillPerMs + admissionSlack := by
  have slack : (0 : ℚ) < admissionSlack := by
    norm_num [admissionSlack]
  have missing : max (weight - bucket.tokens) 0 = weight - bucket.tokens :=
    max_eq_left (by linarith)
  have shown : budgetRetryMs bucket weight =
      max (if admissionSlack < weight - bucket.tokens -
          (⌊(weight - bucket.tokens) / bucket.refillPerMs⌋ : Int) * bucket.refillPerMs then
        ⌊(weight - bucket.tokens) / bucket.refillPerMs⌋ + 1
      else ⌊(weight - bucket.tokens) / bucket.refillPerMs⌋) 1 := by
    rw [budgetRetryMs, if_neg (not_le.mpr rate), missing]
    exact if_neg (not_lt.mpr (by linarith))
  have above : (weight - bucket.tokens) / bucket.refillPerMs <
      (⌊(weight - bucket.tokens) / bucket.refillPerMs⌋ : Int) + 1 := Int.lt_floor_add_one _
  have refilled : weight - bucket.tokens <
      ((⌊(weight - bucket.tokens) / bucket.refillPerMs⌋ : Int) + 1) * bucket.refillPerMs :=
    (div_lt_iff₀ rate).mp above
  rw [shown]
  refine ⟨lt_max_of_lt_right one_pos, ?_⟩
  generalize ⌊(weight - bucket.tokens) / bucket.refillPerMs⌋ = whole at refilled
  split_ifs with rest
  · have reached : ((whole + 1 : Int) : ℚ) ≤ ((max (whole + 1) 1 : Int) : ℚ) :=
      Int.cast_le.mpr (le_max_left _ _)
    have paid := mul_le_mul_of_nonneg_right reached rate.le
    push_cast at paid ⊢
    linarith
  · have reached : ((whole : Int) : ℚ) ≤ ((max whole 1 : Int) : ℚ) :=
      Int.cast_le.mpr (le_max_left _ _)
    have paid := mul_le_mul_of_nonneg_right reached rate.le
    linarith [not_lt.mp rest]

/-- After its hint a short bucket can pay. -/
theorem budget_waited {bucket : BucketState} {weight : ℚ} (refills : Refills weight bucket)
    {nowMs : Int} (settled : bucket.lastRefillMs ≤ nowMs)
    (short : (bucket.refill nowMs).tokens + admissionSlack < weight) :
    weight ≤ (bucket.refill (nowMs + budgetRetryMs (bucket.refill nowMs) weight)).tokens +
      admissionSlack := by
  have rate : 0 < (bucket.refill nowMs).refillPerMs := by
    rw [refill_rate]
    exact refills.rate
  obtain ⟨positive, paid⟩ := budget_hint rate short
  have last : (bucket.refill nowMs).lastRefillMs = nowMs := by
    rcases eq_or_lt_of_le settled with same | late
    · rw [refill_early same.ge, same]
    · rw [refill_late late]
  generalize budgetRetryMs (bucket.refill nowMs) weight = retry at positive paid
  have late : (bucket.refill nowMs).lastRefillMs < nowMs + retry := by omega
  have slack : (0 : ℚ) < admissionSlack := by
    norm_num [admissionSlack]
  have elapsed : nowMs + retry - (bucket.refill nowMs).lastRefillMs = retry := by omega
  rw [← refill_later refills.rate.le (by omega : nowMs ≤ nowMs + retry), refill_late late]
  dsimp only
  rw [elapsed, ← sub_le_iff_le_add, refill_capacity]
  exact le_min (by linarith [refills.capacity]) (by linarith)

/-- Phase three fails at a listed bucket, with that bucket's hint. -/
theorem refill_scopes_fails {weight : ℚ} {nowMs : Int} {names : List String}
    {engine : RateLimitEngine} {error : RateLimitError}
    (failed : (engine.refillScopes weight nowMs names).2 = some error) :
    ∃ name ∈ names, ∃ bucket, engine.bucket name = some bucket ∧
      (bucket.refill nowMs).tokens + admissionSlack < weight ∧
      error.retryInMs = budgetRetryMs (bucket.refill nowMs) weight := by
  induction names generalizing engine with
  | nil => cases failed
  | cons head rest ih =>
    have scopes := engine.refill_scope_scope head weight nowMs
    unfold refillScopes at failed
    rcases tried : engine.refillScope head weight nowMs with ⟨refilled, headError⟩
    rw [tried] at scopes failed
    dsimp only at scopes
    cases headError with
    | some headError =>
      obtain rfl : headError = error := Option.some.inj failed
      refine ⟨head, List.mem_cons_self, ?_⟩
      unfold refillScope at tried
      cases found : engine.bucket head with
      | none =>
        rw [found] at tried
        cases (Prod.mk.inj tried).2
      | some bucket =>
        rw [found] at tried
        have errors := (Prod.mk.inj tried).2
        split_ifs at errors with short
        exact ⟨bucket, rfl, short, (congrArg RateLimitError.retryInMs (Option.some.inj errors)).symm⟩
    | none =>
      obtain ⟨name, member, bucket, found, short, hinted⟩ := ih failed
      have held : refilled.scope name = engine.scope name ∨
          refilled.scope name = refillState nowMs (engine.scope name) := by
        rw [scopes]
        split_ifs
        · exact Or.inr rfl
        · exact Or.inl rfl
      refine ⟨name, List.mem_cons_of_mem _ member, ?_⟩
      rcases held with same | once
      · refine ⟨bucket, ?_, short, hinted⟩
        rw [RateLimitEngine.bucket, ← same]
        exact found
      · rw [RateLimitEngine.bucket, once, refillState] at found
        obtain ⟨before, foundBefore, rfl⟩ := Option.map_eq_some_iff.mp found
        rw [refill_refill] at short hinted
        exact ⟨before, foundBefore, short, hinted⟩

/-- Passed cooldowns and intervals stay passed. -/
theorem checks_stay {engine : RateLimitEngine} {names : List String} {nowMs laterMs : Int}
    (ordered : nowMs ≤ laterMs) :
    (engine.cooldownRetryMs names nowMs = none → engine.cooldownRetryMs names laterMs = none) ∧
      (engine.minIntervalRetryMs names nowMs = none →
        engine.minIntervalRetryMs names laterMs = none) := by
  constructor
  · intro passed
    refine cooldown_none fun name named bucket found => ?_
    exact (cooldown_over passed named found).trans ordered
  · intro passed
    refine interval_none fun name named interval last limited noted => ?_
    have waited := interval_passed passed named limited noted
    omega

/-- Buckets that can pay stay able to. -/
theorem shorts_fall {engine : RateLimitEngine} {names : List String} {weight : ℚ}
    (refills : ∀ name ∈ names, ∀ bucket, engine.bucket name = some bucket →
      Refills weight bucket) {nowMs laterMs : Int} (ordered : nowMs ≤ laterMs) :
    (names.filter (engine.isShort weight nowMs)).filter (engine.isShort weight laterMs) =
      names.filter (engine.isShort weight laterMs) := by
  rw [List.filter_filter]
  refine List.filter_congr fun name named => ?_
  unfold isShort
  cases found : engine.bucket name with
  | none => rfl
  | some bucket =>
    have falls := refill_pays (refills name named bucket found) ordered
    by_cases short : (bucket.refill laterMs).tokens + admissionSlack < weight
    · simp only [short, falls short, decide_true, Bool.and_true]
    · simp only [short, decide_false, Bool.false_and]

/-- A refusal's hint is positive, and the request fails fewer checks when it is over. -/
theorem refused_progress {engine : RateLimitEngine} {names : List String} {weight : ℚ}
    {nowMs : Int} (settled : engine.Settled names nowMs)
    (refills : ∀ name ∈ names, ∀ bucket, engine.bucket name = some bucket →
      Refills weight bucket) {error : RateLimitError}
    (refused : (engine.tryConsumeScopes names weight nowMs).2 = some error) :
    0 < error.retryInMs ∧ engine.failing names weight (nowMs + error.retryInMs) <
      engine.failing names weight nowMs := by
  have shorts {laterMs : Int} (ordered : nowMs ≤ laterMs) :
      (names.filter (engine.isShort weight laterMs)).length ≤
        (names.filter (engine.isShort weight nowMs)).length := by
    rw [← shorts_fall refills ordered]
    exact List.length_filter_le _ _
  have intervals {laterMs : Int} (ordered : nowMs ≤ laterMs) :
      (engine.minIntervalRetryMs names laterMs).toList.length ≤
        (engine.minIntervalRetryMs names nowMs).toList.length := by
    cases held : engine.minIntervalRetryMs names nowMs with
    | none =>
      rw [(checks_stay ordered).2 held]
    | some retry => exact Option.length_toList_le
  unfold tryConsumeScopes at refused
  cases cooldown : engine.cooldownRetryMs names nowMs with
  | some retry =>
    rw [cooldown] at refused
    obtain rfl := Option.some.inj refused
    obtain ⟨positive, outlasts⟩ := cooldown_hint cooldown
    have ended := cooldown_none outlasts
    have fewer := shorts (by omega : nowMs ≤ nowMs + retry)
    have kept := intervals (by omega : nowMs ≤ nowMs + retry)
    refine ⟨positive, ?_⟩
    simp only [failing, cooldown, ended, Option.toList_some, Option.toList_none,
      List.length_singleton, List.length_nil]
    omega
  | none =>
    rw [cooldown] at refused
    cases interval : engine.minIntervalRetryMs names nowMs with
    | some retry =>
      rw [interval] at refused
      obtain rfl := Option.some.inj refused
      obtain ⟨positive, outlasts⟩ := interval_hint interval
      have ended : engine.minIntervalRetryMs names (nowMs + retry) = none := by
        refine interval_none fun name named interval last limited noted => ?_
        have waited := outlasts name named interval last limited noted
        have seen := (settled name named).2 last noted
        omega
      have cooled := (checks_stay (by omega : nowMs ≤ nowMs + retry)).1 cooldown
      have fewer := shorts (by omega : nowMs ≤ nowMs + retry)
      refine ⟨positive, ?_⟩
      simp only [failing, cooldown, cooled, interval, ended, Option.toList_some,
        Option.toList_none, List.length_singleton, List.length_nil]
      omega
    | none =>
      rw [interval] at refused
      have failed : (engine.refillScopes weight nowMs names).2 = some error := by
        rcases tried : engine.refillScopes weight nowMs names with ⟨refilled, found⟩
        rw [tried] at refused
        cases found with
        | none => cases refused
        | some other => exact refused
      obtain ⟨name, named, bucket, found, short, hinted⟩ := refill_scopes_fails failed
      have worth := refills name named bucket found
      have rate : 0 < (bucket.refill nowMs).refillPerMs := by
        rw [refill_rate]
        exact worth.rate
      have positive := (budget_hint rate short).1
      have waited := budget_waited worth ((settled name named).1 bucket found) short
      rw [← hinted] at positive waited
      have ordered : nowMs ≤ nowMs + error.retryInMs := by omega
      obtain ⟨cooled, spaced⟩ := @checks_stay engine names _ _ ordered
      have fewer : (names.filter (engine.isShort weight (nowMs + error.retryInMs))).length <
          (names.filter (engine.isShort weight nowMs)).length := by
        rw [← shorts_fall refills ordered, List.length_filter_lt_length_iff_exists]
        refine ⟨name, List.mem_filter.mpr ⟨named, ?_⟩, ?_⟩
        · simp only [isShort, found, short, decide_true]
        · simp only [isShort, found, not_lt.mpr waited, decide_false, Bool.false_eq_true,
            not_false_eq_true]
      refine ⟨positive, ?_⟩
      simp only [failing, cooldown, cooled cooldown, interval, spaced interval,
        Option.toList_none, List.length_nil]
      omega

/-- A request that is repeated on its hints is accepted within as many refusals as it would fail
checks. -/
theorem refusals_le {engine current : RateLimitEngine} {names : List String} {weight : ℚ}
    (rates : ∀ name bucket, engine.bucket name = some bucket → 0 < bucket.refillPerMs)
    (refills : ∀ name ∈ names, ∀ bucket, engine.bucket name = some bucket →
      weight ≤ bucket.capacity) {calls : Nat} {nowMs : Int}
    (settled : engine.Settled names nowMs) (same : current.SameFrom nowMs engine)
    (enough : engine.failing names weight nowMs < calls) :
    ∃ count, refusals names weight calls current nowMs = some count ∧
      count ≤ engine.failing names weight nowMs := by
  induction calls generalizing current nowMs with
  | zero => omega
  | succ calls ih =>
    obtain ⟨next, errors⟩ := same.tryConsumeScopes names weight (le_refl _)
    unfold refusals
    rcases tried : current.tryConsumeScopes names weight nowMs with ⟨left, error⟩
    rw [tried] at next errors
    cases error with
    | none => exact ⟨0, rfl, Nat.zero_le _⟩
    | some error =>
      obtain ⟨positive, fewer⟩ := refused_progress settled
        (fun name named bucket found =>
          ⟨rates name bucket found, refills name named bucket found⟩) errors.symm
      have ordered : nowMs ≤ nowMs + error.retryInMs := by omega
      have unchanged := @refused_same engine names weight nowMs rates
        (by rw [← errors]; exact Option.some_ne_none _)
      have stays : engine.Settled names (nowMs + error.retryInMs) := fun name named =>
        ⟨fun bucket found => ((settled name named).1 bucket found).trans ordered,
          fun last noted => ((settled name named).2 last noted).trans ordered⟩
      obtain ⟨count, counted, few⟩ := ih stays
        ((next.trans unchanged).later ordered) (by omega)
      refine ⟨count + 1, ?_, by omega⟩
      dsimp only
      rw [counted]
      rfl

/-! ## Engines whose calls lie in the past -/

theorem seen_scope_mut {engine : RateLimitEngine} {nowMs : Int}
    (seen : ∀ name, (engine.scope name).SeenBy nowMs) (name : String)
    {change : ScopeState → ScopeState}
    (keeps : (engine.scope name).SeenBy nowMs → (change (engine.scope name)).SeenBy nowMs)
    (other : String) : ((engine.scopeMut name change).scope other).SeenBy nowMs := by
  rw [scope_mut]
  split_ifs
  · exact keeps (seen name)
  · exact seen other

theorem seen_fold {engine : RateLimitEngine} {nowMs : Int}
    (seen : ∀ name, (engine.scope name).SeenBy nowMs) {change : ScopeState → ScopeState}
    (keeps : ∀ state : ScopeState, state.SeenBy nowMs → (change state).SeenBy nowMs)
    (names : List String) (name : String) :
    ((names.foldl (fun current name => current.scopeMut name change) engine).scope name).SeenBy
      nowMs := by
  induction names generalizing engine with
  | nil => exact seen name
  | cons head rest ih =>
    exact ih (seen_scope_mut seen head (keeps _))

theorem seen_cool {state : ScopeState} {nowMs : Int} (untilMs : Int) (seen : state.SeenBy nowMs) :
    (coolScope untilMs state).SeenBy nowMs := by
  refine ⟨fun bucket held => ?_, seen.2⟩
  obtain ⟨before, found, rfl⟩ := Option.map_eq_some_iff.mp held
  exact seen.1 before found

theorem seen_refill {state : ScopeState} {callMs nowMs : Int} (past : callMs ≤ nowMs)
    (seen : state.SeenBy nowMs) : (refillState callMs state).SeenBy nowMs := by
  refine ⟨fun bucket held => ?_, seen.2⟩
  obtain ⟨before, found, rfl⟩ := Option.map_eq_some_iff.mp held
  rcases le_or_gt callMs before.lastRefillMs with early | late
  · rw [refill_early early]
    exact seen.1 before found
  · rw [refill_late late]
    exact past

theorem seen_consume {engine : RateLimitEngine} {nowMs : Int}
    (seen : ∀ name, (engine.scope name).SeenBy nowMs) (names : List String) (weight : ℚ)
    {callMs : Int} (past : callMs ≤ nowMs) (name : String) :
    ((engine.tryConsumeScopes names weight callMs).1.scope name).SeenBy nowMs := by
  have refilled (name : String) :
      ((engine.refillScopes weight callMs names).1.scope name).SeenBy nowMs := by
    rcases refill_scopes_scope weight callMs names engine name with same | once
    · rw [same]
      exact seen name
    · rw [once]
      exact seen_refill past (seen name)
  by_cases admitted : (engine.tryConsumeScopes names weight callMs).2 = none
  · rw [(consume_passed admitted).leaves, deductScopes]
    refine seen_fold refilled (fun state before => ⟨fun bucket held => ?_, fun last noted => ?_⟩)
      names name
    · obtain ⟨old, found, rfl⟩ := Option.map_eq_some_iff.mp held
      exact before.1 old found
    · unfold deduct at noted
      dsimp only at noted
      split_ifs at noted
      · exact (Option.some.inj noted).symm.trans_le past
      · exact before.2 last noted
  · rcases consume_refused admitted with same | once
    · rw [same]
      exact seen name
    · rw [once]
      exact refilled name

theorem seen_backoff {engine : RateLimitEngine} {nowMs : Int}
    (seen : ∀ name, (engine.scope name).SeenBy nowMs) (names : List String) (callMs : Int)
    (name : String) : ((engine.applyBackoff names callMs).1.scope name).SeenBy nowMs := by
  rw [applyBackoff]
  generalize (0 : Nat) = longest
  induction names generalizing engine longest with
  | nil => exact seen name
  | cons head rest ih =>
    refine ih (fun other => ?_) _
    unfold backoffScope
    dsimp only
    split
    · exact seen_scope_mut seen head (fun before => before) other
    · refine seen_scope_mut seen head (fun before => ?_) other
      have cooled := seen_cool
        (callMs + engine.failureBackoffMs (engine.scope head).backoffFailures) before
      exact ⟨cooled.1, cooled.2⟩

/-- Calls that lie in the past leave nothing that lies ahead; a new bucket starts at time zero. -/
theorem seen_call {engine : RateLimitEngine} {nowMs : Int} (start : 0 ≤ nowMs)
    (seen : ∀ name, (engine.scope name).SeenBy nowMs) {call : EngineCall}
    (past : ∀ callMs, call.time? = some callMs → callMs ≤ nowMs) (name : String) :
    ((engine.call call).scope name).SeenBy nowMs := by
  cases call with
  | consumeList first others callMs => exact seen_consume seen _ _ (past callMs rfl) name
  | register registration =>
    cases registration with
    | bucket scope budgetPerMinute capacity refillPerSec =>
      refine seen_scope_mut seen scope (fun before => ⟨fun bucket held => ?_, before.2⟩) name
      rw [← Option.some.inj held]
      exact start
    | weight scope weight => exact seen_scope_mut seen scope (fun before => before) name
    | minInterval scope intervalMs => exact seen_scope_mut seen scope (fun before => before) name
  | timed event =>
    have callPast := past event.time rfl
    cases event with
    | consume names weight callMs => exact seen_consume seen names weight callPast name
    | cooldown names retryAfterMs callMs =>
      exact seen_fold seen (fun state => seen_cool _) names name
    | backoff names callMs => exact seen_backoff seen names callMs name

theorem seen_calls {engine : RateLimitEngine} {nowMs : Int} (start : 0 ≤ nowMs)
    (seen : ∀ name, (engine.scope name).SeenBy nowMs) {calls : List EngineCall}
    (past : ∀ call ∈ calls, ∀ callMs, call.time? = some callMs → callMs ≤ nowMs) (name : String) :
    ((calls.foldl RateLimitEngine.call engine).scope name).SeenBy nowMs := by
  induction calls generalizing engine with
  | nil => exact seen name
  | cons call rest ih =>
    exact ih (seen_call start seen (past call List.mem_cons_self))
      fun other member => past other (List.mem_cons_of_mem _ member)

/-! ## Refusals -/

/-- A refusal is invisible to every later call. A request that its buckets can hold and that is
repeated on its hints is refused at most once for each listed scope and twice more, when no listed
scope has seen a later time; so it is in an engine whose calls all lie in the past. -/
theorem refusal_neutral_hint_sound (engine : RateLimitEngine) (names : List String) (weight : ℚ)
    (nowMs : Int)
    (rates : ∀ name bucket, engine.bucket name = some bucket → 0 < bucket.refillPerMs)
    (capacities : ∀ name ∈ names, ∀ bucket, engine.bucket name = some bucket →
      weight ≤ bucket.capacity) :
    ((engine.tryConsumeScopes names weight nowMs).2 ≠ none →
      ∀ calls, NotBefore nowMs calls →
        (engine.tryConsumeScopes names weight nowMs).1.outcomes calls = engine.outcomes calls) ∧
    (engine.Settled names nowMs → ∃ count ≤ names.length + 2,
      refusals names weight (names.length + 3) engine nowMs = some count) ∧
    (∀ windowSecs margin (calls : List EngineCall), 0 ≤ nowMs →
      (∀ call ∈ calls, ∀ callMs, call.time? = some callMs → callMs ≤ nowMs) →
      engine = calls.foldl RateLimitEngine.call (create windowSecs margin) →
        engine.Settled names nowMs) := by
  refine ⟨fun refused calls later => ?_, fun settled => ?_,
    fun windowSecs margin calls start past made name _ => ?_⟩
  · exact (refused_same rates refused).outcomes later
  · have few := engine.failing_le names weight nowMs
    obtain ⟨count, counted, within⟩ :=
      refusals_le rates capacities settled (.refl nowMs engine)
        (show engine.failing names weight nowMs < names.length + 3 by omega)
    exact ⟨count, within.trans few, counted⟩
  · rw [made]
    refine seen_calls start (fun other => ⟨?_, ?_⟩) past name
    · rintro bucket ⟨⟩
    · rintro last ⟨⟩

/-- A bucket of one token that refills each millisecond. -/
def oneToken : RateLimitEngine := configured 60 1 [.bucket "host:a" none (some 1) (some 1000)]

theorem only_scope_bucket {engine : RateLimitEngine} {held : BucketState}
    (registered : engine.scopes.entries = [("host:a", { bucket := some held })])
    {name : String} {bucket : BucketState} (found : engine.bucket name = some bucket) :
    bucket = held := by
  have lookup : engine.scopes.find? name =
      if "host:a" = name then some { bucket := some held } else none := by
    rw [OrderedDict.find?, registered]
    rfl
  rw [RateLimitEngine.bucket, scope, lookup] at found
  split_ifs at found
  · exact (Option.some.inj found).symm
  · cases found

/-- The bucket after its token was spent at ten milliseconds. -/
def emptied : RateLimitEngine := oneToken.step (.consume ["host:a"] 1 10)

theorem emptied_bucket {name : String} {bucket : BucketState}
    (found : emptied.bucket name = some bucket) :
    bucket = { capacity := 1, refillPerMs := 1, tokens := 0, lastRefillMs := 10 } :=
  only_scope_bucket (by decide +kernel) found

/-- The emptied bucket refuses a request, which no later request notices, and takes it when it is
repeated on its hint. -/
theorem refusal_neutral_hint_sound_emptied :
    (emptied.tryConsumeScopes ["host:a"] 1 10).2 ≠ none ∧
      (emptied.tryConsumeScopes ["host:a"] 1 10).1.outcomes [.timed (.consume ["host:a"] 1 11)] =
        emptied.outcomes [.timed (.consume ["host:a"] 1 11)] ∧
      ∃ count ≤ 3, refusals ["host:a"] 1 4 emptied 10 = some count ∧ count ≠ 0 := by
  have sound := refusal_neutral_hint_sound emptied ["host:a"] 1 10
    (fun name bucket found => by rw [emptied_bucket found]; exact one_pos)
    (fun name _ bucket found => by rw [emptied_bucket found])
  have refused : (emptied.tryConsumeScopes ["host:a"] 1 10).2 ≠ none := by decide +kernel
  have past : ∀ call ∈ [EngineCall.register (.bucket "host:a" none (some 1) (some 1000)),
      .timed (.consume ["host:a"] 1 10)], ∀ callMs, call.time? = some callMs → callMs ≤ 10 := by
    intro call member callMs timed
    rcases List.mem_pair.mp member with rfl | rfl
    · cases timed
    · exact (Option.some.inj timed).symm.le
  have settled := sound.2.2 60 1 _ (by decide) past rfl
  refine ⟨refused, sound.1 refused _ ?_, ?_⟩
  · intro call member callMs timed
    rw [List.mem_singleton.mp member] at timed
    obtain rfl := Option.some.inj timed
    decide
  · obtain ⟨count, within, counted⟩ := sound.2.1 settled
    refine ⟨count, within, counted, ?_⟩
    rintro rfl
    exact absurd counted (by decide +kernel)

/-- When the clock has run back, the bucket refills only after it has caught up: a request at
time zero, after one at ten milliseconds, is refused at each of the next ten milliseconds. -/
theorem clock_back_refuses_longer :
    ∃ (engine : RateLimitEngine) (names : List String) (weight : ℚ) (nowMs : Int),
      (∀ name bucket, engine.bucket name = some bucket → 0 < bucket.refillPerMs) ∧
      (∀ name ∈ names, ∀ bucket, engine.bucket name = some bucket → weight ≤ bucket.capacity) ∧
      refusals names weight (names.length + 3) engine nowMs = none := by
  refine ⟨emptied, ["host:a"], 1, 0, ?_, ?_, ?_⟩
  · intro name bucket found
    rw [emptied_bucket found]
    exact one_pos
  · intro name _ bucket found
    rw [emptied_bucket found]
  · decide +kernel

end RateLimitEngine

end LightFee.RateLimit
