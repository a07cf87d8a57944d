import LightFee.RateLimit.Engine

/-!
# What a run of requests is admitted

The engine's buckets are token buckets, so the weight admitted to a scope in a
window is bounded by the allowance at the window's start. One step is analysed
scope by scope: a request refills a scope or leaves it alone, an admitted one
then deducts from every scope it names, once for each time it names it, and a
cooldown touches no tokens.
-/

namespace LightFee.RateLimit

/-- One registration before a run. -/
inductive Registration where
  | bucket (name : String) (budgetPerMinute capacity refillPerSec : Option ℚ)
  | weight (name : String) (weight : ℚ)
  | minInterval (name : String) (intervalMs : Int)

def RateLimitEngine.register (engine : RateLimitEngine) : Registration → RateLimitEngine
  | .bucket name budgetPerMinute capacity refillPerSec =>
    engine.registerBucket name budgetPerMinute capacity refillPerSec
  | .weight name weight => engine.registerWeight name weight
  | .minInterval name intervalMs => engine.registerMinInterval name intervalMs

/-- A new engine with its registrations. -/
def RateLimitEngine.configured (windowSecs : Int) (margin : ℚ)
    (registrations : List Registration) : RateLimitEngine :=
  registrations.foldl RateLimitEngine.register (RateLimitEngine.create windowSecs margin)

/-- One event of a run. -/
inductive EngineEvent where
  | consume (names : List String) (weight : ℚ) (nowMs : Int)
  | cooldown (names : List String) (retryAfterMs nowMs : Int)
  | backoff (names : List String) (nowMs : Int)

/-- An admitted request and the engine that admitted it. -/
structure AdmittedCall where
  engine : RateLimitEngine
  names : List String
  weight : ℚ
  nowMs : Int

def RateLimitEngine.step (engine : RateLimitEngine) : EngineEvent → RateLimitEngine
  | .consume names weight nowMs => (engine.tryConsumeScopes names weight nowMs).1
  | .cooldown names retryAfterMs nowMs => engine.applyCooldown names retryAfterMs nowMs
  | .backoff names nowMs => (engine.applyBackoff names nowMs).1

/-- The admitted request of an event, if it is one. -/
def RateLimitEngine.admittedCall (engine : RateLimitEngine) : EngineEvent → Option AdmittedCall
  | .consume names weight nowMs =>
    if (engine.tryConsumeScopes names weight nowMs).2 = none then
      some ⟨engine, names, weight, nowMs⟩
    else none
  | _ => none

/-- The admitted requests of a run, in order. -/
def RateLimitEngine.admitted (engine : RateLimitEngine) : List EngineEvent → List AdmittedCall
  | [] => []
  | event :: rest => (engine.admittedCall event).toList ++ (engine.step event).admitted rest

def EngineEvent.consumeTime : EngineEvent → Option Int
  | .consume _ _ nowMs => some nowMs
  | _ => none

/-- Times of the run's requests. -/
def consumeTimes (events : List EngineEvent) : List Int :=
  events.filterMap EngineEvent.consumeTime

/-- Every request of the run has a positive weight. -/
def PositiveWeights (events : List EngineEvent) : Prop :=
  ∀ names weight nowMs, EngineEvent.consume names weight nowMs ∈ events → 0 < weight

/-- The call names the scope and falls into the window. -/
def AdmittedCall.Within (call : AdmittedCall) (name : String) (start finish : Int) : Prop :=
  name ∈ call.names ∧ start ≤ call.nowMs ∧ call.nowMs ≤ finish

instance (call : AdmittedCall) (name : String) (start finish : Int) :
    Decidable (call.Within name start finish) :=
  inferInstanceAs (Decidable (_ ∧ _ ∧ _))

def RateLimitEngine.callsWithin (engine : RateLimitEngine) (events : List EngineEvent)
    (name : String) (start finish : Int) : List AdmittedCall :=
  (engine.admitted events).filter (fun call => call.Within name start finish)

def totalWeight (calls : List AdmittedCall) : ℚ := (calls.map AdmittedCall.weight).sum

/-! ## One bucket -/

/-- The engine's bucket as a token bucket. -/
def BucketState.view (bucket : BucketState) : TokenBucket.Bucket ℚ :=
  ⟨bucket.tokens, bucket.lastRefillMs⟩

def BucketState.spend (bucket : BucketState) (weight : ℚ) : BucketState :=
  { bucket with tokens := max 0 (bucket.tokens - weight) }

def BucketState.cool (bucket : BucketState) (untilMs : Int) : BucketState :=
  { bucket with cooldownUntilMs := max bucket.cooldownUntilMs untilMs }

@[simp] theorem view_last (bucket : BucketState) : bucket.view.last = bucket.lastRefillMs := rfl

@[simp] theorem view_tokens (bucket : BucketState) : bucket.view.tokens = bucket.tokens := rfl

theorem view_spend (bucket : BucketState) (weight : ℚ) :
    (bucket.spend weight).view = TokenBucket.spend bucket.view weight := rfl

theorem view_refill (bucket : BucketState) (nowMs : Int) :
    (bucket.refill nowMs).view =
      TokenBucket.refill bucket.capacity bucket.refillPerMs bucket.view nowMs := by
  by_cases early : nowMs ≤ bucket.lastRefillMs
  · have none : max 0 (nowMs - bucket.lastRefillMs) ≤ 0 := by omega
    have earlyTime : (nowMs : ℚ) ≤ bucket.lastRefillMs := by exact_mod_cast early
    simp [BucketState.refill, none, TokenBucket.refill, BucketState.view, earlyTime]
  · have elapsed : max 0 (nowMs - bucket.lastRefillMs) = nowMs - bucket.lastRefillMs := by omega
    have some : ¬ nowMs - bucket.lastRefillMs ≤ 0 := by omega
    have lateTime : ¬ (nowMs : ℚ) ≤ bucket.lastRefillMs := by exact_mod_cast early
    simp [BucketState.refill, elapsed, some, TokenBucket.refill, BucketState.view, lateTime]

@[simp] theorem refill_capacity (bucket : BucketState) (nowMs : Int) :
    (bucket.refill nowMs).capacity = bucket.capacity := by
  simp only [BucketState.refill]
  split_ifs <;> rfl

@[simp] theorem refill_rate (bucket : BucketState) (nowMs : Int) :
    (bucket.refill nowMs).refillPerMs = bucket.refillPerMs := by
  simp only [BucketState.refill]
  split_ifs <;> rfl

/-- A second refill at the same time does nothing. -/
@[simp] theorem refill_refill (bucket : BucketState) (nowMs : Int) :
    (bucket.refill nowMs).refill nowMs = bucket.refill nowMs := by
  simp only [BucketState.refill]
  split_ifs <;> simp_all

/-- A bucket that refills and is not filled beyond its capacity. -/
structure BucketState.Healthy (bucket : BucketState) : Prop where
  rate : 0 < bucket.refillPerMs
  bounded : TokenBucket.Bounded bucket.capacity bucket.view

/-- What the bucket can still admit in a window. -/
def BucketState.allowance (start finish : Int) (bucket : BucketState) : ℚ :=
  TokenBucket.allowance bucket.capacity bucket.refillPerMs start finish bucket.view

theorem BucketState.Healthy.allowance_nonneg {bucket : BucketState} (healthy : bucket.Healthy)
    {start finish : Int} : 0 ≤ bucket.allowance start finish :=
  TokenBucket.allowance_nonneg healthy.rate.le healthy.bounded

/-- A change of a bucket that keeps it healthy and grants nothing. -/
def Frugal (start finish : Int) (change : BucketState → BucketState) : Prop :=
  ∀ bucket : BucketState, bucket.Healthy →
    (change bucket).Healthy ∧ (change bucket).allowance start finish ≤ bucket.allowance start finish

section Frugal

variable {start finish : Int}

theorem Frugal.id : Frugal start finish id := by
  intro bucket healthy
  exact ⟨healthy, le_refl _⟩

theorem Frugal.comp {second first : BucketState → BucketState}
    (later : Frugal start finish second) (earlier : Frugal start finish first) :
    Frugal start finish (fun bucket => second (first bucket)) := by
  intro bucket healthy
  rcases earlier bucket healthy with ⟨healthyFirst, lowerFirst⟩
  rcases later (first bucket) healthyFirst with ⟨healthySecond, lowerSecond⟩
  exact ⟨healthySecond, lowerSecond.trans lowerFirst⟩

theorem Frugal.iterate {change : BucketState → BucketState} (frugal : Frugal start finish change)
    (count : Nat) : Frugal start finish (change^[count]) := by
  induction count with
  | zero => exact Frugal.id
  | succ count ih =>
      intro bucket healthy
      rw [Function.iterate_succ_apply]
      exact ih.comp frugal bucket healthy

theorem Frugal.refill {nowMs : Int} (unclosed : nowMs ≤ finish) :
    Frugal start finish (·.refill nowMs) := by
  intro bucket healthy
  constructor
  · constructor
    · rw [refill_rate]
      exact healthy.rate
    · rw [refill_capacity, view_refill]
      exact TokenBucket.refill_bounded healthy.rate.le healthy.bounded nowMs
  · simp only [BucketState.allowance, refill_capacity, refill_rate, view_refill]
    apply TokenBucket.refill_allowance_le healthy.rate.le
    exact_mod_cast unclosed

theorem Frugal.spend {weight : ℚ} (nonnegative : 0 ≤ weight) :
    Frugal start finish (·.spend weight) := by
  intro bucket healthy
  constructor
  · exact ⟨healthy.rate, TokenBucket.spend_bounded healthy.bounded nonnegative⟩
  · exact TokenBucket.spend_allowance_le healthy.bounded nonnegative

theorem Frugal.cool (untilMs : Int) : Frugal start finish (·.cool untilMs) := by
  intro bucket healthy
  exact ⟨⟨healthy.rate, healthy.bounded⟩, le_refl _⟩

theorem refill_reaches (bucket : BucketState) (nowMs : Int) :
    nowMs ≤ (bucket.refill nowMs).lastRefillMs := by
  have reached := TokenBucket.refill_reaches bucket.capacity bucket.refillPerMs bucket.view nowMs
  rw [← view_refill, view_last] at reached
  exact_mod_cast reached

/-- An admitted weight inside the window is paid for. -/
theorem spend_pays {bucket : BucketState} {weight : ℚ} (opened : start ≤ bucket.lastRefillMs)
    (admitted : weight ≤ bucket.tokens + admissionSlack) :
    (bucket.spend weight).allowance start finish + weight ≤
      bucket.allowance start finish + admissionSlack := by
  have openedTime : (start : ℚ) ≤ bucket.view.last := by
    rw [view_last]
    exact_mod_cast opened
  have slackNonnegative : 0 ≤ admissionSlack := by norm_num [admissionSlack]
  rw [← view_tokens] at admitted
  simp only [BucketState.allowance, view_spend]
  exact TokenBucket.spend_pays openedTime slackNonnegative admitted

/-- A refilled bucket pays for an admitted weight, however often it is deducted. -/
theorem spend_refilled_pays {bucket : BucketState} (healthy : bucket.Healthy) {weight : ℚ}
    {nowMs : Int} (nonnegative : 0 ≤ weight) (opened : start ≤ nowMs) (unclosed : nowMs ≤ finish)
    (admitted : weight ≤ (bucket.refill nowMs).tokens + admissionSlack) (again : Nat) :
    ((·.spend weight)^[again + 1] (bucket.refill nowMs)).allowance start finish + weight ≤
      bucket.allowance start finish + admissionSlack := by
  have refillFrugal : Frugal start finish (·.refill nowMs) :=
    Frugal.refill unclosed
  have spendFrugal : Frugal start finish (·.spend weight) := Frugal.spend nonnegative
  rcases refillFrugal bucket healthy with ⟨refilledHealthy, refillLowers⟩
  have spentHealthy := (spendFrugal _ refilledHealthy).1
  have againLowers := (spendFrugal.iterate again _ spentHealthy).2
  have paid : ((bucket.refill nowMs).spend weight).allowance start finish + weight ≤
      (bucket.refill nowMs).allowance start finish + admissionSlack :=
    spend_pays (opened.trans (refill_reaches bucket nowMs)) admitted
  rw [Function.iterate_succ_apply]
  exact le_trans (by gcongr) (paid.trans (by gcongr))

end Frugal

/-! ## One scope of the engine -/

namespace RateLimitEngine

/-- A change made once for each listed name. -/
theorem fold_scope_mut (change : ScopeState → ScopeState) (names : List String)
    (engine : RateLimitEngine) (name : String) :
    (names.foldl (fun current name => current.scopeMut name change) engine).scope name =
      change^[names.count name] (engine.scope name) := by
  induction names generalizing engine with
  | nil => rfl
  | cons head rest ih =>
      rw [List.foldl_cons, ih, scope_mut, List.count_cons]
      by_cases here : head = name
      · simp [here]
      · simp [here]

/-- A repeated change of scopes is a repeated change of their buckets. -/
theorem iterate_bucket {change : ScopeState → ScopeState} {onBucket : BucketState → BucketState}
    (through : ∀ state, (change state).bucket = state.bucket.map onBucket) (count : Nat)
    (state : ScopeState) :
    (change^[count] state).bucket = state.bucket.map onBucket^[count] := by
  induction count generalizing state with
  | zero => simp
  | succ count ih =>
      rw [Function.iterate_succ_apply, ih, through, Option.map_map]
      rfl

/-- A repeated change keeps what one change keeps. -/
theorem iterate_keeps {Kept : Type} {change : ScopeState → ScopeState} {read : ScopeState → Kept}
    (keeps : ∀ state, read (change state) = read state) (count : Nat) (state : ScopeState) :
    read (change^[count] state) = read state := by
  induction count generalizing state with
  | zero => rfl
  | succ count ih =>
      rw [Function.iterate_succ_apply, ih, keeps]

/-- The scope after a refill of its bucket. -/
def refillState (nowMs : Int) (state : ScopeState) : ScopeState :=
  { state with bucket := state.bucket.map (fun bucket => bucket.refill nowMs) }

@[simp] theorem refill_state_twice (nowMs : Int) (state : ScopeState) :
    refillState nowMs (refillState nowMs state) = refillState nowMs state := by
  cases bucket : state.bucket with
  | none => simp [refillState, bucket]
  | some bucket => simp [refillState, bucket]

theorem refill_scope_scope (engine : RateLimitEngine) (name : String) (weight : ℚ) (nowMs : Int)
    (other : String) :
    (engine.refillScope name weight nowMs).1.scope other =
      if name = other then refillState nowMs (engine.scope other) else engine.scope other := by
  unfold refillScope
  cases found : engine.bucket name with
  | none =>
      split_ifs with here
      · subst here
        simp only [bucket] at found
        cases state : engine.scope name with
        | mk bucket weight minIntervalMs lastRequestAtMs backoffFailures =>
            simp_all [refillState]
      · rfl
  | some bucket =>
      simp only [RateLimitEngine.bucket] at found
      rw [scope_mut]
      split_ifs with here
      · subst here
        simp [refillState, found]
      · rfl

/-- A scope that passes the check can pay, up to the slack. -/
theorem refill_scope_pays {engine : RateLimitEngine} {name : String} {weight : ℚ} {nowMs : Int}
    (passed : (engine.refillScope name weight nowMs).2 = none) {bucket : BucketState}
    (found : engine.bucket name = some bucket) :
    weight ≤ (bucket.refill nowMs).tokens + admissionSlack := by
  unfold refillScope at passed
  rw [found] at passed
  by_cases short : (bucket.refill nowMs).tokens + admissionSlack < weight
  · simp [short] at passed
  · exact not_lt.mp short

/-- Phase three refills a scope or leaves it alone. -/
theorem refill_scopes_scope (weight : ℚ) (nowMs : Int) (names : List String)
    (engine : RateLimitEngine) (name : String) :
    (engine.refillScopes weight nowMs names).1.scope name = engine.scope name ∨
      (engine.refillScopes weight nowMs names).1.scope name =
        refillState nowMs (engine.scope name) := by
  induction names generalizing engine with
  | nil => exact Or.inl rfl
  | cons head rest ih =>
      have first := engine.refill_scope_scope head weight nowMs name
      unfold refillScopes
      rcases tried : engine.refillScope head weight nowMs with ⟨refilled, error⟩
      rw [tried] at first
      cases error with
      | some error =>
          dsimp only at first ⊢
          rw [first]
          split_ifs
          · exact Or.inr rfl
          · exact Or.inl rfl
      | none =>
          dsimp only at first ⊢
          have later := ih refilled
          rw [first] at later
          split_ifs at later
          · rw [refill_state_twice] at later
            exact Or.inr (later.elim id id)
          · exact later

/-- When phase three passes, every named scope is refilled and can pay. -/
theorem refill_scopes_passes {weight : ℚ} {nowMs : Int} {names : List String}
    {engine : RateLimitEngine} (passed : (engine.refillScopes weight nowMs names).2 = none)
    {name : String} (named : name ∈ names) :
    (engine.refillScopes weight nowMs names).1.scope name =
        refillState nowMs (engine.scope name) ∧
      ∀ bucket, engine.bucket name = some bucket →
        weight ≤ (bucket.refill nowMs).tokens + admissionSlack := by
  induction names generalizing engine with
  | nil => exact absurd named (List.not_mem_nil)
  | cons head rest ih =>
      have first := engine.refill_scope_scope head weight nowMs name
      have pays := @refill_scope_pays engine head weight nowMs
      unfold refillScopes at passed ⊢
      rcases tried : engine.refillScope head weight nowMs with ⟨refilled, error⟩
      rw [tried] at first passed pays
      cases error with
      | some error => exact absurd passed (by simp)
      | none =>
          dsimp only at first passed pays ⊢
          have later := refill_scopes_scope weight nowMs rest refilled name
          by_cases here : head = name
          · subst here
            rw [first, if_pos rfl, refill_state_twice] at later
            exact ⟨later.elim id id, fun bucket found => pays rfl found⟩
          · have inRest : name ∈ rest := by simpa [Ne.symm here] using named
            rw [if_neg here] at first
            have step := ih passed inRest
            rw [first] at step
            refine ⟨step.1, fun bucket found => step.2 bucket ?_⟩
            rw [RateLimitEngine.bucket, first]
            exact found

/-! ## Quiet changes of a scope -/

/-- A change of a scope without an admitted request: up to `finish` it grants no
tokens, and it keeps the scope's interval and the time of its last request. -/
structure Quiet (finish : Int) (before after : ScopeState) : Prop where
  interval : after.minIntervalMs = before.minIntervalMs
  last : after.lastRequestAtMs = before.lastRequestAtMs
  bucket : ∃ change, (∀ start, Frugal start finish change) ∧
    after.bucket = before.bucket.map change

theorem Quiet.refl {finish : Int} (state : ScopeState) : Quiet finish state state :=
  ⟨rfl, rfl, id, fun _ => Frugal.id, by simp⟩

theorem Quiet.trans {finish : Int} {first second third : ScopeState}
    (earlier : Quiet finish first second) (later : Quiet finish second third) :
    Quiet finish first third := by
  rcases earlier.bucket with ⟨change, frugal, changed⟩
  rcases later.bucket with ⟨again, frugalAgain, changedAgain⟩
  constructor
  · exact later.interval.trans earlier.interval
  · exact later.last.trans earlier.last
  · refine ⟨fun bucket => again (change bucket), fun start => ?_, ?_⟩
    · exact (frugalAgain start).comp (frugal start)
    · rw [changedAgain, changed, Option.map_map]
      rfl

theorem quiet_refill {nowMs finish : Int} (unclosed : nowMs ≤ finish) (state : ScopeState) :
    Quiet finish state (refillState nowMs state) :=
  ⟨rfl, rfl, _, fun _ => Frugal.refill unclosed, rfl⟩

theorem quiet_cool (untilMs finish : Int) (state : ScopeState) :
    Quiet finish state (coolScope untilMs state) :=
  ⟨rfl, rfl, _, fun _ => Frugal.cool untilMs, rfl⟩

theorem quiet_iterate {finish : Int} {change : ScopeState → ScopeState}
    (quiet : ∀ state, Quiet finish state (change state)) (count : Nat) (state : ScopeState) :
    Quiet finish state (change^[count] state) := by
  induction count generalizing state with
  | zero => exact Quiet.refl state
  | succ count ih =>
      rw [Function.iterate_succ_apply]
      exact (quiet state).trans (ih _)

theorem quiet_cooldown (engine : RateLimitEngine) (names : List String)
    (retryAfterMs nowMs finish : Int) (name : String) :
    Quiet finish (engine.scope name) ((engine.applyCooldown names retryAfterMs nowMs).scope name) := by
  unfold applyCooldown
  rw [fold_scope_mut]
  exact quiet_iterate (quiet_cool _ finish) _ _

theorem quiet_backoff_scope (engine : RateLimitEngine) (name : String) (nowMs finish : Int)
    (other : String) :
    Quiet finish (engine.scope other) ((engine.backoffScope name nowMs).1.scope other) := by
  unfold backoffScope
  cases found : (engine.scope name).bucket with
  | none =>
      simp only [found, scope_mut]
      split_ifs with here
      · subst here
        exact Quiet.refl _
      · exact Quiet.refl _
  | some bucket =>
      simp only [found, scope_mut]
      split_ifs with here
      · subst here
        have cooled := quiet_cool (nowMs + engine.failureBackoffMs (engine.scope name).backoffFailures)
          finish (engine.scope name)
        exact ⟨cooled.interval, cooled.last, cooled.bucket⟩
      · exact Quiet.refl _

theorem quiet_backoff (engine : RateLimitEngine) (names : List String) (nowMs finish : Int)
    (name : String) :
    Quiet finish (engine.scope name) ((engine.applyBackoff names nowMs).1.scope name) := by
  unfold applyBackoff
  generalize (0 : Nat) = longest
  induction names generalizing engine longest with
  | nil => exact Quiet.refl _
  | cons head rest ih =>
      rw [List.foldl_cons]
      exact (engine.quiet_backoff_scope head nowMs finish name).trans (ih _ _)

theorem quiet_refill_scopes (engine : RateLimitEngine) (names : List String) (weight : ℚ)
    {nowMs finish : Int} (unclosed : nowMs ≤ finish) (name : String) :
    Quiet finish (engine.scope name)
      ((engine.refillScopes weight nowMs names).1.scope name) := by
  rcases refill_scopes_scope weight nowMs names engine name with same | refilled
  · rw [same]
    exact Quiet.refl _
  · rw [refilled]
    exact quiet_refill unclosed _

/-! ## One request -/

/-- A refused request leaves the engine alone or refills some of its scopes. -/
theorem consume_refused {engine : RateLimitEngine} {names : List String} {weight : ℚ} {nowMs : Int}
    (refused : (engine.tryConsumeScopes names weight nowMs).2 ≠ none) :
    (engine.tryConsumeScopes names weight nowMs).1 = engine ∨
      (engine.tryConsumeScopes names weight nowMs).1 =
        (engine.refillScopes weight nowMs names).1 := by
  cases cooldown : engine.cooldownRetryMs names nowMs with
  | some retry => exact Or.inl (by simp [tryConsumeScopes, cooldown])
  | none =>
      cases interval : engine.minIntervalRetryMs names nowMs with
      | some retry => exact Or.inl (by simp [tryConsumeScopes, cooldown, interval])
      | none =>
          rcases tried : engine.refillScopes weight nowMs names with ⟨refilled, error⟩
          cases error with
          | some error => exact Or.inr (by simp [tryConsumeScopes, cooldown, interval, tried])
          | none =>
              have admitted : (engine.tryConsumeScopes names weight nowMs).2 = none := by
                simp [tryConsumeScopes, cooldown, interval, tried]
              exact absurd admitted refused

/-- What an admitted request has passed, and the engine it leaves. -/
structure Passed (engine : RateLimitEngine) (names : List String) (weight : ℚ) (nowMs : Int) :
    Prop where
  cooldown : engine.cooldownRetryMs names nowMs = none
  interval : engine.minIntervalRetryMs names nowMs = none
  budget : (engine.refillScopes weight nowMs names).2 = none
  leaves : (engine.tryConsumeScopes names weight nowMs).1 =
    (engine.refillScopes weight nowMs names).1.deductScopes names weight nowMs

theorem consume_passed {engine : RateLimitEngine} {names : List String} {weight : ℚ} {nowMs : Int}
    (admitted : (engine.tryConsumeScopes names weight nowMs).2 = none) :
    engine.Passed names weight nowMs := by
  unfold tryConsumeScopes at admitted
  cases cooldown : engine.cooldownRetryMs names nowMs with
  | some retry => simp [cooldown] at admitted
  | none =>
      cases interval : engine.minIntervalRetryMs names nowMs with
      | some retry => simp [cooldown, interval] at admitted
      | none =>
          rcases tried : engine.refillScopes weight nowMs names with ⟨refilled, error⟩
          cases error with
          | some error => simp [cooldown, interval, tried] at admitted
          | none =>
              constructor
              · exact cooldown
              · exact interval
              · rw [tried]
              · simp [tryConsumeScopes, cooldown, interval, tried]

/-- An admitted request deducts from each scope once for each time it is named. -/
theorem Passed.scope {engine : RateLimitEngine} {names : List String} {weight : ℚ} {nowMs : Int}
    (passed : engine.Passed names weight nowMs) (name : String) :
    (engine.tryConsumeScopes names weight nowMs).1.scope name =
      (deduct weight nowMs)^[names.count name]
        ((engine.refillScopes weight nowMs names).1.scope name) := by
  rw [passed.leaves]
  exact fold_scope_mut _ _ _ _

theorem Passed.quiet {engine : RateLimitEngine} {names : List String} {weight : ℚ}
    {nowMs finish : Int} (passed : engine.Passed names weight nowMs) (unclosed : nowMs ≤ finish)
    {name : String} (unnamed : name ∉ names) :
    Quiet finish (engine.scope name)
      ((engine.tryConsumeScopes names weight nowMs).1.scope name) := by
  rw [passed.scope, List.count_eq_zero_of_not_mem unnamed]
  exact engine.quiet_refill_scopes names weight unclosed name

theorem Passed.minInterval {engine : RateLimitEngine} {names : List String} {weight : ℚ}
    {nowMs : Int} (passed : engine.Passed names weight nowMs) (name : String) :
    ((engine.tryConsumeScopes names weight nowMs).1.scope name).minIntervalMs =
      (engine.scope name).minIntervalMs := by
  have keeps : ∀ state, (deduct weight nowMs state).minIntervalMs = state.minIntervalMs :=
    fun _ => rfl
  rw [passed.scope]
  refine (iterate_keeps keeps _ _).trans ?_
  exact (engine.quiet_refill_scopes names weight (le_refl nowMs) name).interval

/-- A named scope with an interval notes the time of the request. -/
theorem Passed.last {engine : RateLimitEngine} {names : List String} {weight : ℚ}
    {nowMs : Int} (passed : engine.Passed names weight nowMs) {name : String}
    (named : name ∈ names) {interval : Int}
    (limited : (engine.scope name).minIntervalMs = some interval) :
    ((engine.tryConsumeScopes names weight nowMs).1.scope name).lastRequestAtMs = some nowMs := by
  have again := passed.minInterval name
  rw [passed.scope] at again ⊢
  rcases Nat.exists_eq_succ_of_ne_zero (List.count_pos_iff.mpr named).ne' with ⟨count, counted⟩
  rw [counted, Function.iterate_succ_apply'] at again ⊢
  have kept : ((deduct weight nowMs)^[count]
      ((engine.refillScopes weight nowMs names).1.scope name)).minIntervalMs = some interval :=
    again.trans limited
  simp [deduct, kept]

/-- The bucket of a named scope pays for an admitted request inside the window. -/
theorem Passed.pays {engine : RateLimitEngine} {names : List String} {weight : ℚ} {nowMs : Int}
    (passed : engine.Passed names weight nowMs) (nonnegative : 0 ≤ weight) {start finish : Int}
    (unclosed : nowMs ≤ finish) {name : String} (named : name ∈ names) {bucket : BucketState}
    (found : engine.bucket name = some bucket) (healthy : bucket.Healthy) :
    ∃ after, (engine.tryConsumeScopes names weight nowMs).1.bucket name = some after ∧
      after.Healthy ∧ after.allowance start finish ≤ bucket.allowance start finish ∧
      (start ≤ nowMs →
        after.allowance start finish + weight ≤ bucket.allowance start finish + admissionSlack) := by
  rcases refill_scopes_passes passed.budget named with ⟨refilled, enough⟩
  rcases Nat.exists_eq_succ_of_ne_zero (List.count_pos_iff.mpr named).ne' with ⟨again, counted⟩
  have refillFrugal : Frugal start finish (·.refill nowMs) := Frugal.refill unclosed
  have spendFrugal : Frugal start finish (·.spend weight) := Frugal.spend nonnegative
  have frugal := (spendFrugal.iterate (again + 1)).comp refillFrugal
  refine ⟨(·.spend weight)^[again + 1] (bucket.refill nowMs), ?_, ?_, ?_, ?_⟩
  · rw [RateLimitEngine.bucket, passed.scope, refilled, counted,
      iterate_bucket (fun _ => rfl), refillState, Option.map_map]
    rw [RateLimitEngine.bucket] at found
    rw [found]
    rfl
  · exact (frugal bucket healthy).1
  · exact (frugal bucket healthy).2
  · intro opened
    exact spend_refilled_pays healthy nonnegative opened unclosed (enough bucket found) again

/-- An admitted call is the event's request, and has passed its checks. -/
theorem admitted_call_cases {engine : RateLimitEngine} {event : EngineEvent} {call : AdmittedCall}
    (admitted : call ∈ engine.admittedCall event) :
    call.engine = engine ∧ event = .consume call.names call.weight call.nowMs ∧
      engine.Passed call.names call.weight call.nowMs := by
  cases event with
  | cooldown names retryAfterMs nowMs => simp [admittedCall] at admitted
  | backoff names nowMs => simp [admittedCall] at admitted
  | consume names weight nowMs =>
      rw [admittedCall] at admitted
      split_ifs at admitted with passed
      · cases admitted
        exact ⟨rfl, rfl, consume_passed passed⟩
      · cases admitted

theorem consume_times_cons (event : EngineEvent) (rest : List EngineEvent) :
    consumeTimes (event :: rest) = event.consumeTime.toList ++ consumeTimes rest := by
  cases event <;> rfl

/-! ## The budget of a run -/

theorem Quiet.keeps {finish start : Int} {before after : ScopeState}
    (quiet : Quiet finish before after) {bucket : BucketState} (found : before.bucket = some bucket)
    (healthy : bucket.Healthy) :
    ∃ changed, after.bucket = some changed ∧ changed.Healthy ∧
      changed.allowance start finish ≤ bucket.allowance start finish := by
  rcases quiet.bucket with ⟨change, frugal, changed⟩
  rw [found] at changed
  exact ⟨change bucket, changed, frugal start bucket healthy⟩

/-- The calls one event admits into the window. -/
def callWithin (engine : RateLimitEngine) (event : EngineEvent) (name : String)
    (start finish : Int) : List AdmittedCall :=
  (engine.admittedCall event).toList.filter (fun call => call.Within name start finish)

theorem calls_within_cons (engine : RateLimitEngine) (event : EngineEvent)
    (rest : List EngineEvent) (name : String) (start finish : Int) :
    engine.callsWithin (event :: rest) name start finish =
      engine.callWithin event name start finish ++
        (engine.step event).callsWithin rest name start finish := by
  simp [callsWithin, callWithin, admitted]

theorem call_within_unnamed {engine : RateLimitEngine} {names : List String} {weight : ℚ}
    {nowMs : Int} {name : String} {start finish : Int}
    (outside : name ∉ names ∨ nowMs < start) :
    engine.callWithin (.consume names weight nowMs) name start finish = [] := by
  rw [callWithin, List.filter_eq_nil_iff]
  intro call admitted inside
  rcases admitted_call_cases (Option.mem_toList.mp admitted) with ⟨-, request, -⟩
  cases request
  rcases of_decide_eq_true inside with ⟨named, opened, -⟩
  rcases outside with unnamed | early
  · exact unnamed named
  · exact absurd opened (not_le.mpr early)

/-- One event before the window closes: what it admits is paid for by the bucket. -/
theorem step_pays (engine : RateLimitEngine) (event : EngineEvent) {name : String}
    {start finish : Int} {bucket : BucketState} (found : engine.bucket name = some bucket)
    (healthy : bucket.Healthy) (unclosed : ∀ nowMs ∈ event.consumeTime, nowMs ≤ finish)
    (positive : PositiveWeights [event]) :
    ∃ after, (engine.step event).bucket name = some after ∧ after.Healthy ∧
      totalWeight (engine.callWithin event name start finish) + after.allowance start finish ≤
        bucket.allowance start finish +
          (engine.callWithin event name start finish).length * admissionSlack := by
  have silent (quiet : Quiet finish (engine.scope name) ((engine.step event).scope name))
      (nothing : engine.callWithin event name start finish = []) :
      ∃ after, (engine.step event).bucket name = some after ∧ after.Healthy ∧
        totalWeight (engine.callWithin event name start finish) + after.allowance start finish ≤
          bucket.allowance start finish +
            (engine.callWithin event name start finish).length * admissionSlack := by
    rcases quiet.keeps found healthy with ⟨after, changed, healthyAfter, lowered⟩
    refine ⟨after, changed, healthyAfter, ?_⟩
    rw [nothing]
    simpa [totalWeight] using lowered
  cases event with
  | cooldown names retryAfterMs nowMs =>
      exact silent (engine.quiet_cooldown names retryAfterMs nowMs finish name) rfl
  | backoff names nowMs =>
      exact silent (engine.quiet_backoff names nowMs finish name) rfl
  | consume names weight nowMs =>
      have inTime : nowMs ≤ finish := unclosed nowMs rfl
      have weighs : 0 < weight := positive names weight nowMs (by simp)
      by_cases admitted : (engine.tryConsumeScopes names weight nowMs).2 = none
      · have passed := consume_passed admitted
        by_cases named : name ∈ names
        · rcases passed.pays weighs.le inTime named found healthy with
            ⟨after, changed, healthyAfter, lowered, pays⟩
          refine ⟨after, changed, healthyAfter, ?_⟩
          by_cases opened : start ≤ nowMs
          · have one : engine.callWithin (.consume names weight nowMs) name start finish =
                [⟨engine, names, weight, nowMs⟩] := by
              simp [callWithin, admittedCall, admitted, AdmittedCall.Within, named, opened, inTime]
            rw [one]
            simpa [totalWeight, add_comm] using pays opened
          · rw [call_within_unnamed (Or.inr (not_le.mp opened))]
            simpa [totalWeight] using lowered
        · exact silent (passed.quiet inTime named) (call_within_unnamed (Or.inl named))
      · have nothing : engine.callWithin (.consume names weight nowMs) name start finish = [] := by
          simp [callWithin, admittedCall, admitted]
        rcases consume_refused admitted with same | refilled
        · refine silent ?_ nothing
          rw [step, same]
          exact Quiet.refl _
        · refine silent ?_ nothing
          rw [step, refilled]
          exact engine.quiet_refill_scopes names weight inTime name

/-- Every admitted call is one of the run's requests. -/
theorem admitted_times {engine : RateLimitEngine} {events : List EngineEvent} {call : AdmittedCall}
    (admitted : call ∈ engine.admitted events) : call.nowMs ∈ consumeTimes events := by
  induction events generalizing engine with
  | nil => simp [RateLimitEngine.admitted] at admitted
  | cons event rest ih =>
      rw [RateLimitEngine.admitted, List.mem_append] at admitted
      rw [consume_times_cons, List.mem_append]
      rcases admitted with here | later
      · rcases admitted_call_cases (Option.mem_toList.mp here) with ⟨-, request, -⟩
        subst request
        exact Or.inl (by simp [EngineEvent.consumeTime])
      · exact Or.inr (ih later)

/-- The run's spending in the window is at most the allowance at its start. -/
theorem run_spending_le (events : List EngineEvent) (engine : RateLimitEngine) {name : String}
    {start finish : Int} {bucket : BucketState} (found : engine.bucket name = some bucket)
    (healthy : bucket.Healthy) (ordered : (consumeTimes events).Pairwise (· ≤ ·))
    (positive : PositiveWeights events) :
    totalWeight (engine.callsWithin events name start finish) ≤ bucket.allowance start finish +
      (engine.callsWithin events name start finish).length * admissionSlack := by
  induction events generalizing engine bucket with
  | nil =>
      simpa [callsWithin, admitted, totalWeight] using healthy.allowance_nonneg
  | cons event rest ih =>
      by_cases unclosed : ∀ nowMs ∈ event.consumeTime, nowMs ≤ finish
      · rcases engine.step_pays event found healthy unclosed
            (fun names weight nowMs here => positive names weight nowMs (by simp_all)) with
          ⟨after, changed, healthyAfter, paid⟩
        have orderedRest : (consumeTimes rest).Pairwise (· ≤ ·) :=
          ordered.sublist ((List.sublist_cons_self event rest).filterMap _)
        have later := ih (engine.step event) changed healthyAfter orderedRest
          (fun names weight nowMs here => positive names weight nowMs (List.mem_cons_of_mem _ here))
        rw [calls_within_cons, totalWeight, List.map_append, List.sum_append, List.length_append]
        rw [totalWeight] at paid later
        push_cast
        linarith
      · -- The window closed before this request and so before every later one.
        have nothing : engine.callsWithin (event :: rest) name start finish = [] := by
          rw [callsWithin, List.filter_eq_nil_iff]
          intro call admitted inside
          push Not at unclosed
          rcases unclosed with ⟨nowMs, timed, closed⟩
          rcases of_decide_eq_true inside with ⟨-, -, before⟩
          have time := admitted_times admitted
          rw [consume_times_cons, Option.mem_def.mp timed] at time ordered
          rcases List.mem_cons.mp time with same | after
          · omega
          · have late : nowMs ≤ call.nowMs := (List.pairwise_cons.mp ordered).1 _ after
            omega
        rw [nothing]
        simpa [totalWeight] using healthy.allowance_nonneg

/-! ## Cooldowns and intervals of a run -/

/-- A fold that never shrinks reaches what one of its steps reaches. -/
theorem le_foldl {step : Int → String → Int} (grows : ∀ longest name, longest ≤ step longest name)
    (names : List String) (longest : Int) : longest ≤ names.foldl step longest := by
  induction names generalizing longest with
  | nil => exact le_refl longest
  | cons head rest ih =>
      exact (grows longest head).trans (ih (step longest head))

theorem le_foldl_of_mem {step : Int → String → Int}
    (grows : ∀ longest name, longest ≤ step longest name) {name : String} {value : Int}
    (reaches : ∀ longest, value ≤ step longest name) {names : List String} (named : name ∈ names)
    (longest : Int) : value ≤ names.foldl step longest := by
  induction names generalizing longest with
  | nil => exact absurd named List.not_mem_nil
  | cons head rest ih =>
      rcases List.mem_cons.mp named with here | later
      · subst here
        exact (reaches longest).trans (le_foldl grows rest _)
      · exact ih later _

/-- The rest of a named bucket's cooldown is within the wait that the check answers. -/
theorem cooldown_waited {engine : RateLimitEngine} {names : List String} (nowMs : Int)
    {name : String} (named : name ∈ names) {bucket : BucketState}
    (found : engine.bucket name = some bucket) :
    bucket.cooldownUntilMs ≤ nowMs + (engine.cooldownRetryMs names nowMs).getD 0 := by
  unfold cooldownRetryMs
  generalize answer : (List.foldl _ 0 names : Int) = longest
  have reached : bucket.cooldownUntilMs - nowMs ≤ longest := by
    rw [← answer]
    refine le_foldl_of_mem ?_ ?_ named 0
    · intro longest other
      cases engine.bucket other with
      | none => exact le_refl longest
      | some bucket => exact le_max_left _ _
    · intro longest
      rw [found]
      exact le_max_right _ _
  dsimp only
  split_ifs with left
  · rw [Option.getD_some]
    omega
  · rw [Option.getD_none]
    omega

/-- The rest of a named scope's interval is within the wait that the check answers. -/
theorem interval_waited {engine : RateLimitEngine} {names : List String} (nowMs : Int)
    {name : String} (named : name ∈ names) {interval last : Int}
    (limited : (engine.scope name).minIntervalMs = some interval)
    (noted : (engine.scope name).lastRequestAtMs = some last) :
    interval ≤ max 0 (nowMs - last) + (engine.minIntervalRetryMs names nowMs).getD 0 := by
  unfold minIntervalRetryMs
  generalize answer : (List.foldl _ 0 names : Int) = longest
  have reached : interval - max 0 (nowMs - last) ≤ max 0 longest := by
    by_cases waiting : max 0 (nowMs - last) < interval
    · apply le_max_of_le_right
      rw [← answer]
      refine le_foldl_of_mem ?_ ?_ named 0
      · intro longest other
        split
        · dsimp only
          split_ifs
          · exact le_max_left _ _
          · exact le_refl longest
        · exact le_refl longest
      · intro longest
        simp only [limited, noted, if_pos waiting]
        exact le_max_right _ _
    · exact le_max_of_le_left (by omega)
  dsimp only
  split_ifs with left
  · rw [Option.getD_some]
    omega
  · rw [Option.getD_none]
    omega

/-- No cooldown of a named bucket is left. -/
theorem cooldown_over {engine : RateLimitEngine} {names : List String} {nowMs : Int}
    (checked : engine.cooldownRetryMs names nowMs = none) {name : String} (named : name ∈ names)
    {bucket : BucketState} (found : engine.bucket name = some bucket) :
    bucket.cooldownUntilMs ≤ nowMs := by
  have waited := cooldown_waited nowMs named found
  rwa [checked, Option.getD_none, add_zero] at waited

/-- A passed interval check has no listed interval left. -/
theorem interval_passed {engine : RateLimitEngine} {names : List String} {nowMs : Int}
    (checked : engine.minIntervalRetryMs names nowMs = none) {name : String} (named : name ∈ names)
    {interval last : Int} (limited : (engine.scope name).minIntervalMs = some interval)
    (noted : (engine.scope name).lastRequestAtMs = some last) :
    interval ≤ max 0 (nowMs - last) := by
  have waited := interval_waited nowMs named limited noted
  rwa [checked, Option.getD_none, add_zero] at waited

/-- Every admitted call has passed its checks. -/
theorem admitted_passed {engine : RateLimitEngine} {events : List EngineEvent}
    {call : AdmittedCall} (admitted : call ∈ engine.admitted events) :
    call.engine.Passed call.names call.weight call.nowMs := by
  induction events generalizing engine with
  | nil => simp [RateLimitEngine.admitted] at admitted
  | cons event rest ih =>
      rw [RateLimitEngine.admitted, List.mem_append] at admitted
      rcases admitted with here | later
      · rcases admitted_call_cases (Option.mem_toList.mp here) with ⟨same, -, passed⟩
        rw [same]
        exact passed
      · exact ih later

/-- A step keeps the interval of every scope. -/
theorem step_interval (engine : RateLimitEngine) (event : EngineEvent) (name : String) :
    ((engine.step event).scope name).minIntervalMs = (engine.scope name).minIntervalMs := by
  cases event with
  | cooldown names retryAfterMs nowMs =>
      exact (engine.quiet_cooldown names retryAfterMs nowMs 0 name).interval
  | backoff names nowMs => exact (engine.quiet_backoff names nowMs 0 name).interval
  | consume names weight nowMs =>
      by_cases admitted : (engine.tryConsumeScopes names weight nowMs).2 = none
      · exact (consume_passed admitted).minInterval name
      · rw [step]
        rcases consume_refused admitted with same | refilled
        · rw [same]
        · rw [refilled]
          exact (engine.quiet_refill_scopes names weight (le_refl nowMs) name).interval

/-- A step notes an admitted request of a scope with an interval, and otherwise
keeps the noted time. -/
theorem step_last (engine : RateLimitEngine) (event : EngineEvent) {name : String}
    {interval : Int} (limited : (engine.scope name).minIntervalMs = some interval) :
    ((engine.step event).scope name).lastRequestAtMs = (engine.scope name).lastRequestAtMs ∧
        (∀ call ∈ engine.admittedCall event, name ∉ call.names) ∨
      ∃ call ∈ engine.admittedCall event, name ∈ call.names ∧
        ((engine.step event).scope name).lastRequestAtMs = some call.nowMs := by
  cases event with
  | cooldown names retryAfterMs nowMs =>
      exact Or.inl ⟨(engine.quiet_cooldown names retryAfterMs nowMs 0 name).last, by simp [admittedCall]⟩
  | backoff names nowMs =>
      exact Or.inl ⟨(engine.quiet_backoff names nowMs 0 name).last, by simp [admittedCall]⟩
  | consume names weight nowMs =>
      by_cases admitted : (engine.tryConsumeScopes names weight nowMs).2 = none
      · have passed := consume_passed admitted
        by_cases named : name ∈ names
        · refine Or.inr ⟨⟨engine, names, weight, nowMs⟩, ?_, named, passed.last named limited⟩
          simp [admittedCall, admitted]
        · refine Or.inl ⟨(passed.quiet (le_refl nowMs) named).last, ?_⟩
          simp [admittedCall, admitted, named]
      · refine Or.inl ⟨?_, by simp [admittedCall, admitted]⟩
        rw [step]
        rcases consume_refused admitted with same | refilled
        · rw [same]
        · rw [refilled]
          exact (engine.quiet_refill_scopes names weight (le_refl nowMs) name).last

/-- Once a request of a scope is noted, every later admitted one waits for the interval. -/
theorem admitted_waits {events : List EngineEvent} {engine : RateLimitEngine} {name : String}
    {interval last : Int} (limited : (engine.scope name).minIntervalMs = some interval)
    (noted : (engine.scope name).lastRequestAtMs = some last)
    (ordered : (consumeTimes events).Pairwise (· ≤ ·))
    (after : ∀ time ∈ consumeTimes events, last ≤ time)
    {call : AdmittedCall} (admitted : call ∈ engine.admitted events) (named : name ∈ call.names) :
    last + interval ≤ call.nowMs := by
  induction events generalizing engine last with
  | nil => simp [RateLimitEngine.admitted] at admitted
  | cons event rest ih =>
      have timed := after _ (admitted_times admitted)
      rw [RateLimitEngine.admitted, List.mem_append] at admitted
      rw [consume_times_cons, List.pairwise_append] at ordered
      rcases ordered with ⟨-, orderedRest, afterEvent⟩
      have limitedNext := (engine.step_interval event name).trans limited
      rcases admitted with here | later
      · rcases admitted_call_cases (Option.mem_toList.mp here) with ⟨-, -, passed⟩
        have waited := interval_passed passed.interval named limited noted
        omega
      · rcases engine.step_last event limited with ⟨kept, -⟩ | ⟨earlier, request, -, notedNow⟩
        · refine ih limitedNext (kept.trans noted) orderedRest ?_ later
          intro time inRest
          exact after time (by simp [consume_times_cons, inRest])
        · -- The wait counts from the newer request, which is no earlier.
          rcases admitted_call_cases request with ⟨-, rfl, -⟩
          have waits := ih limitedNext notedNow orderedRest
            (afterEvent _ (by simp [EngineEvent.consumeTime])) later
          have newer := after earlier.nowMs (by simp [consume_times_cons, EngineEvent.consumeTime])
          omega

/-- Two admitted calls of a scope with an interval lie at least the interval apart. -/
theorem admitted_apart (events : List EngineEvent) (engine : RateLimitEngine)
    (ordered : (consumeTimes events).Pairwise (· ≤ ·)) :
    (engine.admitted events).Pairwise (fun earlier later => ∀ name ∈ earlier.names,
      name ∈ later.names → ∀ interval, (engine.scope name).minIntervalMs = some interval →
        earlier.nowMs + interval ≤ later.nowMs) := by
  induction events generalizing engine with
  | nil => exact List.Pairwise.nil
  | cons event rest ih =>
      rw [consume_times_cons, List.pairwise_append] at ordered
      rcases ordered with ⟨-, orderedRest, afterEvent⟩
      have apart := ih (engine.step event) orderedRest
      simp only [step_interval] at apart
      rw [RateLimitEngine.admitted, List.pairwise_append]
      refine ⟨?_, apart, ?_⟩
      · cases engine.admittedCall event with
        | none => exact List.Pairwise.nil
        | some call => exact List.pairwise_singleton _ _
      · intro earlier request later admitted name named namedLater interval limited
        have request := Option.mem_toList.mp request
        have noted : ((engine.step event).scope name).lastRequestAtMs = some earlier.nowMs := by
          rcases engine.step_last event limited with ⟨-, unnamed⟩ | ⟨call, same, -, noted⟩
          · exact absurd named (unnamed earlier request)
          · rw [Option.mem_unique same request] at noted
            exact noted
        rcases admitted_call_cases request with ⟨-, rfl, -⟩
        exact admitted_waits ((engine.step_interval _ name).trans limited) noted orderedRest
          (afterEvent _ (by simp [EngineEvent.consumeTime])) admitted namedLater

/-! ## Configured engines -/

/-- Every bucket is full. -/
def Full (engine : RateLimitEngine) : Prop :=
  ∀ name bucket, engine.bucket name = some bucket → bucket.tokens = bucket.capacity

theorem full_scope_mut {engine : RateLimitEngine} (full : engine.Full) (name : String)
    {change : ScopeState → ScopeState}
    (fills : ∀ state bucket, (change state).bucket = some bucket →
      state.bucket = some bucket ∨ bucket.tokens = bucket.capacity) :
    (engine.scopeMut name change).Full := by
  intro other bucket found
  rw [RateLimitEngine.bucket, scope_mut] at found
  split_ifs at found with here
  · rcases fills _ bucket found with old | filled
    · exact full name bucket old
    · exact filled
  · exact full other bucket found

theorem full_register {engine : RateLimitEngine} (full : engine.Full)
    (registration : Registration) : (engine.register registration).Full := by
  cases registration with
  | bucket name budgetPerMinute capacity refillPerSec =>
      apply full_scope_mut full
      intro state bucket found
      cases found
      exact Or.inr rfl
  | weight name weight => exact full_scope_mut full name (fun _ _ => Or.inl)
  | minInterval name intervalMs => exact full_scope_mut full name (fun _ _ => Or.inl)

theorem full_configured (windowSecs : Int) (margin : ℚ) (registrations : List Registration) :
    (configured windowSecs margin registrations).Full := by
  have fresh : (create windowSecs margin).Full := by
    intro name bucket found
    simp [RateLimitEngine.bucket, scope, create] at found
  unfold configured
  generalize create windowSecs margin = engine at fresh
  induction registrations generalizing engine with
  | nil => exact fresh
  | cons registration rest ih =>
      exact ih _ (full_register fresh registration)

/-- In a run with ordered times and positive weights, the weight admitted to a
bucket in a window is at most its capacity, the window's refill and the slack of
each admitted call; and no call is admitted during a cooldown or before the
interval since an earlier admitted call of one of its scopes is over. -/
theorem admission_bound (windowSecs : Int) (margin : ℚ) (registrations : List Registration)
    (events : List EngineEvent)
    (positive : ∀ name bucket, (configured windowSecs margin registrations).bucket name = some bucket →
      0 < bucket.capacity ∧ 0 < bucket.refillPerMs)
    (ordered : (consumeTimes events).Pairwise (· ≤ ·)) (weights : PositiveWeights events) :
    let engine := configured windowSecs margin registrations
    (∀ name bucket start finish, engine.bucket name = some bucket → start ≤ finish →
      totalWeight (engine.callsWithin events name start finish) ≤
        bucket.capacity + bucket.refillPerMs * (finish - start : Int) +
          (engine.callsWithin events name start finish).length * (1 / 10 ^ 9)) ∧
    (∀ call ∈ engine.admitted events, ∀ name ∈ call.names, ∀ bucket,
      call.engine.bucket name = some bucket → bucket.cooldownUntilMs ≤ call.nowMs) ∧
    (engine.admitted events).Pairwise (fun earlier later => ∀ name ∈ earlier.names,
      name ∈ later.names → ∀ interval, (engine.scope name).minIntervalMs = some interval →
        earlier.nowMs + interval ≤ later.nowMs) := by
  intro engine
  refine ⟨?_, ?_, engine.admitted_apart events ordered⟩
  · intro name bucket start finish found window
    rcases positive name bucket found with ⟨capacity, rate⟩
    have full := full_configured windowSecs margin registrations name bucket found
    have healthy : bucket.Healthy := by
      refine ⟨rate, ?_, full.le⟩
      rw [view_tokens, full]
      exact capacity.le
    have spent : totalWeight (engine.callsWithin events name start finish) ≤
        bucket.allowance start finish +
          (engine.callsWithin events name start finish).length * admissionSlack :=
      engine.run_spending_le events found healthy ordered weights
    have windowTime : (start : ℚ) ≤ finish := by exact_mod_cast window
    have allowed : bucket.allowance start finish ≤
        bucket.capacity + (finish - start) * bucket.refillPerMs :=
      TokenBucket.allowance_le rate.le healthy.bounded windowTime
    rw [admissionSlack] at spent
    push_cast
    linarith
  · intro call admitted name named bucket found
    exact cooldown_over (admitted_passed admitted).cooldown named found

/-- Two requests of a host scope, a second apart. -/
theorem admission_bound_spaced :
    let engine := configured 60 1 [.bucket "host:a" (some 60) none none, .minInterval "host:a" 500]
    let events := [EngineEvent.consume ["host:a"] 10 0, EngineEvent.consume ["host:a"] 10 1000]
    (engine.callsWithin events "host:a" 0 1000).length = 2 ∧
      totalWeight (engine.callsWithin events "host:a" 0 1000) ≤
        60 + 1 / 1000 * (1000 - 0 : Int) +
          (engine.callsWithin events "host:a" 0 1000).length * (1 / 10 ^ 9) := by
  intro engine events
  let bucket : BucketState := { capacity := 60, refillPerMs := 1 / 1000, tokens := 60 }
  have registered : engine.scopes.entries =
      [("host:a", { bucket := some bucket, minIntervalMs := some 500 })] := by decide +kernel
  have positive : ∀ name found, engine.bucket name = some found →
      0 < found.capacity ∧ 0 < found.refillPerMs := by
    intro name other found
    have lookup : engine.scopes.find? name = if "host:a" = name then
        some { bucket := some bucket, minIntervalMs := some 500 } else none := by
      rw [OrderedDict.find?, registered]
      rfl
    rw [RateLimitEngine.bucket, scope, lookup] at found
    split_ifs at found
    · cases found
      norm_num [bucket]
    · cases found
  have ordered : (consumeTimes events).Pairwise (· ≤ ·) := by decide
  have weights : PositiveWeights events := by
    intro names weight nowMs here
    rcases List.mem_pair.mp here with here | here
    · cases here
      norm_num
    · cases here
      norm_num
  have found : engine.bucket "host:a" = some bucket := by decide +kernel
  exact ⟨by decide +kernel,
    (admission_bound 60 1 _ events positive ordered weights).1 "host:a" bucket 0 1000 found
      (by decide)⟩

end RateLimitEngine

end LightFee.RateLimit
