import LightFee.Library.OrderedDict
import LightFee.Library.TokenBucket
import Mathlib.Algebra.Order.Ring.Rat
import Mathlib.Data.Int.Order.Basic
import Mathlib.Data.Rat.Floor

/-!
# The rate-limit engine

Scopes are the primary key. A scope has an optional token bucket, weight and
minimum interval. A request names its scopes: cooldowns are checked first, then
minimum intervals, then budgets, and only an accepted request spends tokens.
Tokens are exact rationals and times are whole milliseconds.
-/

namespace LightFee.RateLimit

inductive RateLimitErrorReason where
  | cooldown | minInterval | budgetExceeded
deriving DecidableEq, Repr

structure RateLimitError where
  reason : RateLimitErrorReason
  retryInMs : Int := 0
deriving DecidableEq, Repr

structure BucketState where
  capacity : ℚ
  refillPerMs : ℚ
  tokens : ℚ
  lastRefillMs : Int := 0
  cooldownUntilMs : Int := 0
deriving DecidableEq

structure ScopeState where
  bucket : Option BucketState := none
  weight : Option ℚ := none
  minIntervalMs : Option Int := none
  lastRequestAtMs : Option Int := none
  backoffFailures : Nat := 0
deriving DecidableEq

def defaultBackoffInitialMs : Nat := 1000
def defaultBackoffMaxMs : Nat := 8000
def defaultBudgetRetryMs : Int := 50

/-- The admission check forgives this many tokens. -/
def admissionSlack : ℚ := 1 / 10 ^ 9

structure RateLimitEngine where
  windowMs : ℚ := 60000
  margin : ℚ := 95 / 100
  scopes : OrderedDict String ScopeState := .empty
  backoffInitialMs : Nat := defaultBackoffInitialMs
  backoffMaxMs : Nat := defaultBackoffMaxMs

def BucketState.refill (bucket : BucketState) (nowMs : Int) : BucketState :=
  let elapsedMs := max 0 (nowMs - bucket.lastRefillMs)
  if elapsedMs ≤ 0 then bucket
  else { bucket with
    tokens := min bucket.capacity (bucket.tokens + elapsedMs * bucket.refillPerMs)
    lastRefillMs := nowMs }

namespace RateLimitEngine

/-- A new engine has no scopes. -/
def create (windowSecs : Int) (margin : ℚ) : RateLimitEngine :=
  { windowMs := (max windowSecs 1 : Int) * 1000, margin := margin }

/-! ## Scopes -/

def scope (engine : RateLimitEngine) (name : String) : ScopeState :=
  (engine.scopes.find? name).getD {}

/-- Change a scope, creating it if it is new. -/
def scopeMut (engine : RateLimitEngine) (name : String) (change : ScopeState → ScopeState) :
    RateLimitEngine :=
  { engine with scopes := engine.scopes.insert name (change (engine.scope name)) }

@[simp] theorem scope_mut (engine : RateLimitEngine) (name : String)
    (change : ScopeState → ScopeState) (other : String) :
    (engine.scopeMut name change).scope other =
      if name = other then change (engine.scope name) else engine.scope other := by
  unfold scopeMut scope
  rw [OrderedDict.find_insert]
  split_ifs <;> rfl

def bucket (engine : RateLimitEngine) (name : String) : Option BucketState :=
  (engine.scope name).bucket

/-! ## Registration -/

/-- A budget per minute is reduced by the margin once. -/
def registerBucket (engine : RateLimitEngine) (name : String) (budgetPerMinute : Option ℚ)
    (capacity : Option ℚ := none) (refillPerSec : Option ℚ := none) : RateLimitEngine :=
  let (full, rate) :=
    match budgetPerMinute, capacity with
    | some budget, _ =>
      let full := max (budget * engine.margin) 0
      (full, if 0 < engine.windowMs then full / engine.windowMs else 0)
    | none, some full => (full, refillPerSec.getD 0 / 1000)
    | none, none => (0, 0)
  engine.scopeMut name (fun state =>
    { state with bucket := some { capacity := full, refillPerMs := rate, tokens := full } })

def registerWeight (engine : RateLimitEngine) (name : String) (weight : ℚ) : RateLimitEngine :=
  engine.scopeMut name (fun state => { state with weight := some weight })

def registerMinInterval (engine : RateLimitEngine) (name : String) (intervalMs : Int) :
    RateLimitEngine :=
  engine.scopeMut name (fun state => { state with minIntervalMs := some intervalMs })

/-! ## Weights and intervals of a request -/

/-- The endpoint's weight, else its group's, else one. -/
def resolveWeight (engine : RateLimitEngine) (endpointScope : String)
    (groupScope : Option String) : ℚ :=
  match (engine.scope endpointScope).weight with
  | some weight => weight
  | none => (groupScope.bind (fun group => (engine.scope group).weight)).getD 1

/-- The first scope that is neither host, venue nor group is the endpoint; a group
with an endpoint part is preferred to a plain one. -/
def resolveWeightFromScopes (engine : RateLimitEngine) (names : List String) : ℚ :=
  let isGroup (name : String) : Bool := name.startsWith "group:"
  let endpointScope := (names.find? (fun name =>
    !(name.startsWith "host:" || name.startsWith "venue:" || isGroup name))).getD "request"
  let groupScope := (names.find? (fun name => isGroup name && 2 ≤ name.toList.count ':')).or
    (names.find? isGroup)
  engine.resolveWeight endpointScope groupScope

/-! ## Retry hints -/

def cooldownRetryMs (engine : RateLimitEngine) (names : List String) (nowMs : Int) : Option Int :=
  let longest := names.foldl (fun longest name =>
    match engine.bucket name with
    | none => longest
    | some bucket => max longest (bucket.cooldownUntilMs - nowMs)) 0
  if 0 < longest then some longest else none

def minIntervalRetryMs (engine : RateLimitEngine) (names : List String) (nowMs : Int) :
    Option Int :=
  let longest := names.foldl (fun longest name =>
    match (engine.scope name).minIntervalMs, (engine.scope name).lastRequestAtMs with
    | some interval, some last =>
      let elapsed := max 0 (nowMs - last)
      if elapsed < interval then max longest (interval - elapsed) else longest
    | _, _ => longest) 0
  if 0 < longest then some longest else none

def budgetRetryMs (bucket : BucketState) (weight : ℚ) : Int :=
  if bucket.refillPerMs ≤ 0 then defaultBudgetRetryMs
  else
    let missing := max (weight - bucket.tokens) 0
    if missing < admissionSlack then defaultBudgetRetryMs
    else
      let whole : Int := ⌊missing / bucket.refillPerMs⌋
      let rest := missing - whole * bucket.refillPerMs
      max (if admissionSlack < rest then whole + 1 else whole) 1

/-! ## Consumption -/

/-- Refill one scope and check its budget. -/
def refillScope (engine : RateLimitEngine) (name : String) (weight : ℚ) (nowMs : Int) :
    RateLimitEngine × Option RateLimitError :=
  match engine.bucket name with
  | none => (engine, none)
  | some bucket =>
    let refilled := bucket.refill nowMs
    (engine.scopeMut name (fun state => { state with bucket := some refilled }),
      if refilled.tokens + admissionSlack < weight then
        some { reason := .budgetExceeded, retryInMs := budgetRetryMs refilled weight }
      else none)

/-- Phase three: refill and check scope by scope, up to the first failure. -/
def refillScopes (engine : RateLimitEngine) (weight : ℚ) (nowMs : Int) :
    List String → RateLimitEngine × Option RateLimitError
  | [] => (engine, none)
  | name :: rest =>
    match engine.refillScope name weight nowMs with
    | (refilled, some error) => (refilled, some error)
    | (refilled, none) => refilled.refillScopes weight nowMs rest

/-- Deduct from one scope and note the time of the request. -/
def deduct (weight : ℚ) (nowMs : Int) (state : ScopeState) : ScopeState :=
  { state with
    bucket := state.bucket.map (fun bucket =>
      { bucket with tokens := max 0 (bucket.tokens - weight) })
    lastRequestAtMs := if state.minIntervalMs.isSome then some nowMs else state.lastRequestAtMs }

/-- Phase four. -/
def deductScopes (engine : RateLimitEngine) (names : List String) (weight : ℚ) (nowMs : Int) :
    RateLimitEngine :=
  names.foldl (fun current name => current.scopeMut name (deduct weight nowMs)) engine

/-- The engine after the request, and why it was refused if it was. -/
def tryConsumeScopes (engine : RateLimitEngine) (names : List String) (weight : ℚ) (nowMs : Int) :
    RateLimitEngine × Option RateLimitError :=
  match engine.cooldownRetryMs names nowMs with
  | some retry => (engine, some { reason := .cooldown, retryInMs := retry })
  | none =>
    match engine.minIntervalRetryMs names nowMs with
    | some retry => (engine, some { reason := .minInterval, retryInMs := retry })
    | none =>
      match engine.refillScopes weight nowMs names with
      | (refilled, some error) => (refilled, some error)
      | (refilled, none) => (refilled.deductScopes names weight nowMs, none)

/-- The bucket is a scope of its own request, whose weight its scopes resolve. -/
def tryConsumeList (engine : RateLimitEngine) (name : String) (others : List String) (nowMs : Int) :
    RateLimitEngine × Option RateLimitError :=
  let names := name :: others.filter (fun other => other ≠ name)
  engine.tryConsumeScopes names (engine.resolveWeightFromScopes names) nowMs

/-! ## Cooldown and backoff -/

/-- A cooldown never shortens an earlier one. -/
def coolScope (untilMs : Int) (state : ScopeState) : ScopeState :=
  { state with bucket := state.bucket.map (fun bucket =>
      { bucket with cooldownUntilMs := max bucket.cooldownUntilMs untilMs }) }

def applyCooldown (engine : RateLimitEngine) (names : List String) (retryAfterMs nowMs : Int) :
    RateLimitEngine :=
  names.foldl (fun current name => current.scopeMut name (coolScope (nowMs + retryAfterMs))) engine

def failureBackoffMs (engine : RateLimitEngine) (failures : Nat) : Nat :=
  min (engine.backoffInitialMs <<< min failures 20) engine.backoffMaxMs

/-- One scope's exponential backoff and its delay. -/
def backoffScope (engine : RateLimitEngine) (name : String) (nowMs : Int) : RateLimitEngine × Nat :=
  let state := engine.scope name
  match state.bucket with
  | none => (engine.scopeMut name id, 0)
  | some _ =>
    let delayMs := engine.failureBackoffMs state.backoffFailures
    (engine.scopeMut name (fun state =>
      { coolScope (nowMs + delayMs) state with backoffFailures := state.backoffFailures + 1 }),
      delayMs)

/-- The longest delay is returned. -/
def applyBackoff (engine : RateLimitEngine) (names : List String) (nowMs : Int) :
    RateLimitEngine × Nat :=
  names.foldl (fun (current, longest) name =>
    ((current.backoffScope name nowMs).1, max longest (current.backoffScope name nowMs).2))
    (engine, 0)

end RateLimitEngine

end LightFee.RateLimit
