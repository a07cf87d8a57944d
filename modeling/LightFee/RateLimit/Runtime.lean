import LightFee.RateLimit.Admission

/-!
# The rate-limit runtime

The runtime owns one engine, built from the configuration. A reload of a changed configuration
builds a new engine. A rate limit that an exchange reports is a cooldown of the scopes of the
request when the exchange says how long it lasts, and else a backoff, which is each scope's own and
grows with its failures. The longest of them is returned.
-/

namespace LightFee.RateLimit

/-! ## The configuration -/

structure RateLimitHostConfig where
  budgetPerMinute : Option Int := none
  minIntervalMs : Option Int := none

structure RateLimitVenueConfig where
  budgetPerMinute : Option Int := none
  minIntervalMs : Option Int := none
  wsBudgetPerMinute : Option Int := none
  endpointWeights : OrderedDict String Int := .empty
  groupWeights : OrderedDict String Int := .empty
  endpointMinIntervalMs : OrderedDict String Int := .empty
  groupMinIntervalMs : OrderedDict String Int := .empty
  /-- `docs_fallback` -/
  docsFallback : RateLimitHostConfig := {}

structure RateLimitConfig where
  defaultMargin : ℚ := 95 / 100
  hosts : OrderedDict String RateLimitHostConfig := .empty
  venues : OrderedDict String RateLimitVenueConfig := .empty

/-- `value or fallback`: zero is no value. -/
def orFallback (value fallback : Option Int) : Option Int :=
  match value with
  | some number => if number ≠ 0 then some number else fallback
  | none => fallback

/-- A host without a budget is left out. -/
def hostRegistrations (hostId : String) (host : RateLimitHostConfig) : List Registration :=
  match host.budgetPerMinute with
  | none => []
  | some budget =>
    .bucket ("host:" ++ hostId) (some budget) none none ::
      (host.minIntervalMs.map (Registration.minInterval ("host:" ++ hostId))).toList

/-- A venue without a budget of its own or from the documents is left out. -/
def venueRegistrations (venueId : String) (venue : RateLimitVenueConfig) : List Registration :=
  match orFallback venue.budgetPerMinute venue.docsFallback.budgetPerMinute with
  | none => []
  | some budget =>
    let interval := orFallback venue.minIntervalMs venue.docsFallback.minIntervalMs
    let ownGroup (group : String) : String := "group:" ++ venueId ++ ":" ++ group
    .bucket ("venue:" ++ venueId) (some budget) none none ::
      (interval.map (Registration.minInterval ("venue:" ++ venueId))).toList ++
      venue.endpointWeights.entries.map (fun entry => .weight entry.1 entry.2) ++
      venue.groupWeights.entries.flatMap (fun entry =>
        [.weight ("group:" ++ entry.1) entry.2, .weight (ownGroup entry.1) entry.2]) ++
      venue.endpointMinIntervalMs.entries.map (fun entry => .minInterval entry.1 entry.2) ++
      venue.groupMinIntervalMs.entries.flatMap (fun entry =>
        [.minInterval ("group:" ++ entry.1) entry.2, .minInterval (ownGroup entry.1) entry.2]) ++
      (match venue.wsBudgetPerMinute with
        | some wsBudget =>
          if 0 < wsBudget then ["ws_public", "ws_private"].map (fun wsGroup =>
            .bucket (ownGroup wsGroup) (some wsBudget) none none)
          else []
        | none => [])

/-- `_build_engine_from_config`. -/
def buildEngineFromConfig (config : RateLimitConfig) : RateLimitEngine :=
  RateLimitEngine.configured 60 config.defaultMargin
    (config.hosts.entries.flatMap (fun entry => hostRegistrations entry.1 entry.2) ++
      config.venues.entries.flatMap (fun entry => venueRegistrations entry.1 entry.2))

/-! ## The runtime -/

structure RateLimitRuntime where
  engine : RateLimitEngine

namespace RateLimitRuntime

/-- `record_rate_limit_for_scopes` and what it returns. -/
def recordRateLimitForScopes (runtime : RateLimitRuntime) (names : List String)
    (retryAfterMs nowMs : Int) : RateLimitRuntime × Int :=
  if 0 < retryAfterMs then (⟨runtime.engine.applyCooldown names retryAfterMs nowMs⟩, retryAfterMs)
  else
    let (engine, delayMs) := runtime.engine.applyBackoff names nowMs
    (⟨engine⟩, delayMs)

/-- `refresh`, with the configuration that was read if it had changed. -/
def refresh (runtime : RateLimitRuntime) (reloaded : Option RateLimitConfig) : RateLimitRuntime :=
  match reloaded with
  | none => runtime
  | some config => ⟨buildEngineFromConfig config⟩

/-- One attempt of `wait_until_ready_for_scopes`. -/
def attempt (runtime : RateLimitRuntime) (names : List String) (weightOverride : Option ℚ)
    (nowMs : Int) : RateLimitRuntime × Option RateLimitError :=
  let weight := weightOverride.getD (runtime.engine.resolveWeightFromScopes names)
  let (engine, refused) := runtime.engine.tryConsumeScopes names weight nowMs
  (⟨engine⟩, refused)

end RateLimitRuntime

inductive RuntimeEvent where
  | record (names : List String) (retryAfterMs nowMs : Int)
  | refresh (reloaded : Option RateLimitConfig)
  | attempt (names : List String) (weightOverride : Option ℚ) (nowMs : Int)

def RuntimeEvent.reloads : RuntimeEvent → Bool
  | .refresh reloaded => reloaded.isSome
  | _ => false

namespace RateLimitRuntime

def apply (runtime : RateLimitRuntime) : RuntimeEvent → RateLimitRuntime
  | .record names retryAfterMs nowMs =>
    (runtime.recordRateLimitForScopes names retryAfterMs nowMs).1
  | .refresh reloaded => runtime.refresh reloaded
  | .attempt names weightOverride nowMs => (runtime.attempt names weightOverride nowMs).1

def applyAll (runtime : RateLimitRuntime) (events : List RuntimeEvent) : RateLimitRuntime :=
  events.foldl apply runtime

/-- How long a rate limit that is reported keeps one of its scopes from being admitted: what the
exchange said, or the scope's own backoff, which doubles with each time the scope is named. -/
def imposedMs (runtime : RateLimitRuntime) (names : List String) (retryAfterMs : Int)
    (name : String) : Int :=
  if 0 < retryAfterMs then retryAfterMs
  else
    runtime.engine.failureBackoffMs
      ((runtime.engine.scope name).backoffFailures + (names.count name - 1))

end RateLimitRuntime

/-! ## A scope that is cooling -/

/-- The scope's bucket is not used before a time. -/
def ScopeState.Cooling (untilMs : Int) (state : ScopeState) : Prop :=
  ∃ bucket, state.bucket = some bucket ∧ untilMs ≤ bucket.cooldownUntilMs

namespace RateLimitEngine

variable {untilMs : Int}

theorem cooling_refill {state : ScopeState} (cooling : state.Cooling untilMs) (nowMs : Int) :
    (refillState nowMs state).Cooling untilMs := by
  obtain ⟨bucket, found, later⟩ := cooling
  refine ⟨bucket.refill nowMs, by simp [refillState, found], ?_⟩
  unfold BucketState.refill
  dsimp only
  split_ifs <;> exact later

theorem cooling_deduct {state : ScopeState} (cooling : state.Cooling untilMs) (weight : ℚ)
    (nowMs : Int) : (deduct weight nowMs state).Cooling untilMs := by
  obtain ⟨bucket, found, later⟩ := cooling
  exact ⟨{ bucket with tokens := max 0 (bucket.tokens - weight) }, by simp [deduct, found], later⟩

theorem cooling_cool {state : ScopeState} (cooling : state.Cooling untilMs) (otherMs : Int) :
    (coolScope otherMs state).Cooling untilMs := by
  obtain ⟨bucket, found, later⟩ := cooling
  exact ⟨{ bucket with cooldownUntilMs := max bucket.cooldownUntilMs otherMs },
    by simp [coolScope, found], later.trans (le_max_left _ _)⟩

theorem cooling_cooled {state : ScopeState} (configured : state.bucket.isSome = true) :
    (coolScope untilMs state).Cooling untilMs := by
  obtain ⟨bucket, found⟩ := Option.isSome_iff_exists.mp configured
  exact ⟨{ bucket with cooldownUntilMs := max bucket.cooldownUntilMs untilMs },
    by simp [coolScope, found], le_max_right _ _⟩

theorem cooling_iterate {change : ScopeState → ScopeState}
    (keeps : ∀ state, state.Cooling untilMs → (change state).Cooling untilMs) (count : Nat)
    {state : ScopeState} (cooling : state.Cooling untilMs) :
    (change^[count] state).Cooling untilMs := by
  induction count generalizing state with
  | zero => exact cooling
  | succ count ih =>
    rw [Function.iterate_succ_apply]
    exact ih (keeps state cooling)

/-- A request leaves a cooldown as it is. -/
theorem cooling_consume {engine : RateLimitEngine} {name : String}
    (cooling : (engine.scope name).Cooling untilMs) (names : List String) (weight : ℚ)
    (nowMs : Int) :
    ((engine.tryConsumeScopes names weight nowMs).1.scope name).Cooling untilMs := by
  have refilled : ((engine.refillScopes weight nowMs names).1.scope name).Cooling untilMs := by
    obtain same | same := refill_scopes_scope weight nowMs names engine name
    · rw [same]
      exact cooling
    · rw [same]
      exact cooling_refill cooling nowMs
  by_cases admitted : (engine.tryConsumeScopes names weight nowMs).2 = none
  · rw [(consume_passed admitted).scope]
    exact cooling_iterate (fun state held => cooling_deduct held weight nowMs) _ refilled
  · obtain same | same := consume_refused admitted
    · rw [same]
      exact cooling
    · rw [same]
      exact refilled

theorem cooling_applyCooldown {engine : RateLimitEngine} {name : String}
    (cooling : (engine.scope name).Cooling untilMs) (names : List String)
    (retryAfterMs nowMs : Int) :
    ((engine.applyCooldown names retryAfterMs nowMs).scope name).Cooling untilMs := by
  rw [applyCooldown, fold_scope_mut]
  exact cooling_iterate (fun state held => cooling_cool held _) _ cooling

theorem applyCooldown_cools {engine : RateLimitEngine} {names : List String} {name : String}
    (named : name ∈ names) (configured : (engine.bucket name).isSome = true)
    (retryAfterMs nowMs : Int) :
    ((engine.applyCooldown names retryAfterMs nowMs).scope name).Cooling (nowMs + retryAfterMs) := by
  obtain ⟨count, counted⟩ := Nat.exists_eq_succ_of_ne_zero (List.count_pos_iff.mpr named).ne'
  rw [applyCooldown, fold_scope_mut, counted, Function.iterate_succ_apply]
  exact cooling_iterate (fun state held => cooling_cool held _) _ (cooling_cooled configured)

/-! ## Backoffs -/

theorem backoff_scope_scope (engine : RateLimitEngine) (head : String) (nowMs : Int)
    (name : String) :
    (engine.backoffScope head nowMs).1.scope name =
      if head = name ∧ (engine.bucket head).isSome then
        { coolScope (nowMs + engine.failureBackoffMs (engine.scope head).backoffFailures)
            (engine.scope name) with
          backoffFailures := (engine.scope name).backoffFailures + 1 }
      else engine.scope name := by
  rw [backoffScope, bucket]
  dsimp only
  split
  · rename_i absent
    rw [scope_mut]
    by_cases same : head = name
    · subst same
      simp [absent]
    · simp [same]
  · rename_i found present
    rw [scope_mut]
    by_cases same : head = name
    · subst same
      simp [present]
    · simp [same]

theorem backoff_scope_delay (engine : RateLimitEngine) (head : String) (nowMs : Int) :
    (engine.backoffScope head nowMs).2 =
      if (engine.bucket head).isSome then
        engine.failureBackoffMs (engine.scope head).backoffFailures
      else 0 := by
  rw [backoffScope, bucket]
  dsimp only
  split
  · rename_i absent
    simp [absent]
  · rename_i found present
    simp [present]

@[simp] theorem backoff_scope_delays (engine : RateLimitEngine) (head : String) (nowMs : Int)
    (failures : Nat) :
    (engine.backoffScope head nowMs).1.failureBackoffMs failures =
      engine.failureBackoffMs failures := by
  rw [backoffScope]
  dsimp only
  split <;> rfl

theorem failureBackoffMs_mono (engine : RateLimitEngine) {fewer more : Nat} (ordered : fewer ≤ more) :
    engine.failureBackoffMs fewer ≤ engine.failureBackoffMs more := by
  rw [failureBackoffMs, failureBackoffMs, Nat.shiftLeft_eq, Nat.shiftLeft_eq]
  exact min_le_min_right _ (Nat.mul_le_mul_left _
    (Nat.pow_le_pow_right (by decide) (min_le_min_right _ ordered)))

/-- The fold of `apply_backoff`, from the longest delay so far. -/
def backoffAll (engine : RateLimitEngine) (longest : Nat) (names : List String) (nowMs : Int) :
    RateLimitEngine × Nat :=
  names.foldl (fun (current, longest) name =>
    ((current.backoffScope name nowMs).1, max longest (current.backoffScope name nowMs).2))
    (engine, longest)

@[simp] theorem backoffAll_cons (engine : RateLimitEngine) (longest : Nat) (head : String)
    (rest : List String) (nowMs : Int) :
    backoffAll engine longest (head :: rest) nowMs =
      backoffAll (engine.backoffScope head nowMs).1
        (max longest (engine.backoffScope head nowMs).2) rest nowMs := rfl

theorem le_backoffAll (engine : RateLimitEngine) (longest : Nat) (names : List String)
    (nowMs : Int) : longest ≤ (backoffAll engine longest names nowMs).2 := by
  induction names generalizing engine longest with
  | nil => exact le_refl longest
  | cons head rest ih =>
    exact (le_max_left _ _).trans (ih _ _)

theorem backoff_scope_configured (engine : RateLimitEngine) (head : String) (nowMs : Int)
    (name : String) :
    ((engine.backoffScope head nowMs).1.bucket name).isSome = (engine.bucket name).isSome := by
  rw [bucket, backoff_scope_scope, bucket]
  split_ifs
  · simp [coolScope, bucket]
  · rfl

theorem backoff_scope_failures {engine : RateLimitEngine} {name : String}
    (configured : (engine.bucket name).isSome = true) (head : String) (nowMs : Int) :
    ((engine.backoffScope head nowMs).1.scope name).backoffFailures =
      (engine.scope name).backoffFailures + [head].count name := by
  rw [backoff_scope_scope]
  by_cases same : head = name
  · subst same
    simp [configured]
  · simp [same]

theorem cooling_backoffScope {engine : RateLimitEngine} {name : String}
    (cooling : (engine.scope name).Cooling untilMs) (head : String) (nowMs : Int) :
    ((engine.backoffScope head nowMs).1.scope name).Cooling untilMs := by
  rw [backoff_scope_scope]
  split_ifs
  · exact cooling_cool cooling _
  · exact cooling

theorem cooling_backoffAll {engine : RateLimitEngine} {name : String}
    (cooling : (engine.scope name).Cooling untilMs) (longest : Nat) (names : List String)
    (nowMs : Int) : ((backoffAll engine longest names nowMs).1.scope name).Cooling untilMs := by
  induction names generalizing engine longest with
  | nil => exact cooling
  | cons head rest ih =>
    exact ih (cooling_backoffScope cooling head nowMs) _

/-- A named scope cools for its own last delay, which is no longer than the one returned. -/
theorem backoffAll_cools {engine : RateLimitEngine} {names : List String} {name : String}
    (named : name ∈ names) (configured : (engine.bucket name).isSome = true) (longest : Nat)
    (nowMs : Int) :
    ((backoffAll engine longest names nowMs).1.scope name).Cooling (nowMs +
        engine.failureBackoffMs ((engine.scope name).backoffFailures + (names.count name - 1))) ∧
      engine.failureBackoffMs ((engine.scope name).backoffFailures + (names.count name - 1)) ≤
        (backoffAll engine longest names nowMs).2 := by
  induction names generalizing engine longest with
  | nil => cases named
  | cons head rest ih =>
    have failures := backoff_scope_failures configured head nowMs
    by_cases later : name ∈ rest
    · have again : ((engine.backoffScope head nowMs).1.bucket name).isSome = true := by
        rw [backoff_scope_configured]
        exact configured
      have counted : (engine.scope name).backoffFailures + ((head :: rest).count name - 1) =
          ((engine.backoffScope head nowMs).1.scope name).backoffFailures + (rest.count name - 1) := by
        have positive := List.count_pos_iff.mpr later
        rw [failures, List.count_cons, List.count_singleton]
        omega
      have rested := ih later again
        (max longest (engine.backoffScope head nowMs).2)
      rw [backoff_scope_delays, ← counted] at rested
      exact rested
    · obtain rfl : name = head := (List.mem_cons.mp named).resolve_right later
      have once : (name :: rest).count name - 1 = 0 := by
        rw [List.count_cons_self, List.count_eq_zero_of_not_mem later]
      rw [once, Nat.add_zero, backoffAll_cons]
      constructor
      · apply cooling_backoffAll
        rw [backoff_scope_scope, if_pos ⟨rfl, configured⟩]
        exact cooling_cooled configured
      · refine le_trans ?_ (le_backoffAll _ _ _ _)
        rw [backoff_scope_delay, if_pos configured]
        exact le_max_right _ _

/-- What is returned is the longest so far or the delay of one of the scopes. -/
theorem backoffAll_reached (engine : RateLimitEngine) (longest : Nat) (names : List String)
    (nowMs : Int) :
    (backoffAll engine longest names nowMs).2 = longest ∨
      ∃ name ∈ names, (engine.bucket name).isSome = true ∧
        (backoffAll engine longest names nowMs).2 ≤ engine.failureBackoffMs
          ((engine.scope name).backoffFailures + (names.count name - 1)) := by
  induction names generalizing engine longest with
  | nil => exact Or.inl rfl
  | cons head rest ih =>
    rw [backoffAll_cons]
    obtain same | ⟨name, member, configured, reached⟩ := ih
      (engine.backoffScope head nowMs).1 (max longest (engine.backoffScope head nowMs).2)
    · rw [same, backoff_scope_delay]
      split_ifs with configured
      · obtain shorter | longer := le_total (engine.failureBackoffMs
            (engine.scope head).backoffFailures) longest
        · exact Or.inl (max_eq_left shorter)
        · refine Or.inr ⟨head, List.mem_cons_self, configured, ?_⟩
          rw [max_eq_right longer]
          exact failureBackoffMs_mono engine (Nat.le_add_right _ _)
      · exact Or.inl (Nat.max_zero longest)
    · rw [backoff_scope_configured] at configured
      refine Or.inr ⟨name, List.mem_cons_of_mem head member, configured, reached.trans ?_⟩
      have positive := List.count_pos_iff.mpr member
      rw [backoff_scope_delays, backoff_scope_failures configured]
      apply failureBackoffMs_mono
      simp only [List.count_cons, List.count_nil]
      omega

end RateLimitEngine

/-! ## Runs -/

namespace RateLimitRuntime

variable {untilMs : Int}

theorem cooling_apply {runtime : RateLimitRuntime} {name : String}
    (cooling : (runtime.engine.scope name).Cooling untilMs) {event : RuntimeEvent}
    (kept : event.reloads = false) : ((runtime.apply event).engine.scope name).Cooling untilMs := by
  cases event with
  | record names retryAfterMs nowMs =>
    rw [apply, recordRateLimitForScopes]
    split_ifs
    · exact RateLimitEngine.cooling_applyCooldown cooling names retryAfterMs nowMs
    · exact RateLimitEngine.cooling_backoffAll cooling 0 names nowMs
  | refresh reloaded =>
    cases reloaded with
    | none => exact cooling
    | some config => cases kept
  | attempt names weightOverride nowMs =>
    exact RateLimitEngine.cooling_consume cooling names _ nowMs

theorem cooling_applyAll {runtime : RateLimitRuntime} {name : String}
    (cooling : (runtime.engine.scope name).Cooling untilMs) {events : List RuntimeEvent}
    (kept : ∀ event ∈ events, event.reloads = false) :
    ((runtime.applyAll events).engine.scope name).Cooling untilMs := by
  induction events generalizing runtime with
  | nil => exact cooling
  | cons event events ih =>
    rw [List.forall_mem_cons] at kept
    exact ih (cooling_apply cooling kept.1) kept.2

/-- A reported rate limit cools each of its scopes that has a bucket. -/
theorem record_cools {runtime : RateLimitRuntime} {names : List String} {name : String}
    (named : name ∈ names) (configured : (runtime.engine.bucket name).isSome = true)
    (retryAfterMs nowMs : Int) :
    ((runtime.recordRateLimitForScopes names retryAfterMs nowMs).1.engine.scope name).Cooling
      (nowMs + runtime.imposedMs names retryAfterMs name) := by
  rw [recordRateLimitForScopes, imposedMs]
  split_ifs
  · exact RateLimitEngine.applyCooldown_cools named configured retryAfterMs nowMs
  · exact (RateLimitEngine.backoffAll_cools named configured 0 nowMs).1

/-- What is returned is the longest that is imposed on a scope with a bucket. -/
theorem imposed_le_returned {runtime : RateLimitRuntime} {names : List String} {name : String}
    (named : name ∈ names) (configured : (runtime.engine.bucket name).isSome = true)
    (retryAfterMs nowMs : Int) :
    runtime.imposedMs names retryAfterMs name ≤
        (runtime.recordRateLimitForScopes names retryAfterMs nowMs).2 ∧
      ∃ other ∈ names, (runtime.engine.bucket other).isSome = true ∧
        runtime.imposedMs names retryAfterMs other =
          (runtime.recordRateLimitForScopes names retryAfterMs nowMs).2 := by
  rw [recordRateLimitForScopes, imposedMs]
  split_ifs with given
  · exact ⟨le_refl _, name, named, configured, if_pos given⟩
  · have longest := (RateLimitEngine.backoffAll_cools named configured 0 nowMs).2
    refine ⟨Int.ofNat_le.mpr longest, ?_⟩
    obtain nothing | ⟨other, member, bucketed, reached⟩ :=
      RateLimitEngine.backoffAll_reached runtime.engine 0 names nowMs
    · refine ⟨name, named, configured, ?_⟩
      rw [nothing, Nat.le_zero] at longest
      rw [imposedMs, if_neg given, longest]
      exact congrArg Int.ofNat nothing.symm
    · refine ⟨other, member, bucketed, ?_⟩
      rw [imposedMs, if_neg given]
      exact congrArg Int.ofNat (le_antisymm
        (RateLimitEngine.backoffAll_cools member bucketed 0 nowMs).2 reached)

/-- While the configuration stays, a request with a scope that was named in a rate limit is not
admitted before what was imposed on that scope is over; the longest that was imposed is what the
report returned. -/
theorem cooldown_honoured {runtime : RateLimitRuntime} {names requested : List String}
    {name : String} {retryAfterMs reportedAtMs nowMs : Int} {between : List RuntimeEvent}
    {weightOverride : Option ℚ} (named : name ∈ names)
    (configured : (runtime.engine.bucket name).isSome = true)
    (kept : ∀ event ∈ between, event.reloads = false) (included : name ∈ requested)
    (admitted : (((runtime.recordRateLimitForScopes names retryAfterMs reportedAtMs).1.applyAll
      between).attempt requested weightOverride nowMs).2 = none) :
    reportedAtMs + runtime.imposedMs names retryAfterMs name ≤ nowMs ∧
      runtime.imposedMs names retryAfterMs name ≤
        (runtime.recordRateLimitForScopes names retryAfterMs reportedAtMs).2 ∧
      ∃ other ∈ names, (runtime.engine.bucket other).isSome = true ∧
        runtime.imposedMs names retryAfterMs other =
          (runtime.recordRateLimitForScopes names retryAfterMs reportedAtMs).2 := by
  refine ⟨?_, imposed_le_returned named configured retryAfterMs reportedAtMs⟩
  have reported := record_cools named configured retryAfterMs reportedAtMs
  obtain ⟨bucket, found, later⟩ := cooling_applyAll reported kept
  have waited := RateLimitEngine.cooldown_over
    (RateLimitEngine.consume_passed admitted).cooldown included found
  exact later.trans waited

/-- Two hosts with a budget of six hundred a minute. -/
def twoHosts : RateLimitConfig :=
  { hosts := (OrderedDict.empty.insert "a" { budgetPerMinute := some 600 }).insert "b"
      { budgetPerMinute := some 600 } }

def started : RateLimitRuntime := ⟨buildEngineFromConfig twoHosts⟩

/-- The first host has failed twice. -/
def failedTwice : RateLimitRuntime :=
  started.applyAll [.record ["host:a"] 0 0, .record ["host:a"] 0 5000]

/-- The second host is admitted after its own backoff of one second, while the report of both
hosts returned four; and a reload forgets a cooldown. -/
theorem backoff_shorter_than_returned :
    ((failedTwice.recordRateLimitForScopes ["host:a", "host:b"] 0 10000).2 = 4000 ∧
        ((failedTwice.recordRateLimitForScopes ["host:a", "host:b"] 0 10000).1.attempt ["host:b"]
          (some 1) 11000).2 = none) ∧
      (started.recordRateLimitForScopes ["host:a"] 60000 0).2 = 60000 ∧
      (((started.recordRateLimitForScopes ["host:a"] 60000 0).1.refresh (some twoHosts)).attempt
        ["host:a"] (some 1) 1000).2 = none := by
  refine ⟨⟨by decide +kernel, by decide +kernel⟩, by decide +kernel, by decide +kernel⟩

/-- A host waits out its cooldown. -/
theorem cooldown_honoured_host :
    (((started.recordRateLimitForScopes ["host:a"] 60000 0).1.applyAll
        [.attempt ["host:a"] (some 1) 1000]).attempt ["host:a"] (some 1) 60000).2 = none ∧
      0 + started.imposedMs ["host:a"] 60000 "host:a" ≤ 60000 ∧
      started.imposedMs ["host:a"] 60000 "host:a" ≤
        (started.recordRateLimitForScopes ["host:a"] 60000 0).2 ∧
      ∃ other ∈ ["host:a"], (started.engine.bucket other).isSome = true ∧
        started.imposedMs ["host:a"] 60000 other =
          (started.recordRateLimitForScopes ["host:a"] 60000 0).2 := by
  have admitted : (((started.recordRateLimitForScopes ["host:a"] 60000 0).1.applyAll
      [.attempt ["host:a"] (some 1) 1000]).attempt ["host:a"] (some 1) 60000).2 = none := by
    decide +kernel
  exact ⟨admitted, cooldown_honoured List.mem_cons_self (by decide +kernel)
    (by simp [RuntimeEvent.reloads]) List.mem_cons_self admitted⟩

end RateLimitRuntime

end LightFee.RateLimit
