import LightFee.MarketData.LocalL2Runtime

/-!
# Pools, leases and assignments

The runtime assigns a pool to each venue and symbol, and says so in three places: the assignment,
the book's own pool, and for the pools of execution a lease that has to be kept up. A lease is
dropped with its book or when it expires, but not when its assignment is replaced.
-/

namespace LightFee.MarketData

inductive L2PoolAssignment where
  | hotExec | warm | retained | dropped
deriving DecidableEq, Repr

/-- The pools that are assigned with a lease. -/
def L2PoolAssignment.isLeased (pool : L2PoolAssignment) : Bool :=
  pool = .hotExec || pool = .warm

structure AssignmentLease where
  venue : String
  symbol : String
  pool : L2PoolAssignment
  grantedAtMs : Int
  ttlMs : Int
  priority : Int := 0
deriving DecidableEq, Repr

/-- A lease without a time to live never expires. -/
def AssignmentLease.isExpired (lease : AssignmentLease) (nowMs : Int) : Bool :=
  if lease.ttlMs ≤ 0 then false else lease.ttlMs < nowMs - lease.grantedAtMs

/-- A book with the pool that is written on it. -/
structure PooledBook where
  book : LocalL2Book
  pool : L2PoolAssignment := .dropped

/-- The part of the runtime that assigns pools. -/
structure PoolRuntime where
  books : OrderedDict LocalL2BookKey PooledBook := .empty
  assignments : OrderedDict LocalL2BookKey L2PoolAssignment := .empty
  leases : OrderedDict LocalL2BookKey AssignmentLease := .empty
  assignmentLeasePreservedTotal : Nat := 0
  assignmentLeaseExpiredTotal : Nat := 0
  defaultLeaseTtlMs : Int := 90000

namespace PoolRuntime

/-! ## The operations -/

/-- `ensure_book`: a new book is dropped until it is assigned. -/
def ensureBook (runtime : PoolRuntime) (venue symbol : String) : PoolRuntime :=
  let key : LocalL2BookKey := ⟨venue, symbol⟩
  match runtime.books.find? key with
  | some _ => runtime
  | none =>
    { runtime with
      books := runtime.books.insert key { book := freshBook venue symbol }
      assignments := runtime.assignments.insert key .dropped }

/-- The pool is written on the book, if there is one. -/
def setPool (runtime : PoolRuntime) (key : LocalL2BookKey) (pool : L2PoolAssignment) :
    PoolRuntime :=
  match runtime.books.find? key with
  | none => runtime
  | some pooled => { runtime with books := runtime.books.insert key { pooled with pool := pool } }

def assign (runtime : PoolRuntime) (venue symbol : String) (pool : L2PoolAssignment)
    (nowMs priority : Int) : PoolRuntime :=
  let key : LocalL2BookKey := ⟨venue, symbol⟩
  let assigned := { runtime with assignments := runtime.assignments.insert key pool }
  let leased :=
    if pool.isLeased then
      { assigned with
        leases := assigned.leases.insert key ⟨venue, symbol, pool, nowMs,
          runtime.defaultLeaseTtlMs, priority⟩ }
    else assigned
  leased.setPool key pool

def preserveLease (runtime : PoolRuntime) (venue symbol : String) (nowMs : Int) :
    PoolRuntime × Bool :=
  let key : LocalL2BookKey := ⟨venue, symbol⟩
  match runtime.leases.find? key with
  | none => (runtime, false)
  | some lease =>
    ({ runtime with
        leases := runtime.leases.insert key { lease with grantedAtMs := nowMs }
        assignmentLeasePreservedTotal := runtime.assignmentLeasePreservedTotal + 1 }, true)

/-- What an expired lease does to its assignment. -/
def expireLease (runtime : PoolRuntime) (key : LocalL2BookKey) : PoolRuntime :=
  let demoted :=
    { runtime with assignments := runtime.assignments.insert key .dropped }.setPool key .dropped
  { demoted with
    leases := demoted.leases.erase key
    assignmentLeaseExpiredTotal := demoted.assignmentLeaseExpiredTotal + 1 }

/-- The leases that have expired, in the order in which they were first granted. -/
def expiredKeys (runtime : PoolRuntime) (nowMs : Int) : List LocalL2BookKey :=
  (runtime.leases.entries.filter (fun entry => entry.2.isExpired nowMs)).map Prod.fst

def expireStaleLeases (runtime : PoolRuntime) (nowMs : Int) : PoolRuntime × List LocalL2BookKey :=
  ((runtime.expiredKeys nowMs).foldl expireLease runtime, runtime.expiredKeys nowMs)

def removeBook (runtime : PoolRuntime) (venue symbol : String) : PoolRuntime :=
  let key : LocalL2BookKey := ⟨venue, symbol⟩
  { runtime with
    books := runtime.books.erase key
    assignments := runtime.assignments.erase key
    leases := runtime.leases.erase key }

/-! ## Pruning -/

inductive PruneReason where
  | droppedUntracked | retainedExpired | retainedOverBudget
deriving DecidableEq, Repr

/-- How long and how many retained books are kept. -/
structure PruneLimits where
  retainedMaxAgeMs : Int := 300000
  retainedGlobalLimit : Int := 128
  retainedPerVenueLimit : Int := 32

/-- A retained book with the time it was last observed. -/
abbrev Candidate := Int × LocalL2BookKey

/-- What the first loop finds for one book: a reason, or a candidate for the budget. -/
def pruneBook (runtime : PoolRuntime) (nowMs : Int) (limits : PruneLimits)
    (key : LocalL2BookKey) (pooled : PooledBook) : Option (PruneReason ⊕ Candidate) :=
  match (runtime.assignments.find? key).getD pooled.pool with
  | .dropped => some (.inl .droppedUntracked)
  | .retained =>
    let observedAtMs := pooled.book.observedAtMs
    let ageMs := if 0 < observedAtMs then nowMs - observedAtMs else limits.retainedMaxAgeMs + 1
    if limits.retainedMaxAgeMs < ageMs then some (.inl .retainedExpired)
    else some (.inr (observedAtMs, key))
  | _ => none

/-- Later observations first, then by venue and symbol. -/
def candidateBefore (first second : Candidate) : Bool :=
  second.1 < first.1 || (first.1 = second.1 &&
    (first.2.venue < second.2.venue ||
      (first.2.venue = second.2.venue && first.2.symbol ≤ second.2.symbol)))

def keyBefore (first second : LocalL2BookKey × PruneReason) : Bool :=
  first.1.venue < second.1.venue ||
    (first.1.venue = second.1.venue && first.1.symbol ≤ second.1.symbol)

/-- The candidates that the budget does not hold. -/
def overBudget (limits : PruneLimits) :
    Int → (String → Int) → List Candidate → List LocalL2BookKey
  | _, _, [] => []
  | globalCount, venueCount, (_, key) :: rest =>
    if globalCount < limits.retainedGlobalLimit ∧ venueCount key.venue < limits.retainedPerVenueLimit
    then overBudget limits (globalCount + 1)
      (Function.update venueCount key.venue (venueCount key.venue + 1)) rest
    else key :: overBudget limits globalCount venueCount rest

/-- The books to remove, with their reasons, in the order in which they are removed. -/
def pruneReasons (runtime : PoolRuntime) (tracked : List LocalL2BookKey) (nowMs : Int)
    (limits : PruneLimits) : List (LocalL2BookKey × PruneReason) :=
  let found := (runtime.books.entries.filter (fun entry => decide (entry.1 ∉ tracked))).filterMap
    (fun entry => (pruneBook runtime nowMs limits entry.1 entry.2).map (fun verdict =>
      (entry.1, verdict)))
  let removed := found.filterMap (fun entry => entry.2.getLeft?.map (fun reason => (entry.1, reason)))
  let candidates := (found.filterMap (fun entry => entry.2.getRight?)).mergeSort candidateBefore
  let rejected := (overBudget limits 0 (fun _ => 0) candidates).map (fun key =>
    (key, PruneReason.retainedOverBudget))
  (removed ++ rejected).mergeSort keyBefore

def pruneUntrackedBooks (runtime : PoolRuntime) (tracked : List LocalL2BookKey) (nowMs : Int)
    (limits : PruneLimits) : PoolRuntime × List (LocalL2BookKey × PruneReason) :=
  let pruned := runtime.pruneReasons tracked nowMs limits
  (pruned.foldl (fun current entry => current.removeBook entry.1.venue entry.1.symbol) runtime,
    pruned)

end PoolRuntime

/-! ## Runs -/

/-- What happens to the runtime. Whatever else is done to a book leaves its pool alone. -/
inductive PoolOp where
  | ensureBook (venue symbol : String)
  | assign (venue symbol : String) (pool : L2PoolAssignment) (nowMs priority : Int)
  | preserveLease (venue symbol : String) (nowMs : Int)
  | expireStaleLeases (nowMs : Int)
  | removeBook (venue symbol : String)
  | pruneUntrackedBooks (tracked : List LocalL2BookKey) (nowMs : Int)
      (limits : PoolRuntime.PruneLimits)
  | feed (venue symbol : String) (book : LocalL2Book)

namespace PoolRuntime

/-- An existing book has new content. -/
def feed (runtime : PoolRuntime) (venue symbol : String) (book : LocalL2Book) : PoolRuntime :=
  match runtime.books.find? ⟨venue, symbol⟩ with
  | none => runtime
  | some pooled =>
    { runtime with books := runtime.books.insert ⟨venue, symbol⟩ { pooled with book := book } }

def apply (runtime : PoolRuntime) : PoolOp → PoolRuntime
  | .ensureBook venue symbol => runtime.ensureBook venue symbol
  | .assign venue symbol pool nowMs priority => runtime.assign venue symbol pool nowMs priority
  | .preserveLease venue symbol nowMs => (runtime.preserveLease venue symbol nowMs).1
  | .expireStaleLeases nowMs => (runtime.expireStaleLeases nowMs).1
  | .removeBook venue symbol => runtime.removeBook venue symbol
  | .pruneUntrackedBooks tracked nowMs limits =>
    (runtime.pruneUntrackedBooks tracked nowMs limits).1
  | .feed venue symbol book => runtime.feed venue symbol book

/-- The operation sets the assignment of a key. -/
def sets (runtime : PoolRuntime) (op : PoolOp) (key : LocalL2BookKey) : Bool :=
  match op with
  | .ensureBook venue symbol => key = ⟨venue, symbol⟩ && (runtime.books.find? key).isNone
  | .assign venue symbol _ _ _ => key = ⟨venue, symbol⟩
  | .expireStaleLeases nowMs => key ∈ runtime.expiredKeys nowMs
  | _ => false

/-- The operation grants a lease for a key. -/
def grants (op : PoolOp) (key : LocalL2BookKey) : Bool :=
  match op with
  | .assign venue symbol pool _ _ => key = ⟨venue, symbol⟩ && pool.isLeased
  | _ => false

/-- A lease stands for an assignment to its own pool, and every book's pool is its assignment. -/
structure Consistent (runtime : PoolRuntime) : Prop where
  leased : ∀ key lease, runtime.leases.find? key = some lease →
    lease.pool.isLeased = true ∧ runtime.assignments.find? key = some lease.pool
  pooled : ∀ key book, runtime.books.find? key = some book →
    runtime.assignments.find? key = some book.pool

end PoolRuntime

/-- A run with the steps that last set each assignment and last granted each lease. -/
structure TracedPools where
  runtime : PoolRuntime := {}
  steps : Nat := 0
  setAt : LocalL2BookKey → Option Nat := fun _ => none
  grantedAt : LocalL2BookKey → Option Nat := fun _ => none

namespace TracedPools

def step (traced : TracedPools) (op : PoolOp) : TracedPools :=
  { runtime := traced.runtime.apply op
    steps := traced.steps + 1
    setAt := fun key => if traced.runtime.sets op key then some traced.steps else traced.setAt key
    grantedAt := fun key =>
      if PoolRuntime.grants op key then some traced.steps else traced.grantedAt key }

/-- What expires is an assignment that was granted with the lease. -/
def ExpiresOwn (traced : TracedPools) (nowMs : Int) : Prop :=
  ∀ key, (traced.runtime.expireStaleLeases nowMs).1.assignments.find? key ≠
    traced.runtime.assignments.find? key → traced.setAt key = traced.grantedAt key

/-- After each step the three maps agree, and each expiry is one of the assignment's own lease. -/
def KeepsPools (traced : TracedPools) : List PoolOp → Prop
  | [] => True
  | op :: rest =>
    (traced.step op).runtime.Consistent ∧
      (∀ nowMs, op = .expireStaleLeases nowMs → traced.ExpiresOwn nowMs) ∧
      (traced.step op).KeepsPools rest

/-- The operation does not set an assignment over a lease that it leaves as it is. -/
def LeavesNoLease (runtime : PoolRuntime) : PoolOp → Prop
  | .ensureBook venue symbol =>
    (runtime.books.find? ⟨venue, symbol⟩).isSome = true ∨
      runtime.leases.find? ⟨venue, symbol⟩ = none
  | .assign venue symbol pool _ _ =>
    pool.isLeased = true ∨ runtime.leases.find? ⟨venue, symbol⟩ = none
  | _ => True

def RunLeavesNoLease (traced : TracedPools) : List PoolOp → Prop
  | [] => True
  | op :: rest => LeavesNoLease traced.runtime op ∧ (traced.step op).RunLeavesNoLease rest

end TracedPools

/-! ## One operation -/

namespace PoolRuntime

variable {runtime : PoolRuntime}

@[simp] theorem setPool_assignments (runtime : PoolRuntime) (key : LocalL2BookKey)
    (pool : L2PoolAssignment) : (runtime.setPool key pool).assignments = runtime.assignments := by
  rw [setPool]
  split <;> rfl

@[simp] theorem setPool_leases (runtime : PoolRuntime) (key : LocalL2BookKey)
    (pool : L2PoolAssignment) : (runtime.setPool key pool).leases = runtime.leases := by
  rw [setPool]
  split <;> rfl

theorem setPool_books (runtime : PoolRuntime) (key : LocalL2BookKey) (pool : L2PoolAssignment)
    (other : LocalL2BookKey) :
    (runtime.setPool key pool).books.find? other =
      if key = other then (runtime.books.find? key).map (fun pooled => { pooled with pool := pool })
      else runtime.books.find? other := by
  rw [setPool]
  split
  · rename_i absent
    split_ifs with same
    · rw [← same, absent]
      rfl
    · rfl
  · rename_i pooled present
    rw [OrderedDict.find_insert, present]
    rfl

/-- An assignment that is written on the book as well. -/
theorem consistent_set (consistent : runtime.Consistent) {key : LocalL2BookKey}
    {pool : L2PoolAssignment} {leases : OrderedDict LocalL2BookKey AssignmentLease} {expired : Nat}
    (leased : ∀ other lease, leases.find? other = some lease →
      (key = other ∧ lease.pool = pool ∧ pool.isLeased = true) ∨
        (key ≠ other ∧ runtime.leases.find? other = some lease)) :
    Consistent { ({ runtime with assignments := runtime.assignments.insert key pool }).setPool key
      pool with leases := leases, assignmentLeaseExpiredTotal := expired } where
  leased := by
    intro other lease found
    rw [setPool_assignments, OrderedDict.find_insert]
    obtain ⟨rfl, samePool, isLeased⟩ | ⟨different, before⟩ := leased other lease found
    · rw [if_pos rfl, samePool]
      exact ⟨isLeased, rfl⟩
    · rw [if_neg different]
      exact consistent.leased other lease before
  pooled := by
    intro other pooled found
    rw [setPool_assignments, OrderedDict.find_insert]
    dsimp only at found
    rw [setPool_books] at found
    split_ifs at found ⊢ with same
    · obtain ⟨before, _, rfl⟩ := Option.map_eq_some_iff.mp found
      rfl
    · exact consistent.pooled other pooled found

theorem consistent_expireLease (consistent : runtime.Consistent) (key : LocalL2BookKey) :
    (runtime.expireLease key).Consistent := by
  apply consistent_set consistent
  intro other lease found
  rw [setPool_leases, OrderedDict.find_erase] at found
  split_ifs at found with same
  exact Or.inr ⟨same, found⟩

theorem consistent_removeBook (consistent : runtime.Consistent) (venue symbol : String) :
    (runtime.removeBook venue symbol).Consistent where
  leased := by
    intro key lease found
    simp only [removeBook, OrderedDict.find_erase] at found ⊢
    split_ifs at found ⊢
    exact consistent.leased key lease found
  pooled := by
    intro key pooled found
    simp only [removeBook, OrderedDict.find_erase] at found ⊢
    split_ifs at found ⊢
    exact consistent.pooled key pooled found

theorem consistent_ensureBook (consistent : runtime.Consistent) {venue symbol : String}
    (leaves : (runtime.books.find? ⟨venue, symbol⟩).isSome = true ∨
      runtime.leases.find? ⟨venue, symbol⟩ = none) :
    (runtime.ensureBook venue symbol).Consistent := by
  rw [ensureBook]
  split
  · exact consistent
  · rename_i absent
    have free : runtime.leases.find? ⟨venue, symbol⟩ = none := by
      rw [absent] at leaves
      simpa using leaves
    refine ⟨?_, ?_⟩
    · intro key lease found
      dsimp only at found ⊢
      rw [OrderedDict.find_insert]
      split_ifs with same
      · rw [← same, free] at found
        cases found
      · exact consistent.leased key lease found
    · intro key pooled found
      dsimp only at found ⊢
      rw [OrderedDict.find_insert] at found ⊢
      split_ifs at found ⊢ with same
      · cases found
        rfl
      · exact consistent.pooled key pooled found

theorem assign_eq (runtime : PoolRuntime) (venue symbol : String) (pool : L2PoolAssignment)
    (nowMs priority : Int) :
    runtime.assign venue symbol pool nowMs priority =
      { ({ runtime with
            assignments := runtime.assignments.insert ⟨venue, symbol⟩ pool } : PoolRuntime).setPool
          ⟨venue, symbol⟩ pool with
        leases := if pool.isLeased then
            runtime.leases.insert ⟨venue, symbol⟩
              ⟨venue, symbol, pool, nowMs, runtime.defaultLeaseTtlMs, priority⟩
          else runtime.leases
        assignmentLeaseExpiredTotal := runtime.assignmentLeaseExpiredTotal } := by
  rw [assign]
  split_ifs <;> simp only [setPool] <;> split <;> rfl

theorem consistent_assign (consistent : runtime.Consistent) {venue symbol : String}
    {pool : L2PoolAssignment} {nowMs priority : Int}
    (leaves : pool.isLeased = true ∨ runtime.leases.find? ⟨venue, symbol⟩ = none) :
    (runtime.assign venue symbol pool nowMs priority).Consistent := by
  rw [assign_eq]
  apply consistent_set consistent
  intro other lease found
  split_ifs at found with isLeased
  · rw [OrderedDict.find_insert] at found
    split_ifs at found with same
    · cases found
      exact Or.inl ⟨same, rfl, isLeased⟩
    · exact Or.inr ⟨same, found⟩
  · refine Or.inr ⟨?_, found⟩
    rintro rfl
    rw [leaves.resolve_left isLeased] at found
    cases found

theorem consistent_preserveLease (consistent : runtime.Consistent) (venue symbol : String)
    (nowMs : Int) : (runtime.preserveLease venue symbol nowMs).1.Consistent := by
  rw [preserveLease]
  split
  · exact consistent
  · rename_i lease present
    refine ⟨?_, consistent.pooled⟩
    intro key other found
    dsimp only at found ⊢
    rw [OrderedDict.find_insert] at found
    split_ifs at found with same
    · cases found
      rw [← same]
      exact consistent.leased _ lease present
    · exact consistent.leased key other found

theorem consistent_feed (consistent : runtime.Consistent) (venue symbol : String)
    (book : LocalL2Book) : (runtime.feed venue symbol book).Consistent := by
  rw [feed]
  split
  · exact consistent
  · rename_i pooled present
    refine ⟨consistent.leased, ?_⟩
    intro key other found
    dsimp only at found ⊢
    rw [OrderedDict.find_insert] at found
    split_ifs at found with same
    · cases found
      rw [← same]
      exact consistent.pooled _ pooled present
    · exact consistent.pooled key other found

theorem consistent_expireAll (consistent : runtime.Consistent) (keys : List LocalL2BookKey) :
    (keys.foldl expireLease runtime).Consistent := by
  induction keys generalizing runtime with
  | nil => exact consistent
  | cons key keys ih =>
    exact ih (consistent_expireLease consistent key)

theorem consistent_removeAll (consistent : runtime.Consistent)
    (pruned : List (LocalL2BookKey × PruneReason)) :
    (pruned.foldl (fun current entry => current.removeBook entry.1.venue entry.1.symbol)
      runtime).Consistent := by
  induction pruned generalizing runtime with
  | nil => exact consistent
  | cons entry pruned ih =>
    exact ih (consistent_removeBook consistent entry.1.venue entry.1.symbol)

/-- An operation that leaves no lease behind keeps the three maps in agreement. -/
theorem consistent_apply (consistent : runtime.Consistent) {op : PoolOp}
    (leaves : TracedPools.LeavesNoLease runtime op) : (runtime.apply op).Consistent := by
  cases op with
  | ensureBook venue symbol => exact consistent_ensureBook consistent leaves
  | assign venue symbol pool nowMs priority => exact consistent_assign consistent leaves
  | preserveLease venue symbol nowMs => exact consistent_preserveLease consistent venue symbol nowMs
  | expireStaleLeases nowMs => exact consistent_expireAll consistent _
  | removeBook venue symbol => exact consistent_removeBook consistent venue symbol
  | pruneUntrackedBooks tracked nowMs limits => exact consistent_removeAll consistent _
  | feed venue symbol book => exact consistent_feed consistent venue symbol book

/-- An operation that leaves a lease behind breaks the agreement at once. -/
theorem leavesNoLease_of_consistent {op : PoolOp} (after : (runtime.apply op).Consistent) :
    TracedPools.LeavesNoLease runtime op := by
  cases op with
  | ensureBook venue symbol =>
    rw [TracedPools.LeavesNoLease]
    cases present : runtime.books.find? ⟨venue, symbol⟩ with
    | some pooled => exact Or.inl rfl
    | none =>
      refine Or.inr ?_
      cases leased : runtime.leases.find? ⟨venue, symbol⟩ with
      | none => rfl
      | some lease =>
        rw [apply, ensureBook, present] at after
        obtain ⟨isLeased, assigned⟩ := after.leased _ lease leased
        dsimp only at assigned
        rw [OrderedDict.find_insert, if_pos rfl, Option.some.injEq] at assigned
        rw [← assigned] at isLeased
        cases isLeased
  | assign venue symbol pool nowMs priority =>
    rw [TracedPools.LeavesNoLease]
    by_cases isLeased : pool.isLeased = true
    · exact Or.inl isLeased
    · refine Or.inr ?_
      cases leased : runtime.leases.find? ⟨venue, symbol⟩ with
      | none => rfl
      | some lease =>
        rw [apply, assign_eq, if_neg isLeased] at after
        obtain ⟨stillLeased, assigned⟩ := after.leased _ lease leased
        rw [setPool_assignments, OrderedDict.find_insert, if_pos rfl, Option.some.injEq] at assigned
        rw [← assigned] at stillLeased
        exact absurd stillLeased isLeased
  | preserveLease => exact trivial
  | expireStaleLeases => exact trivial
  | removeBook => exact trivial
  | pruneUntrackedBooks => exact trivial
  | feed => exact trivial

/-! ## Whose lease it is -/

theorem leases_expireAll (runtime : PoolRuntime) (keys : List LocalL2BookKey)
    (key : LocalL2BookKey) :
    (keys.foldl expireLease runtime).leases.find? key =
      if key ∈ keys then none else runtime.leases.find? key := by
  induction keys generalizing runtime with
  | nil => rfl
  | cons first keys ih =>
    rw [List.foldl_cons, ih, expireLease]
    dsimp only
    rw [setPool_leases, OrderedDict.find_erase]
    by_cases same : first = key
    · simp [same]
    · simp [same, Ne.symm same]

theorem assignments_expireAll (runtime : PoolRuntime) (keys : List LocalL2BookKey)
    {key : LocalL2BookKey} (kept : key ∉ keys) :
    (keys.foldl expireLease runtime).assignments.find? key = runtime.assignments.find? key := by
  induction keys generalizing runtime with
  | nil => rfl
  | cons first keys ih =>
    rw [List.mem_cons, not_or] at kept
    rw [List.foldl_cons, ih _ kept.2, expireLease]
    dsimp only
    rw [setPool_assignments, OrderedDict.find_insert, if_neg (Ne.symm kept.1)]

theorem mem_expiredKeys {nowMs : Int} {key : LocalL2BookKey}
    (expired : key ∈ runtime.expiredKeys nowMs) :
    ∃ lease, runtime.leases.find? key = some lease := by
  obtain ⟨⟨_, lease⟩, member, rfl⟩ := List.mem_map.mp expired
  exact ⟨lease, (OrderedDict.mem_entries _ _ _).mp (List.mem_filter.mp member).1⟩

theorem leases_removeAll (runtime : PoolRuntime) (pruned : List (LocalL2BookKey × PruneReason))
    {key : LocalL2BookKey} {lease : AssignmentLease}
    (found : (pruned.foldl (fun current entry => current.removeBook entry.1.venue entry.1.symbol)
      runtime).leases.find? key = some lease) : runtime.leases.find? key = some lease := by
  induction pruned generalizing runtime with
  | nil => exact found
  | cons entry pruned ih =>
    have before : (runtime.leases.erase ⟨entry.1.venue, entry.1.symbol⟩).find? key = some lease :=
      ih _ found
    rw [OrderedDict.find_erase] at before
    split_ifs at before
    exact before

/-- A lease after a step was granted by it together with the assignment, or was there before and
neither was touched. -/
theorem lease_after {op : PoolOp} (leaves : TracedPools.LeavesNoLease runtime op)
    {key : LocalL2BookKey} {lease : AssignmentLease}
    (found : (runtime.apply op).leases.find? key = some lease) :
    (runtime.sets op key = true ∧ grants op key = true) ∨
      (runtime.sets op key = false ∧ grants op key = false ∧
        ∃ before, runtime.leases.find? key = some before) := by
  cases op with
  | ensureBook venue symbol =>
    refine Or.inr ?_
    have same : (runtime.ensureBook venue symbol).leases = runtime.leases := by
      rw [ensureBook]
      split <;> rfl
    rw [apply, same] at found
    refine ⟨?_, rfl, lease, found⟩
    rw [sets, Bool.and_eq_false_iff, decide_eq_false_iff_not]
    by_cases here : key = ⟨venue, symbol⟩
    · subst here
      rw [TracedPools.LeavesNoLease, found] at leaves
      refine Or.inr ?_
      obtain present | free := leaves
      · rw [Option.isNone_eq_false_iff]
        exact present
      · cases free
    · exact Or.inl here
  | assign venue symbol pool nowMs priority =>
    rw [apply, assign_eq] at found
    dsimp only at found
    by_cases here : key = ⟨venue, symbol⟩
    · subst here
      by_cases isLeased : pool.isLeased = true
      · exact Or.inl (by simp [sets, grants, isLeased])
      · rw [if_neg isLeased, leaves.resolve_left isLeased] at found
        cases found
    · refine Or.inr ⟨by simp [sets, here], by simp [grants, here], lease, ?_⟩
      split_ifs at found
      · rw [OrderedDict.find_insert, if_neg (Ne.symm here)] at found
        exact found
      · exact found
  | preserveLease venue symbol nowMs =>
    refine Or.inr ⟨rfl, rfl, ?_⟩
    rw [apply, preserveLease] at found
    split at found
    · exact ⟨lease, found⟩
    · rename_i before present
      dsimp only at found
      rw [OrderedDict.find_insert] at found
      split_ifs at found with same
      · exact ⟨before, same ▸ present⟩
      · exact ⟨lease, found⟩
  | expireStaleLeases nowMs =>
    rw [apply, expireStaleLeases, leases_expireAll] at found
    split_ifs at found with expired
    exact Or.inr ⟨by simp [sets, expired], rfl, lease, found⟩
  | removeBook venue symbol =>
    refine Or.inr ⟨rfl, rfl, lease, ?_⟩
    rw [apply, removeBook] at found
    dsimp only at found
    rw [OrderedDict.find_erase] at found
    split_ifs at found
    exact found
  | pruneUntrackedBooks tracked nowMs limits =>
    exact Or.inr ⟨rfl, rfl, lease, leases_removeAll runtime _ found⟩
  | feed venue symbol book =>
    refine Or.inr ⟨rfl, rfl, lease, ?_⟩
    rw [apply, feed] at found
    split at found <;> exact found

end PoolRuntime

namespace TracedPools

/-- The three maps agree, and each lease is that of its key's own assignment. -/
structure Linked (traced : TracedPools) : Prop where
  consistent : traced.runtime.Consistent
  own : ∀ key lease, traced.runtime.leases.find? key = some lease →
    traced.setAt key = traced.grantedAt key

theorem linked_step {traced : TracedPools} (linked : traced.Linked) {op : PoolOp}
    (leaves : LeavesNoLease traced.runtime op) : (traced.step op).Linked where
  consistent := PoolRuntime.consistent_apply linked.consistent leaves
  own := by
    intro key lease found
    obtain ⟨set, granted⟩ | ⟨notSet, notGranted, before, present⟩ :=
      PoolRuntime.lease_after leaves found
    · simp [step, set, granted]
    · simp [step, notSet, notGranted, linked.own key before present]

theorem expiresOwn_of_linked {traced : TracedPools} (linked : traced.Linked) (nowMs : Int) :
    traced.ExpiresOwn nowMs := by
  intro key changed
  by_cases expired : key ∈ traced.runtime.expiredKeys nowMs
  · obtain ⟨lease, present⟩ := PoolRuntime.mem_expiredKeys expired
    exact linked.own key lease present
  · exact absurd (PoolRuntime.assignments_expireAll traced.runtime _ expired) changed

theorem keepsPools_iff {traced : TracedPools} (linked : traced.Linked) (ops : List PoolOp) :
    traced.KeepsPools ops ↔ traced.RunLeavesNoLease ops := by
  induction ops generalizing traced with
  | nil => exact Iff.rfl
  | cons op ops ih =>
    constructor
    · rintro ⟨after, _, later⟩
      have leaves := PoolRuntime.leavesNoLease_of_consistent after
      exact ⟨leaves, (ih (linked_step linked leaves)).mp later⟩
    · rintro ⟨leaves, later⟩
      have next := linked_step linked leaves
      exact ⟨next.consistent, fun nowMs _ => expiresOwn_of_linked linked nowMs,
        (ih next).mpr later⟩

/-- A runtime before anything has happened to it. -/
def fresh (defaultLeaseTtlMs : Int) : TracedPools :=
  { runtime := { defaultLeaseTtlMs := defaultLeaseTtlMs } }

theorem linked_fresh (defaultLeaseTtlMs : Int) : (fresh defaultLeaseTtlMs).Linked where
  consistent :=
    { leased := by
        intro key lease found
        cases found
      pooled := by
        intro key book found
        cases found }
  own := by
    intro key lease found
    cases found

/-- Along a run the maps agree and leases take only their own assignments with them, just when no
step sets an assignment over a lease that it leaves as it is. -/
theorem pools_kept_iff (defaultLeaseTtlMs : Int) (ops : List PoolOp) :
    (fresh defaultLeaseTtlMs).KeepsPools ops ↔ (fresh defaultLeaseTtlMs).RunLeavesNoLease ops :=
  keepsPools_iff (linked_fresh defaultLeaseTtlMs) ops

/-- A hot book is retained, and its old lease expires. -/
def retainedRun : List PoolOp :=
  [.ensureBook "okx" "BTCUSDT", .assign "okx" "BTCUSDT" .hotExec 0 0,
    .assign "okx" "BTCUSDT" .retained 1000 0, .expireStaleLeases 90001]

/-- The lease of the hot assignment stays under the retained one, and drops it. -/
theorem old_lease_drops_retained :
    ¬ (fresh 90000).KeepsPools retainedRun ∧
      (retainedRun.foldl step (fresh 90000)).runtime.assignments.find? ⟨"okx", "BTCUSDT"⟩ =
        some .dropped := by
  refine ⟨?_, by decide +kernel⟩
  rintro ⟨_, _, _, _, retained, _⟩
  have leased := retained.leased ⟨"okx", "BTCUSDT"⟩ ⟨"okx", "BTCUSDT", .hotExec, 0, 90000, 0⟩
    (by decide +kernel)
  exact absurd leased.2 (by decide +kernel)

end TracedPools

end LightFee.MarketData
