import LightFee.Library.OrderedDict
import LightFee.MarketData.OrderProgress

/-!
# The cache of private orders

A private stream reports orders under the venue's order id, under the client's id or under both.
The cache stores one update under a canonical key and finds it through two indexes; beyond its
capacity it drops the oldest update. An index may outlive the order that it points to.
-/

namespace LightFee.MarketData

def canonicalOrderKey (update : PrivateOrderUpdate) : Option String :=
  if update.orderId ≠ "" then some ("order:" ++ update.orderId)
  else (update.clientOrderId.filter usableText).map ("client:" ++ ·)

/-- The order cache of a private stream; it has room for at least one order. -/
structure PrivateWsState where
  maxOrderEntries : Nat
  hasRoom : 0 < maxOrderEntries
  orders : OrderedDict String PrivateOrderUpdate
  clientIndex : OrderedDict String String
  orderIndex : OrderedDict String String
  orderUpdateVersion : Nat := 0

namespace PrivateWsState

def new (maxOrderEntries : Int) : PrivateWsState where
  maxOrderEntries := (max maxOrderEntries 1).toNat
  hasRoom := by omega
  orders := .empty
  clientIndex := .empty
  orderIndex := .empty

/-- The key that the update is stored under. -/
def cacheKey (state : PrivateWsState) (update : PrivateOrderUpdate) (defaultKey : String) : String :=
  match (state.orderIndex.find? update.orderId).filter usableText with
  | some key => key
  | none =>
    (((update.clientOrderId.filter usableText).bind state.clientIndex.find?).filter usableText).getD
      defaultKey

/-- Write the update and let its ids point to it. -/
def store (state : PrivateWsState) (key : String) (update : PrivateOrderUpdate) : PrivateWsState :=
  { state with
    orders := state.orders.insert key update
    clientIndex :=
      match update.clientOrderId.filter usableText with
      | some clientOrderId => state.clientIndex.insert clientOrderId key
      | none => state.clientIndex
    orderIndex :=
      if update.orderId ≠ "" then state.orderIndex.insert update.orderId key else state.orderIndex }

/-- Drop an id that points to this key. -/
def dropId (index : OrderedDict String String) (id key : String) : OrderedDict String String :=
  if index.find? id = some key then index.erase id else index

/-- The first order with the least time. -/
def oldestOrder : List (String × PrivateOrderUpdate) → Option (String × PrivateOrderUpdate)
  | [] => none
  | entry :: rest =>
    match oldestOrder rest with
    | some other => if other.2.updatedAtMs < entry.2.updatedAtMs then some other else some entry
    | none => some entry

/-- One round of the eviction: the oldest order goes. -/
def evictOldest (state : PrivateWsState) : PrivateWsState :=
  match oldestOrder state.orders.entries with
  | none => state
  | some (oldestKey, oldest) =>
    { state with
      orders := state.orders.erase oldestKey
      clientIndex :=
        match oldest.clientOrderId.filter usableText with
        | some clientOrderId => dropId state.clientIndex clientOrderId oldestKey
        | none => state.clientIndex
      orderIndex :=
        if oldest.orderId ≠ "" then dropId state.orderIndex oldest.orderId oldestKey
        else state.orderIndex }

/-- The eviction loop; it takes at most one round for each order. -/
def evict : Nat → PrivateWsState → PrivateWsState
  | 0, state => state
  | rounds + 1, state =>
    if state.maxOrderEntries < state.orders.entries.length then evict rounds state.evictOldest
    else state

def recordOrder (state : PrivateWsState) (update : PrivateOrderUpdate) : PrivateWsState :=
  match canonicalOrderKey update with
  | none => state
  | some defaultKey =>
    let key := state.cacheKey update defaultKey
    if (state.orders.find? key).any (fun existing => update.updatedAtMs < existing.updatedAtMs) then
      state
    else
      let stored := state.store key update
      let kept := evict stored.orders.entries.length stored
      { kept with orderUpdateVersion := state.orderUpdateVersion + 1 }

def orderByOrderId (state : PrivateWsState) (orderId : String) : Option PrivateOrderUpdate :=
  (state.orderIndex.find? orderId).bind state.orders.find?

/-- The cache after the updates of a stream. -/
def recordAll (state : PrivateWsState) (updates : List PrivateOrderUpdate) : PrivateWsState :=
  updates.foldl recordOrder state

/-! ## What a round of the eviction leaves -/

@[simp] theorem find_dropId (index : OrderedDict String String) (id key tested : String) :
    (dropId index id key).find? tested =
      if id = tested ∧ index.find? id = some key then none else index.find? tested := by
  rw [dropId]
  by_cases points : index.find? id = some key
  · rw [if_pos points, OrderedDict.find_erase]
    simp only [points, and_true]
  · rw [if_neg points, if_neg (fun both => points both.2)]

theorem dropId_of_other {index : OrderedDict String String} {id key tested other : String}
    (found : index.find? tested = some other) (differs : other ≠ key) :
    (dropId index id key).find? tested = some other := by
  rw [find_dropId, if_neg, found]
  rintro ⟨rfl, points⟩
  exact differs (Option.some.inj (found.symm.trans points))

theorem of_dropId {index : OrderedDict String String} {id key tested other : String}
    (found : (dropId index id key).find? tested = some other) : index.find? tested = some other := by
  rw [find_dropId] at found
  split_ifs at found
  exact found

/-- What eviction does: it drops the oldest orders, and of an index only what pointed to them. -/
structure Evicts (before after : PrivateWsState) : Prop where
  capacity : after.maxOrderEntries = before.maxOrderEntries
  orders : ∀ {key update}, after.orders.find? key = some update →
    before.orders.find? key = some update
  clients : ∀ {id key}, after.clientIndex.find? id = some key → before.clientIndex.find? id = some key
  ids : ∀ {id key}, after.orderIndex.find? id = some key → before.orderIndex.find? id = some key
  keepsIds : ∀ {id key}, before.orderIndex.find? id = some key → after.orders.find? key ≠ none →
    after.orderIndex.find? id = some key
  oldest : ∀ {key update other kept}, before.orders.find? key = some update →
    after.orders.find? key = none → after.orders.find? other = some kept →
      update.updatedAtMs ≤ kept.updatedAtMs

namespace Evicts

theorem refl (state : PrivateWsState) : Evicts state state where
  capacity := rfl
  orders := id
  clients := id
  ids := id
  keepsIds := fun found _ => found
  oldest := fun found gone => by rw [found] at gone; cases gone

theorem trans {before middle after : PrivateWsState} (first : Evicts before middle)
    (second : Evicts middle after) : Evicts before after where
  capacity := second.capacity.trans first.capacity
  orders := fun found => first.orders (second.orders found)
  clients := fun found => first.clients (second.clients found)
  ids := fun found => first.ids (second.ids found)
  keepsIds := by
    intro id key found kept
    obtain ⟨update, holds⟩ := Option.ne_none_iff_exists'.mp kept
    exact second.keepsIds (first.keepsIds found (by rw [second.orders holds]; simp)) kept
  oldest := by
    intro key update other kept found gone holds
    cases middleHolds : middle.orders.find? key with
    | none => exact first.oldest found middleHolds (second.orders holds)
    | some same =>
      have unchanged : update = same :=
        Option.some.inj (found.symm.trans (first.orders middleHolds))
      exact unchanged ▸ second.oldest middleHolds gone holds

end Evicts

theorem oldestOrder_eq_none {entries : List (String × PrivateOrderUpdate)}
    (none : oldestOrder entries = none) : entries = [] := by
  cases entries with
  | nil => rfl
  | cons entry rest =>
    rw [oldestOrder] at none
    split at none
    · split at none <;> cases none
    · cases none

theorem oldestOrder_spec {entries : List (String × PrivateOrderUpdate)}
    {oldest : String × PrivateOrderUpdate} (least : oldestOrder entries = some oldest) :
    oldest ∈ entries ∧ ∀ entry ∈ entries, oldest.2.updatedAtMs ≤ entry.2.updatedAtMs := by
  induction entries generalizing oldest with
  | nil => cases least
  | cons entry rest ih =>
    rw [oldestOrder] at least
    cases later : oldestOrder rest with
    | none =>
      rw [later] at least
      cases least
      rw [oldestOrder_eq_none later]
      simp
    | some other =>
      obtain ⟨member, minimal⟩ := ih later
      simp only [later] at least
      rw [List.forall_mem_cons]
      split_ifs at least with older
      · cases least
        exact ⟨List.mem_cons_of_mem _ member, older.le, minimal⟩
      · cases least
        exact ⟨List.mem_cons_self, le_refl _, fun entry known =>
          (not_lt.mp older).trans (minimal entry known)⟩

theorem evictOldest_evicts (state : PrivateWsState) : Evicts state state.evictOldest := by
  unfold evictOldest
  cases least : oldestOrder state.orders.entries with
  | none => exact Evicts.refl state
  | some entry =>
    obtain ⟨oldestKey, oldest⟩ := entry
    have stored : state.orders.find? oldestKey = some oldest :=
      (OrderedDict.mem_entries _ _ _).mp (oldestOrder_spec least).1
    constructor
    case capacity => rfl
    case orders =>
      intro key update found
      rw [OrderedDict.find_erase] at found
      split_ifs at found
      exact found
    case clients =>
      intro id key found
      cases named : oldest.clientOrderId.filter usableText with
      | none => simpa [named] using found
      | some clientOrderId => exact of_dropId (by simpa [named] using found)
    case ids =>
      intro id key found
      by_cases named : oldest.orderId = ""
      · simpa [named] using found
      · exact of_dropId (by simpa [named] using found)
    case keepsIds =>
      intro id key found kept
      have differs : key ≠ oldestKey := by
        rintro rfl
        exact kept (by rw [OrderedDict.find_erase, if_pos rfl])
      by_cases named : oldest.orderId = ""
      · simpa [named] using found
      · simpa [named] using dropId_of_other found differs
    case oldest =>
      intro key update other keptUpdate found gone holds
      have same : oldestKey = key := by
        by_contra differs
        rw [OrderedDict.find_erase, if_neg differs, found] at gone
        cases gone
      subst same
      have evicted : update = oldest := Option.some.inj (found.symm.trans stored)
      rw [OrderedDict.find_erase] at holds
      split_ifs at holds
      rw [evicted]
      have member : (other, keptUpdate) ∈ state.orders.entries :=
        (OrderedDict.mem_entries _ _ _).mpr holds
      exact (oldestOrder_spec least).2 (other, keptUpdate) member

theorem evict_evicts (rounds : Nat) (state : PrivateWsState) : Evicts state (evict rounds state) := by
  induction rounds generalizing state with
  | zero => exact Evicts.refl state
  | succ rounds ih =>
    rw [evict]
    split_ifs
    · exact (evictOldest_evicts state).trans (ih _)
    · exact Evicts.refl state

theorem length_erase (orders : OrderedDict String PrivateOrderUpdate) {key : String}
    (known : key ∈ orders.keys) : (orders.erase key).entries.length + 1 = orders.entries.length := by
  have keys : (orders.erase key).keys = orders.keys.erase key := by
    have distinct : orders.keys.Nodup := orders.distinct
    rw [OrderedDict.keys_erase, distinct.erase_eq_filter]
    simp only [ne_eq, decide_not, bne, Bool.beq_eq_decide_eq]
  have counted := congrArg List.length keys
  rw [List.length_erase_of_mem known] at counted
  have positive := List.length_pos_of_mem known
  simp only [OrderedDict.keys, List.length_map] at counted positive
  omega

/-- A round makes room for one order. -/
theorem evictOldest_length (state : PrivateWsState) (nonempty : 0 < state.orders.entries.length) :
    state.evictOldest.orders.entries.length + 1 = state.orders.entries.length := by
  unfold evictOldest
  cases least : oldestOrder state.orders.entries with
  | none =>
    rw [oldestOrder_eq_none least] at nonempty
    cases nonempty
  | some entry =>
    exact length_erase state.orders (List.mem_map_of_mem (oldestOrder_spec least).1)

theorem evict_length (rounds : Nat) (state : PrivateWsState)
    (enough : state.orders.entries.length ≤ state.maxOrderEntries + rounds) :
    (evict rounds state).orders.entries.length ≤ state.maxOrderEntries := by
  induction rounds generalizing state with
  | zero => exact enough
  | succ rounds ih =>
    rw [evict]
    split_ifs with crowded
    · have shorter := evictOldest_length state (Nat.zero_lt_of_lt crowded)
      have capacity := (evictOldest_evicts state).capacity
      have rest := ih state.evictOldest (by omega)
      omega
    · exact not_lt.mp crowded

/-! ## One update -/

/-- What an update does: it is dropped, or it is stored and what is too old goes. -/
theorem recordOrder_cases (state : PrivateWsState) (update : PrivateOrderUpdate) :
    state.recordOrder update = state ∧
        (∀ defaultKey, canonicalOrderKey update = some defaultKey →
          ∃ existing, state.orders.find? (state.cacheKey update defaultKey) = some existing ∧
            update.updatedAtMs < existing.updatedAtMs) ∨
      ∃ defaultKey, canonicalOrderKey update = some defaultKey ∧
        (∀ existing, state.orders.find? (state.cacheKey update defaultKey) = some existing →
          existing.updatedAtMs ≤ update.updatedAtMs) ∧
        Evicts (state.store (state.cacheKey update defaultKey) update) (state.recordOrder update) ∧
        (state.recordOrder update).orders.entries.length ≤ state.maxOrderEntries := by
  cases named : canonicalOrderKey update with
  | none =>
    refine Or.inl ⟨by simp only [recordOrder, named], fun defaultKey impossible => ?_⟩
    cases impossible
  | some defaultKey =>
    by_cases stale : (state.orders.find? (state.cacheKey update defaultKey)).any
        (fun existing => update.updatedAtMs < existing.updatedAtMs) = true
    · refine Or.inl ⟨by simp only [recordOrder, named, stale, if_true], fun key same => ?_⟩
      cases same
      cases found : state.orders.find? (state.cacheKey update defaultKey) with
      | none => simp [found] at stale
      | some existing =>
        rw [found, Option.any_some, decide_eq_true_iff] at stale
        exact ⟨existing, rfl, stale⟩
    · refine Or.inr ⟨defaultKey, rfl, fun existing found => ?_, ?_, ?_⟩
      · rw [found, Option.any_some, decide_eq_true_iff] at stale
        exact not_lt.mp stale
      · have kept := evict_evicts (state.store (state.cacheKey update defaultKey) update
          |>.orders.entries.length) (state.store (state.cacheKey update defaultKey) update)
        simp only [recordOrder, named, if_neg stale]
        exact ⟨kept.capacity, kept.orders, kept.clients, kept.ids, kept.keepsIds, kept.oldest⟩
      · simp only [recordOrder, named, if_neg stale]
        exact evict_length _ _ (Nat.le_add_left _ _)

/-- The capacity never changes. -/
theorem recordOrder_capacity (state : PrivateWsState) (update : PrivateOrderUpdate) :
    (state.recordOrder update).maxOrderEntries = state.maxOrderEntries := by
  rcases recordOrder_cases state update with ⟨same, _⟩ | ⟨_, _, _, evicts, _⟩
  · rw [same]
  · exact evicts.capacity

/-- The index of order ids holds no empty key, and an order with an order id is found under it. -/
structure Sound (state : PrivateWsState) : Prop where
  keyed : ∀ {id key}, state.orderIndex.find? id = some key → key ≠ ""
  found : ∀ {key update}, state.orders.find? key = some update → update.orderId ≠ "" →
    state.orderIndex.find? update.orderId = some key

theorem new_sound (maxOrderEntries : Int) : Sound (new maxOrderEntries) where
  keyed := fun found => by cases found
  found := fun found => by cases found

/-- A known order id decides the key. -/
theorem cacheKey_of_id {state : PrivateWsState} (sound : Sound state) {update : PrivateOrderUpdate}
    {key : String} (known : state.orderIndex.find? update.orderId = some key) (defaultKey : String) :
    state.cacheKey update defaultKey = key := by
  have usable : (some key).filter usableText = some key := by
    simpa [usableText] using sound.keyed known
  simp only [cacheKey, known, usable]

theorem canonicalOrderKey_ne {update : PrivateOrderUpdate} {key : String}
    (named : canonicalOrderKey update = some key) : key ≠ "" := by
  rintro rfl
  rw [canonicalOrderKey] at named
  split_ifs at named
  · exact absurd (congrArg String.length (Option.some.inj named)) (by simp)
  · obtain ⟨clientOrderId, _, same⟩ := Option.map_eq_some_iff.mp named
    exact absurd (congrArg String.length same) (by simp)

theorem cacheKey_ne (state : PrivateWsState) {update : PrivateOrderUpdate} {defaultKey : String}
    (named : canonicalOrderKey update = some defaultKey) :
    state.cacheKey update defaultKey ≠ "" := by
  have fallback := canonicalOrderKey_ne named
  unfold cacheKey
  split
  case h_1 key known => simpa [usableText] using (Option.filter_eq_some_iff.mp known).2
  case h_2 =>
    cases client : ((update.clientOrderId.filter usableText).bind state.clientIndex.find?).filter
        usableText with
    | none => exact fallback
    | some key => simpa [usableText] using (Option.filter_eq_some_iff.mp client).2

theorem store_sound {state : PrivateWsState} (sound : Sound state) {update : PrivateOrderUpdate}
    {defaultKey : String} (named : canonicalOrderKey update = some defaultKey) :
    Sound (state.store (state.cacheKey update defaultKey) update) := by
  have nonempty := cacheKey_ne state named
  constructor
  case keyed =>
    intro id key found
    by_cases ids : update.orderId = ""
    · exact sound.keyed (by simpa [store, ids] using found)
    · rw [store, if_pos ids, OrderedDict.find_insert] at found
      split_ifs at found
      · exact Option.some.inj found ▸ nonempty
      · exact sound.keyed found
  case found =>
    intro key other found ids
    rw [store, OrderedDict.find_insert] at found
    by_cases own : state.cacheKey update defaultKey = key
    · rw [if_pos own] at found
      cases found
      rw [store, if_pos ids, OrderedDict.find_insert, if_pos rfl, own]
    · rw [if_neg own] at found
      have known := sound.found found ids
      have differs : update.orderId ≠ other.orderId := fun same =>
        own (cacheKey_of_id sound (same ▸ known) defaultKey)
      by_cases named : update.orderId = ""
      · simpa [store, named] using known
      · simpa [store, named, differs] using known

theorem Evicts.sound {before after : PrivateWsState} (evicts : Evicts before after)
    (sound : Sound before) : Sound after where
  keyed := fun found => sound.keyed (evicts.ids found)
  found := fun found ids =>
    evicts.keepsIds (sound.found (evicts.orders found) ids) (by rw [found]; simp)

theorem recordOrder_sound {state : PrivateWsState} (sound : Sound state)
    (update : PrivateOrderUpdate) : Sound (state.recordOrder update) := by
  rcases recordOrder_cases state update with ⟨same, _⟩ | ⟨_, named, _, evicts, _⟩
  · rwa [same]
  · exact evicts.sound (store_sound sound named)

theorem recordAll_sound {state : PrivateWsState} (sound : Sound state)
    (updates : List PrivateOrderUpdate) : Sound (state.recordAll updates) := by
  induction updates generalizing state with
  | nil => exact sound
  | cons update rest ih => exact ih (recordOrder_sound sound update)

theorem recordOrder_length {state : PrivateWsState} (update : PrivateOrderUpdate)
    (bounded : state.orders.entries.length ≤ state.maxOrderEntries) :
    (state.recordOrder update).orders.entries.length ≤ (state.recordOrder update).maxOrderEntries := by
  rw [recordOrder_capacity]
  rcases recordOrder_cases state update with ⟨same, _⟩ | ⟨_, _, _, _, room⟩
  · rwa [same]
  · exact room

theorem recordAll_length {state : PrivateWsState} (updates : List PrivateOrderUpdate)
    (bounded : state.orders.entries.length ≤ state.maxOrderEntries) :
    (state.recordAll updates).orders.entries.length ≤ (state.recordAll updates).maxOrderEntries := by
  induction updates generalizing state with
  | nil => exact bounded
  | cons update rest ih =>
    exact ih (recordOrder_length update bounded)

/-- An update that takes an order away takes no newer one than it leaves. -/
theorem recordOrder_oldest {state : PrivateWsState} {update known kept : PrivateOrderUpdate}
    {key other : String} (found : state.orders.find? key = some known)
    (gone : (state.recordOrder update).orders.find? key = none)
    (left : (state.recordOrder update).orders.find? other = some kept) :
    known.updatedAtMs ≤ kept.updatedAtMs := by
  rcases recordOrder_cases state update with ⟨same, _⟩ | ⟨defaultKey, _, newer, evicts, _⟩
  · rw [same, found] at gone
    cases gone
  · by_cases own : state.cacheKey update defaultKey = key
    · -- The stored update replaced the known one and was evicted itself.
      have stored : (state.store (state.cacheKey update defaultKey) update).orders.find? key =
          some update := by
        rw [store, OrderedDict.find_insert, if_pos own]
      exact (newer known (own ▸ found)).trans (evicts.oldest stored gone left)
    · have stored : (state.store (state.cacheKey update defaultKey) update).orders.find? key =
          some known := by
        rw [store, OrderedDict.find_insert, if_neg own, found]
      exact evicts.oldest stored gone left

/-- Over every stream the cache keeps its bound, every kept order with an order id is found under
it, and what an update takes away is never newer than what it leaves. -/
theorem recordAll_bounded (maxOrderEntries : Int) (updates : List PrivateOrderUpdate) :
    let state := (new maxOrderEntries).recordAll updates
    state.orders.entries.length ≤ state.maxOrderEntries ∧
      (∀ key update, state.orders.find? key = some update → update.orderId ≠ "" →
        state.orderByOrderId update.orderId = some update) ∧
      ∀ update key known other kept, state.orders.find? key = some known →
        (state.recordOrder update).orders.find? key = none →
        (state.recordOrder update).orders.find? other = some kept →
          known.updatedAtMs ≤ kept.updatedAtMs := by
  have sound := recordAll_sound (new_sound maxOrderEntries) updates
  refine ⟨recordAll_length updates (Nat.zero_le _), fun key update found ids => ?_, ?_⟩
  · rw [orderByOrderId, sound.found found ids, Option.bind_some, found]
  · intro update key known other kept found gone left
    exact recordOrder_oldest found gone left

/-! ## Answers never go back -/

/-- An order id that still answers points to the key it pointed to, and its order is not older. -/
theorem recordOrder_newer {state : PrivateWsState} (sound : Sound state) {orderId : String}
    {before after update : PrivateOrderUpdate} (asked : state.orderByOrderId orderId = some before)
    (answered : (state.recordOrder update).orderByOrderId orderId = some after) :
    before.updatedAtMs ≤ after.updatedAtMs := by
  obtain ⟨key, known, found⟩ := Option.bind_eq_some_iff.mp asked
  obtain ⟨again, knownAgain, foundAgain⟩ := Option.bind_eq_some_iff.mp answered
  rcases recordOrder_cases state update with ⟨same, _⟩ | ⟨defaultKey, _, newer, evicts, _⟩
  · rw [same, asked] at answered
    exact (congrArg PrivateOrderUpdate.updatedAtMs (Option.some.inj answered)).le
  · have pointed := evicts.ids knownAgain
    have stored := evicts.orders foundAgain
    have sameKey : key = again := by
      by_cases named : update.orderId ≠ "" ∧ update.orderId = orderId
      · obtain ⟨nonempty, rfl⟩ := named
        rw [store, if_pos nonempty, OrderedDict.find_insert, if_pos rfl] at pointed
        exact (cacheKey_of_id sound known defaultKey).symm.trans (Option.some.inj pointed)
      · have untouched : state.orderIndex.find? orderId = some again := by
          by_cases nonempty : update.orderId = ""
          · simpa [store, nonempty] using pointed
          · have differs : update.orderId ≠ orderId := fun same => named ⟨nonempty, same⟩
            simpa [store, nonempty, differs] using pointed
        exact Option.some.inj (known.symm.trans untouched)
    subst sameKey
    rw [store, OrderedDict.find_insert] at stored
    by_cases own : state.cacheKey update defaultKey = key
    · rw [if_pos own] at stored
      cases stored
      exact newer before (own ▸ found)
    · rw [if_neg own, found] at stored
      exact (congrArg PrivateOrderUpdate.updatedAtMs (Option.some.inj stored)).le

/-- After an update of an order, the order's id answers with nothing older. -/
theorem recordOrder_own {state : PrivateWsState} (sound : Sound state)
    {update after : PrivateOrderUpdate} (nonempty : update.orderId ≠ "")
    (answered : (state.recordOrder update).orderByOrderId update.orderId = some after) :
    update.updatedAtMs ≤ after.updatedAtMs := by
  obtain ⟨key, known, found⟩ := Option.bind_eq_some_iff.mp answered
  rcases recordOrder_cases state update with ⟨same, stale⟩ | ⟨defaultKey, _, _, evicts, _⟩
  · rw [same] at known found
    obtain ⟨existing, stored, older⟩ := stale ("order:" ++ update.orderId)
      (by rw [canonicalOrderKey, if_pos nonempty])
    rw [cacheKey_of_id sound known, found] at stored
    cases stored
    exact older.le
  · have pointed := evicts.ids known
    have stored := evicts.orders found
    rw [store, if_pos nonempty, OrderedDict.find_insert, if_pos rfl] at pointed
    rw [store, OrderedDict.find_insert, if_pos (Option.some.inj pointed)] at stored
    cases stored
    exact le_rfl

theorem recordAll_newer {state : PrivateWsState} (sound : Sound state) {orderId : String}
    {before after : PrivateOrderUpdate} (updates : List PrivateOrderUpdate)
    (asked : state.orderByOrderId orderId = some before)
    (kept : ∀ front, front <+: updates → (state.recordAll front).orderByOrderId orderId ≠ none)
    (answered : (state.recordAll updates).orderByOrderId orderId = some after) :
    before.updatedAtMs ≤ after.updatedAtMs := by
  induction updates generalizing state before with
  | nil =>
    cases asked.symm.trans answered
    exact le_rfl
  | cons update rest ih =>
    obtain ⟨middle, holds⟩ := Option.ne_none_iff_exists'.mp
      (kept [update] (List.prefix_append [update] rest))
    have first : before.updatedAtMs ≤ middle.updatedAtMs := recordOrder_newer sound asked holds
    refine first.trans (ih (recordOrder_sound sound update) holds ?_ answered)
    intro front within
    exact kept (update :: front) (List.prefix_cons_inj update |>.mpr within)

theorem recordAll_append (state : PrivateWsState) (front back : List PrivateOrderUpdate) :
    state.recordAll (front ++ back) = (state.recordAll front).recordAll back :=
  List.foldl_append

/-- While the cache does not lose an order, an answer by its order id is never older than any
update of the order that the stream has brought. -/
theorem lookup_newest {maxOrderEntries : Int} {earlier later : List PrivateOrderUpdate}
    {update answer : PrivateOrderUpdate} (nonempty : update.orderId ≠ "")
    (kept : ∀ front, front <+: later → ((new maxOrderEntries).recordAll
      (earlier ++ update :: front)).orderByOrderId update.orderId ≠ none)
    (answered : ((new maxOrderEntries).recordAll (earlier ++ update :: later)).orderByOrderId
      update.orderId = some answer) : update.updatedAtMs ≤ answer.updatedAtMs := by
  have sound := recordAll_sound (new_sound maxOrderEntries) earlier
  obtain ⟨first, holds⟩ := Option.ne_none_iff_exists'.mp (kept [] List.nil_prefix)
  rw [recordAll_append] at holds answered
  refine (recordOrder_own sound nonempty holds).trans
    (recordAll_newer (recordOrder_sound sound update) later holds ?_ answered)
  intro front within
  have still := kept front within
  rwa [recordAll_append] at still

def acknowledged : PrivateOrderUpdate :=
  { symbol := "BTCUSDT", orderId := "7", clientOrderId := some "entry", updatedAtMs := 5 }

/-- A fill that carries the client's id alone. -/
def filledLater : PrivateOrderUpdate :=
  { symbol := "BTCUSDT", orderId := "", clientOrderId := some "entry"
    filledQuantity := some (.finite 2), updatedAtMs := 9 }

/-- The fill comes in under the key of the acknowledged order. -/
theorem lookup_newest_filled :
    ((new 1).recordAll [acknowledged, filledLater]).orderByOrderId "7" = some filledLater ∧
      acknowledged.updatedAtMs ≤ filledLater.updatedAtMs :=
  ⟨by decide +kernel, @lookup_newest 1 [] [filledLater] acknowledged filledLater (by decide)
    (by
      intro front within
      rcases List.prefix_cons_iff.mp within with rfl | ⟨rest, rfl, inner⟩
      · decide +kernel
      · rw [List.prefix_nil.mp inner]
        decide +kernel)
    (by decide +kernel)⟩

end PrivateWsState

end LightFee.MarketData
