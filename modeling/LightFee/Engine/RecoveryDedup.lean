import LightFee.Engine.EngineState
import LightFee.Library.TextSearch

/-!
# The dedup index of a restart

Before an order is submitted its client order id is looked up in an index of the
recovered work. The index is built from seven texts: two of an entry, two of a
close and three of a passive close. A close of several chunks stores the ids of
its orders joined into one text.
-/

namespace LightFee.Engine

/-- `index[client_order_id] = owner` unless the id is empty. -/
def noteClientOrderId (owner : String) (index : OrderedDict String String)
    (clientOrderId : String) : OrderedDict String String :=
  if clientOrderId = "" then index else index.insert clientOrderId owner

def PendingEntry.recordedIds (pending : PendingEntry ExactFloat) : List String :=
  [pending.makerClientOrderId, pending.hedgeClientOrderId]

def PendingClose.recordedIds (close : PendingClose) : List String :=
  [close.longClientOrderId, close.shortClientOrderId]

def PendingPassiveClose.recordedIds (close : PendingPassiveClose) : List String :=
  [close.phaseState.makerClientOrderId, close.makerFill.clientOrderId,
    close.hedgeFill.clientOrderId]

/-- One loop of the builder: every record's texts under the record's key. -/
def indexRecords {Record : Type} (recorded : Record → List String)
    (index : OrderedDict String String) (records : List (String × Record)) :
    OrderedDict String String :=
  records.foldl
    (fun index entry => (recorded entry.2).foldl (noteClientOrderId entry.1) index) index

def buildRecoveryDedupIndex (state : EngineState) : OrderedDict String String :=
  let index := indexRecords PendingEntry.recordedIds .empty state.pendingEntries.entries
  let index := indexRecords PendingClose.recordedIds index state.pendingCloses.entries
  indexRecords PendingPassiveClose.recordedIds index state.pendingPassiveCloses.entries

def isClientOrderIdDuplicate (clientOrderId : String) (dedupIndex : OrderedDict String String) :
    Bool :=
  decide (clientOrderId ≠ "") && dedupIndex.contains clientOrderId

/-! ## What the index holds -/

theorem mem_noted (owner : String) (index : OrderedDict String String) (texts : List String)
    (key : String) :
    key ∈ (texts.foldl (noteClientOrderId owner) index).keys ↔
      key ∈ index.keys ∨ (key ≠ "" ∧ key ∈ texts) := by
  induction texts generalizing index with
  | nil => simp
  | cons text rest ih =>
    rw [List.foldl_cons, ih, noteClientOrderId, List.mem_cons]
    split_ifs with empty
    · subst empty
      tauto
    · rw [OrderedDict.mem_keys_insert]
      constructor
      · rintro ((rfl | known) | fresh)
        · exact .inr ⟨empty, .inl rfl⟩
        · exact .inl known
        · exact .inr ⟨fresh.1, .inr fresh.2⟩
      · rintro (known | ⟨named, rfl | fresh⟩)
        · exact .inl (.inr known)
        · exact .inl (.inl rfl)
        · exact .inr ⟨named, fresh⟩

theorem mem_indexed {Record : Type} (recorded : Record → List String)
    (index : OrderedDict String String) (records : List (String × Record)) (key : String) :
    key ∈ (indexRecords recorded index records).keys ↔
      key ∈ index.keys ∨ (key ≠ "" ∧ ∃ entry ∈ records, key ∈ recorded entry.2) := by
  induction records generalizing index with
  | nil => simp [indexRecords]
  | cons entry rest ih =>
    have step : indexRecords recorded index (entry :: rest) =
        indexRecords recorded ((recorded entry.2).foldl (noteClientOrderId entry.1) index) rest :=
      rfl
    rw [step, ih, mem_noted]
    constructor
    · rintro ((known | ⟨named, first⟩) | ⟨named, later, member, recorded⟩)
      · exact .inl known
      · exact .inr ⟨named, entry, List.mem_cons_self, first⟩
      · exact .inr ⟨named, later, List.mem_cons_of_mem _ member, recorded⟩
    · rintro (known | ⟨named, later, member, recorded⟩)
      · exact .inl (.inl known)
      · rcases List.mem_cons.mp member with rfl | member
        · exact .inl (.inr ⟨named, recorded⟩)
        · exact .inr ⟨named, later, member, recorded⟩

/-- A text of the state is recorded when one of the builder's loops reads it. -/
def EngineState.Recorded (state : EngineState) (text : String) : Prop :=
  (∃ entry ∈ state.pendingEntries.entries, text ∈ entry.2.recordedIds) ∨
    (∃ entry ∈ state.pendingCloses.entries, text ∈ entry.2.recordedIds) ∨
      ∃ entry ∈ state.pendingPassiveCloses.entries, text ∈ entry.2.recordedIds

theorem mem_dedupIndex (state : EngineState) (key : String) :
    key ∈ (buildRecoveryDedupIndex state).keys ↔ key ≠ "" ∧ state.Recorded key := by
  have nothing : key ∉ (OrderedDict.empty : OrderedDict String String).keys := by
    simp [OrderedDict.keys, OrderedDict.empty]
  rw [buildRecoveryDedupIndex, mem_indexed, mem_indexed, mem_indexed, EngineState.Recorded]
  simp only [nothing, false_or, ← and_or_left, or_assoc]

theorem duplicate_iff (state : EngineState) (clientOrderId : String) :
    isClientOrderIdDuplicate clientOrderId (buildRecoveryDedupIndex state) = true ↔
      clientOrderId ≠ "" ∧ state.Recorded clientOrderId := by
  have contained : (buildRecoveryDedupIndex state).contains clientOrderId = true ↔
      clientOrderId ∈ (buildRecoveryDedupIndex state).keys := by
    rw [OrderedDict.contains, Option.isSome_iff_exists, OrderedDict.mem_keys]
  rw [isClientOrderIdDuplicate, Bool.and_eq_true, decide_eq_true_iff, contained, mem_dedupIndex]
  tauto

/-! ## Orders that may still be live -/

/-- The ids of a close's orders, one for each chunk. -/
def chunkIds (clientOrderIds : String) : List String := TextSearch.split ", " clientOrderIds

/-- Ids of an entry's orders: both legs, the hedge in flight and the resting order. -/
def PendingEntry.liveIds (pending : PendingEntry ExactFloat) : List String :=
  pending.recordedIds ++ (pending.hedgeInflight.map HedgeInflight.clientOrderId).toList ++
    (pending.passiveOrder.map PendingPassiveOrder.clientOrderId).toList

def PendingClose.liveIds (close : PendingClose) : List String :=
  close.recordedIds.flatMap chunkIds ++
    (close.longLegs ++ close.shortLegs).map CloseLegRecord.clientOrderId

def PendingPassiveClose.liveIds (close : PendingPassiveClose) : List String :=
  close.recordedIds ++
    (close.longLegs ++ close.shortLegs).map PersistedCloseExecutionLeg.clientOrderId

/-- An order of recovered work goes by this id. -/
def EngineState.MayBeLive (state : EngineState) (id : String) : Prop :=
  id ≠ "" ∧
    ((∃ entry ∈ state.pendingEntries.entries, id ∈ entry.2.liveIds) ∨
      (∃ entry ∈ state.pendingCloses.entries, id ∈ entry.2.liveIds) ∨
        ∃ entry ∈ state.pendingPassiveCloses.entries, id ∈ entry.2.liveIds)

/-- A key comes from recovered work: it is the id of an order, or the text in which a
close joins the ids of its orders. -/
def EngineState.FromWork (state : EngineState) (key : String) : Prop :=
  state.MayBeLive key ∨ ∃ entry ∈ state.pendingCloses.entries, key ∈ entry.2.recordedIds

/-- Every order that may be live is found, and nothing else is in the index. -/
structure EngineState.IndexCovers (state : EngineState) : Prop where
  found : ∀ id, state.MayBeLive id →
    isClientOrderIdDuplicate id (buildRecoveryDedupIndex state) = true
  owned : ∀ key ∈ (buildRecoveryDedupIndex state).keys, state.FromWork key

/-- The ids that no loop of the builder reads are recorded elsewhere: hedges in flight,
resting orders, chunks of joined texts, leg records and leg intents. -/
structure EngineState.IdsRecorded (state : EngineState) : Prop where
  hedges : ∀ entry ∈ state.pendingEntries.entries, ∀ inflight,
    entry.2.hedgeInflight = some inflight → inflight.clientOrderId ≠ "" →
      state.Recorded inflight.clientOrderId
  resting : ∀ entry ∈ state.pendingEntries.entries, ∀ order,
    entry.2.passiveOrder = some order → order.clientOrderId ≠ "" →
      state.Recorded order.clientOrderId
  chunks : ∀ entry ∈ state.pendingCloses.entries, ∀ text ∈ entry.2.recordedIds,
    ∀ id ∈ chunkIds text, id ≠ "" → state.Recorded id
  legs : ∀ entry ∈ state.pendingCloses.entries, ∀ leg ∈ entry.2.longLegs ++ entry.2.shortLegs,
    leg.clientOrderId ≠ "" → state.Recorded leg.clientOrderId
  intents : ∀ entry ∈ state.pendingPassiveCloses.entries,
    ∀ leg ∈ entry.2.longLegs ++ entry.2.shortLegs,
      leg.clientOrderId ≠ "" → state.Recorded leg.clientOrderId

theorem recorded_fromWork {state : EngineState} {key : String} (named : key ≠ "")
    (recorded : state.Recorded key) : state.FromWork key := by
  obtain ⟨entry, member, holds⟩ | ⟨entry, member, holds⟩ | ⟨entry, member, holds⟩ := recorded
  · have live : key ∈ entry.2.liveIds :=
      List.mem_append_left _ (List.mem_append_left _ holds)
    exact .inl ⟨named, .inl ⟨entry, member, live⟩⟩
  · exact .inr ⟨entry, member, holds⟩
  · exact .inl ⟨named, .inr (.inr ⟨entry, member, List.mem_append_left _ holds⟩)⟩

/-- Under the condition every id of an order is recorded. -/
theorem mayBeLive_recorded {state : EngineState} (recorded : state.IdsRecorded) {id : String}
    (live : state.MayBeLive id) : state.Recorded id := by
  obtain ⟨named, source⟩ := live
  obtain ⟨entry, member, holds⟩ | ⟨entry, member, holds⟩ | ⟨entry, member, holds⟩ := source
  · rw [PendingEntry.liveIds, List.mem_append, List.mem_append, Option.mem_toList,
      Option.mem_toList, Option.map_eq_some_iff, Option.map_eq_some_iff] at holds
    obtain (legs | ⟨inflight, stored, rfl⟩) | ⟨order, stored, rfl⟩ := holds
    · exact .inl ⟨entry, member, legs⟩
    · exact recorded.hedges entry member inflight stored named
    · exact recorded.resting entry member order stored named
  · rw [PendingClose.liveIds, List.mem_append, List.mem_flatMap, List.mem_map] at holds
    obtain ⟨text, stored, chunk⟩ | ⟨leg, stored, rfl⟩ := holds
    · exact recorded.chunks entry member text stored id chunk named
    · exact recorded.legs entry member leg stored named
  · rw [PendingPassiveClose.liveIds, List.mem_append, List.mem_map] at holds
    obtain legs | ⟨leg, stored, rfl⟩ := holds
    · exact .inr (.inr ⟨entry, member, legs⟩)
    · exact recorded.intents entry member leg stored named

theorem dedup_index_covers_iff (state : EngineState) :
    state.IndexCovers ↔ state.IdsRecorded := by
  constructor
  · intro covers
    have found (id : String) (live : state.MayBeLive id) : state.Recorded id :=
      ((duplicate_iff state id).mp (covers.found id live)).2
    constructor
    case hedges =>
      intro entry member inflight stored named
      have listed : inflight.clientOrderId ∈ entry.2.liveIds := by
        simp [PendingEntry.liveIds, stored]
      exact found _ ⟨named, .inl ⟨entry, member, listed⟩⟩
    case resting =>
      intro entry member order stored named
      have listed : order.clientOrderId ∈ entry.2.liveIds := by
        simp [PendingEntry.liveIds, stored]
      exact found _ ⟨named, .inl ⟨entry, member, listed⟩⟩
    case chunks =>
      intro entry member text stored id chunk named
      have listed : id ∈ entry.2.liveIds :=
        List.mem_append_left _ (List.mem_flatMap.mpr ⟨text, stored, chunk⟩)
      exact found id ⟨named, .inr (.inl ⟨entry, member, listed⟩)⟩
    case legs =>
      intro entry member leg stored named
      have listed : leg.clientOrderId ∈ entry.2.liveIds :=
        List.mem_append_right _ (List.mem_map_of_mem stored)
      exact found _ ⟨named, .inr (.inl ⟨entry, member, listed⟩)⟩
    case intents =>
      intro entry member leg stored named
      have listed : leg.clientOrderId ∈ entry.2.liveIds :=
        List.mem_append_right _ (List.mem_map_of_mem stored)
      exact found _ ⟨named, .inr (.inr ⟨entry, member, listed⟩)⟩
  · intro recorded
    constructor
    case found =>
      intro id live
      exact (duplicate_iff state id).mpr ⟨live.1, mayBeLive_recorded recorded live⟩
    case owned =>
      intro key member
      obtain ⟨named, stored⟩ := (mem_dedupIndex state key).mp member
      exact recorded_fromWork named stored

/-- An entry whose hedge is in flight under an id of its own. -/
def hedgingEntry : PendingEntry ExactFloat :=
  { pendingId := "entry", symbol := "BTCUSDT", longVenue := .binance, shortVenue := .okx,
    targetQuantity := .finite 1, longSide := .buy, shortSide := .sell, createdAtMs := 1,
    hedgeInflight := some
      { clientOrderId := "h1", venue := .okx, side := .sell, quantity := .finite 1 } }

/-- Its hedge is not found. -/
theorem dedup_misses_hedge :
    ¬ ({ pendingEntries := OrderedDict.empty.insert "entry" hedgingEntry } : EngineState).IndexCovers
    := by
  intro covers
  have missed : isClientOrderIdDuplicate "h1" (buildRecoveryDedupIndex
      { pendingEntries := OrderedDict.empty.insert "entry" hedgingEntry }) = false := by
    decide +kernel
  have found := covers.found "h1" ⟨by decide, .inl ⟨("entry", hedgingEntry), by
    exact List.mem_singleton.mpr rfl, by decide +kernel⟩⟩
  rw [missed] at found
  cases found

end LightFee.Engine
