import LightFee.Engine.ResidualRepairExits

/-!
# Drops and gates of a pass

A pass drops a repair when its turn leaves nothing of it. The drops of a pass are proven when each
of its exits is backed by what it was answered. The gates that a pass removes are those that its
dropped repairs let go of, so a gate outlives the repairs of its pair only when all of them are
dropped together.
-/

namespace LightFee.Engine

open LightFee.Venues ExactFloat

section Drops

variable [TextCase] (env : RepairEnvironment) (nowMs : Int)
  (positions : OrderedDict String OpenPosition)

/-! ## One turn -/

/-- A turn leaves nothing of a task that is unreadable or has no successor. -/
theorem leaves_nothing_iff (answers : RepairAnswers) (task : RepairTask) :
    leavesOf env nowMs positions answers (.task task) = [] ↔
      (workOnRepair env nowMs positions answers task).outcome = .invalid ∨
        ∃ exit, (workOnRepair env nowMs positions answers task).outcome = .left exit none := by
  simp only [leavesOf]
  cases (workOnRepair env nowMs positions answers task).outcome with
  | waiting => simp
  | invalid => simp
  | retained changed blocked => simp
  | left exit successor => cases successor <;> simp

/-- What a turn leaves of a task is a task of its scope. -/
theorem leaves_in_scope {answers : RepairAnswers} {task : RepairTask} {left : RepairItem}
    (present : left ∈ leavesOf env nowMs positions answers (.task task)) :
    ∃ repair : RepairTask, left = .task repair ∧ repair.scope = task.scope := by
  have inScope := invalid_or_in_scope env nowMs positions answers task
  unfold leavesOf at present
  dsimp only at present
  cases outcome : (workOnRepair env nowMs positions answers task).outcome with
  | waiting =>
    rw [outcome] at present
    exact ⟨task, List.mem_singleton.mp present, rfl⟩
  | invalid =>
    rw [outcome] at present
    cases present
  | retained changed blocked =>
    rw [outcome] at present inScope
    exact ⟨changed, List.mem_singleton.mp present, inScope.resolve_left nofun⟩
  | left exit successor =>
    rw [outcome] at present inScope
    obtain ⟨next, chosen, rfl⟩ := List.mem_map.mp present
    exact ⟨next, rfl, inScope.resolve_left nofun next (Option.mem_toList.mp chosen)⟩

theorem mem_repair_turns (items : List RepairItem) :
    ∀ (answers : Nat → RepairAnswers) (left : RepairItem),
      left ∈ (repairTurns env nowMs positions answers items).flatMap RepairTurn.leaves ↔
        ∃ index item, items[index]? = some item ∧
          left ∈ leavesOf env nowMs positions (answers index) item := by
  induction items with
  | nil =>
    intro answers left
    simp [repairTurns]
  | cons head rest later =>
    intro answers left
    rw [repairTurns, List.flatMap_cons, List.mem_append, later]
    constructor
    · rintro (here | ⟨index, item, present, left⟩)
      · exact ⟨0, head, rfl, here⟩
      · exact ⟨index + 1, item, present, left⟩
    · rintro ⟨index, item, present, left⟩
      cases index with
      | zero =>
        cases present
        exact .inl left
      | succ index => exact .inr ⟨index, item, present, left⟩

/-- The repairs after a pass are what its turns leave. -/
theorem mem_pending_after (answers : Nat → RepairAnswers) (state : RepairState)
    (left : RepairItem) :
    left ∈ (recoverResidualRepairs env nowMs positions answers state).state.pendingResidualRepairs ↔
      ∃ index item, state.pendingResidualRepairs[index]? = some item ∧
        left ∈ leavesOf env nowMs positions (answers index) item := by
  have tracks := (RepairPass.tracks_start state).run env nowMs positions
    state.pendingResidualRepairs answers
  rw [turns_after, List.map_nil, List.nil_append] at tracks
  rw [← mem_repair_turns]
  exact (Multiset.coe_eq_coe.mp tracks.live).mem_iff

/-! ## Gates -/

/-- A turn lets go of the gate: it drops a task of its pair without a successor. -/
def LetsGo (answers : RepairAnswers) (item : RepairItem) (gate : GateItem) : Prop :=
  ∃ task exit, item = .task task ∧
    (workOnRepair env nowMs positions answers task).outcome = .left exit none ∧
    gate.releasedBy task.pairId task.symbol = true

omit [TextCase] in
theorem mem_release {pairId symbol : String} {gates : List GateItem} {gate : GateItem} :
    gate ∈ releasePairGate pairId symbol gates ↔
      gate ∈ gates ∧ gate.releasedBy pairId symbol = false := by
  rw [releasePairGate, List.mem_filter, Bool.not_eq_true']

theorem mem_gates_step (answers : RepairAnswers) (rest : List RepairItem) (pass : RepairPass)
    (item : RepairItem) (gate : GateItem) :
    gate ∈ (RepairPass.step env nowMs positions answers rest pass item).gates ↔
      gate ∈ pass.gates ∧ ¬ LetsGo env nowMs positions answers item gate := by
  cases item with
  | other value =>
    have kept : ¬ LetsGo env nowMs positions answers (.other value) gate := by
      rintro ⟨task, exit, same, _⟩
      cases same
    simp [RepairPass.step, kept]
  | task task =>
    have stays (others : ∀ exit, (workOnRepair env nowMs positions answers task).outcome ≠
        .left exit none) : ¬ LetsGo env nowMs positions answers (.task task) gate := by
      rintro ⟨dropped, exit, same, outcome, _⟩
      cases same
      exact others exit outcome
    simp only [RepairPass.step]
    cases outcome : (workOnRepair env nowMs positions answers task).outcome with
    | waiting | invalid | retained =>
      have kept := stays fun exit same => by
        rw [outcome] at same
        cases same
      simp [RepairPass.note, kept]
    | left exit successor =>
      cases successor with
      | some next =>
        have kept := stays fun exit same => by
          rw [outcome] at same
          cases same
        simp [RepairPass.note, RepairPass.complete, kept]
      | none =>
        have released : LetsGo env nowMs positions answers (.task task) gate ↔
            gate.releasedBy task.pairId task.symbol = true := by
          constructor
          · rintro ⟨dropped, _, same, _, released⟩
            cases same
            exact released
          · exact fun released => ⟨task, exit, rfl, outcome, released⟩
        rw [released, Bool.not_eq_true]
        exact mem_release

/-- The gates after the loop are those that no turn lets go of. -/
theorem mem_gates_run (items : List RepairItem) :
    ∀ (answers : Nat → RepairAnswers) (pass : RepairPass) (gate : GateItem),
      gate ∈ (RepairPass.run env nowMs positions answers items pass).gates ↔
        gate ∈ pass.gates ∧ ∀ index item, items[index]? = some item →
          ¬ LetsGo env nowMs positions (answers index) item gate := by
  induction items with
  | nil =>
    intro answers pass gate
    simp [RepairPass.run]
  | cons head rest later =>
    intro answers pass gate
    rw [RepairPass.run, later, mem_gates_step, and_assoc]
    refine and_congr_right (fun _ => ?_)
    constructor
    · rintro ⟨first, others⟩ index item present
      cases index with
      | zero =>
        cases present
        exact first
      | succ index => exact others index item present
    · intro all
      exact ⟨all 0 head rfl, fun index item present => all (index + 1) item present⟩

/-! ## Drops of a pass -/

/-- Every task of a pass that named a venue, a side and a positive quantity and is dropped, is
proven settled. -/
def DropsProven (answers : Nat → RepairAnswers) (state : RepairState) : Prop :=
  ∀ index task venue side, state.pendingResidualRepairs[index]? = some (.task task) →
    task.direction = some (venue, side) → (finite 0).lt task.namedQuantity = true →
    leavesOf env nowMs positions (answers index) (.task task) = [] →
    (repairWork env nowMs positions (answers index) task venue side).DropProven
      (workOnRepair env nowMs positions (answers index) task).evidence

/-- No repair remains that a removed gate is filed under. -/
def GatesOutlive (answers : Nat → RepairAnswers) (state : RepairState) : Prop :=
  let after := (recoverResidualRepairs env nowMs positions answers state).state
  ∀ gate ∈ state.liveRecoveryReduceOnlyPairs, gate ∉ after.liveRecoveryReduceOnlyPairs →
    ∀ repair : RepairTask, .task repair ∈ after.pendingResidualRepairs →
      gate.filedUnder repair.pairId repair.symbol = false

/-- The quantity of each dropped task is no dust, and its exit is backed by what the turn was
answered. -/
def DropsBacked (answers : Nat → RepairAnswers) (state : RepairState) : Prop :=
  ∀ index task venue side, state.pendingResidualRepairs[index]? = some (.task task) →
    task.direction = some (venue, side) → (finite 0).lt task.namedQuantity = true →
    leavesOf env nowMs positions (answers index) (.task task) = [] →
    flatDust.lt task.namedQuantity = true ∧
      ∀ exit, (workOnRepair env nowMs positions (answers index) task).outcome = .left exit none →
        (repairWork env nowMs positions (answers index) task venue side).DropBacked
          (workOnRepair env nowMs positions (answers index) task).evidence exit

/-- A gate that one turn lets go of is needed by no task that another turn keeps. -/
def PairsSettleTogether (answers : Nat → RepairAnswers) (state : RepairState) : Prop :=
  ∀ gate ∈ state.liveRecoveryReduceOnlyPairs, ∀ first item,
    state.pendingResidualRepairs[first]? = some item →
    LetsGo env nowMs positions (answers first) item gate →
    ∀ second (other : RepairTask), state.pendingResidualRepairs[second]? = some (.task other) →
      gate.filedUnder other.pairId other.symbol = true →
      leavesOf env nowMs positions (answers second) (.task other) = []

omit [TextCase] in
/-- A quantity above zero is dust, or it is above dust. -/
theorem dust_or_above {quantity : ExactFloat} (positive : (finite 0).lt quantity = true) :
    quantity.le flatDust = true ∨ flatDust.lt quantity = true := by
  cases quantity with
  | notANumber => cases positive
  | infinite negative => cases negative with
    | true => cases positive
    | false => exact .inr rfl
  | finite exact =>
    simp only [flatDust, le_finite, lt_finite, decide_eq_true_iff]
    exact le_or_gt _ _

omit env nowMs positions in
/-- A task with a quantity above dust is readable. -/
theorem readable_of_above {task : RepairTask} {venue : Venue} {side : Side}
    (direction : task.direction = some (venue, side))
    (above : flatDust.lt task.namedQuantity = true) :
    task.fields = some (venue, side, task.namedQuantity) := by
  rw [RepairTask.fields_of_direction direction, RepairWork.not_dust_of_lt above]
  rfl

theorem drops_proven_iff (answers : Nat → RepairAnswers) (state : RepairState) :
    DropsProven env nowMs positions answers state ↔
      DropsBacked env nowMs positions answers state := by
  constructor
  · intro proven index task venue side present direction positive nothing
    have proof := proven index task venue side present direction positive nothing
    have above : flatDust.lt task.namedQuantity = true := by
      rcases dust_or_above positive with dust | above
      · -- The reader takes dust for unreadable, and nothing is looked at.
        have unread : task.fields = none := by
          rw [RepairTask.fields_of_direction direction, if_pos dust]
        rw [unreadable_is_invalid env nowMs positions _ unread] at proof
        obtain ⟨look, looked, _⟩ := RepairWork.accepted_of_proven rfl proof
        cases looked
      · exact above
    have judged := work_on_repair_judged env nowMs positions (answers index)
      (readable_of_above direction above)
    exact ⟨above, fun exit dropped => (judged exit dropped).mp proof⟩
  · intro backed index task venue side present direction positive nothing
    obtain ⟨above, exits⟩ := backed index task venue side present direction positive nothing
    have readable := readable_of_above direction above
    have inScope := work_on_repair_in_scope env nowMs positions (answers index)
      (readable ▸ Option.some_ne_none _)
    rcases (leaves_nothing_iff env nowMs positions _ _).mp nothing with invalid | ⟨exit, dropped⟩
    · rw [invalid] at inScope
      cases inScope
    · exact (work_on_repair_judged env nowMs positions (answers index) readable exit dropped).mpr
        (exits exit dropped)

/-- A pair's gate outlives its repairs just when they are dropped together. -/
theorem gates_outlive_iff (answers : Nat → RepairAnswers) (state : RepairState) :
    GatesOutlive env nowMs positions answers state ↔
      PairsSettleTogether env nowMs positions answers state := by
  have gates := mem_gates_run env nowMs positions state.pendingResidualRepairs answers
    { gates := state.liveRecoveryReduceOnlyPairs }
  constructor
  · intro outlive gate held first item present released second other still needed
    by_contra kept
    obtain ⟨left, remains⟩ := List.exists_mem_of_ne_nil _ kept
    obtain ⟨repair, rfl, scope⟩ := leaves_in_scope env nowMs positions remains
    have removed : gate ∉ (recoverResidualRepairs env nowMs positions answers
        state).state.liveRecoveryReduceOnlyPairs := by
      intro there
      exact ((gates gate).mp there).2 first item present released
    have pending := (mem_pending_after env nowMs positions answers state (.task repair)).mpr
      ⟨second, .task other, still, remains⟩
    have free := outlive gate held removed repair pending
    obtain ⟨_, samePair, sameSymbol, _⟩ := RepairScope.mk.inj scope
    rw [samePair, sameSymbol, needed] at free
    cases free
  · intro together gate held removed repair pending
    by_contra needed
    have released : ∃ first item, state.pendingResidualRepairs[first]? = some item ∧
        LetsGo env nowMs positions (answers first) item gate := by
      by_contra none
      push Not at none
      exact removed ((gates gate).mpr ⟨held, none⟩)
    obtain ⟨first, item, present, letsGo⟩ := released
    obtain ⟨second, other, still, remains⟩ :=
      (mem_pending_after env nowMs positions answers state (.task repair)).mp pending
    cases other with
    | other value =>
      have same : RepairItem.task repair = .other value := List.mem_singleton.mp remains
      cases same
    | task task =>
      obtain ⟨_, same, scope⟩ := leaves_in_scope env nowMs positions remains
      cases same
      obtain ⟨_, samePair, sameSymbol, _⟩ := RepairScope.mk.inj scope
      rw [samePair, sameSymbol] at needed
      have nothing := together gate held first item present letsGo second task still
        (Bool.not_eq_false _ ▸ needed)
      rw [nothing] at remains
      cases remains

/-- A turn before its time keeps the task, whatever the venues would answer. -/
theorem leaves_waiting (answers : RepairAnswers) {task : RepairTask}
    (readable : task.fields.isSome = true) (named : 0 < task.nextAttemptMs)
    (early : nowMs < task.nextAttemptMs) :
    leavesOf env nowMs positions answers (.task task) = [.task task] := by
  obtain ⟨⟨venue, side, quantity⟩, fields⟩ := Option.isSome_iff_exists.mp readable
  have waits : (workOnRepair env nowMs positions answers task).outcome = .waiting := by
    unfold workOnRepair
    rw [fields]
    dsimp only
    rw [if_pos ⟨named, early⟩]
  simp only [leavesOf, waits]

/-- A gate falls with the first repair that lets go of it while another of its repairs waits. -/
theorem gates_fall_waiting {answers : Nat → RepairAnswers} {state : RepairState} {gate : GateItem}
    (held : gate ∈ state.liveRecoveryReduceOnlyPairs) (first second : Nat) {item : RepairItem}
    (present : state.pendingResidualRepairs[first]? = some item)
    (released : LetsGo env nowMs positions (answers first) item gate) {task : RepairTask}
    (still : state.pendingResidualRepairs[second]? = some (.task task))
    (needed : gate.filedUnder task.pairId task.symbol = true)
    (readable : task.fields.isSome = true) (named : 0 < task.nextAttemptMs)
    (early : nowMs < task.nextAttemptMs) : ¬ GatesOutlive env nowMs positions answers state := by
  rw [gates_outlive_iff]
  intro together
  have nothing := together gate held first item present released second task still needed
  rw [leaves_waiting env nowMs positions (answers second) readable named early] at nothing
  cases nothing

/-- A pass drops repairs with proof and lets their gates outlive them just when the exits are
backed and the repairs of a gate are dropped together. -/
theorem proven_drops_iff (answers : Nat → RepairAnswers) (state : RepairState) :
    (DropsProven env nowMs positions answers state ∧ GatesOutlive env nowMs positions answers state) ↔
      DropsBacked env nowMs positions answers state ∧
        PairsSettleTogether env nowMs positions answers state :=
  and_congr (drops_proven_iff env nowMs positions answers state)
    (gates_outlive_iff env nowMs positions answers state)

end Drops

/-! ## A position that is missing -/

section Missing

local instance dropTexts : TextCase := .ascii

/-- No venue answers with a position. -/
def unanswered : RepairAnswers :=
  { acknowledged with look := fun _ => { position := .ok none, openOrders := .ok 0 } }

def pairRepair : RepairTask :=
  { sellTwo with pairId := "BTCUSDT:bybit->okx" }

/-- A repair of the same pair on the other venue that is not due yet. -/
def laterRepair : RepairTask :=
  { pairRepair with repairVenue := "okx", repairSide := "buy", nextAttemptMs := 10 }

def sharedGate : PairGate where
  pairId := "BTCUSDT:bybit->okx"
  symbol := "BTCUSDT"
  longVenue := "bybit"
  shortVenue := "okx"

def gatedPair : RepairState where
  pendingResidualRepairs := [.task pairRepair, .task laterRepair]
  liveRecoveryReduceOnlyPairs := [.gate sharedGate]

/-- The exit of a turn that drops its task. -/
def RepairOutcome.dropExit : RepairOutcome → Option RepairExit
  | .left exit none => some exit
  | _ => none

theorem outcome_of_drop_exit {outcome : RepairOutcome} {exit : RepairExit}
    (dropped : outcome.dropExit = some exit) : outcome = .left exit none := by
  unfold RepairOutcome.dropExit at dropped
  split at dropped
  · rw [Option.some.inj dropped]
  · cases dropped

/-- A repair is dropped as flat though its venue answered no position, and the gate of its pair
goes with it while the other repair of the pair remains. -/
theorem missing_position_drops_repair :
    ¬ DropsProven everyAdapter 1 noPositions (fun _ => unanswered) gatedPair ∧
      ¬ GatesOutlive everyAdapter 1 noPositions (fun _ => unanswered) gatedPair := by
  have dropped : (workOnRepair everyAdapter 1 noPositions unanswered pairRepair).outcome =
      .left .alreadyFlat none := outcome_of_drop_exit (by decide +kernel)
  constructor
  · rw [drops_proven_iff]
    intro backed
    obtain ⟨_, exits⟩ := backed 0 pairRepair .bybit .sell rfl (by decide +kernel)
      (by decide +kernel) ((leaves_nothing_iff _ _ _ _ _).mpr (.inr ⟨_, dropped⟩))
    obtain ⟨look, looked, answered⟩ := exits .alreadyFlat dropped
    have unseen : ((workOnRepair everyAdapter 1 noPositions unanswered
        pairRepair).evidence.look.all (fun look => (look.positionOf .bybit).isNone)) = true := by
      decide +kernel
    rw [Option.mem_def.mp looked] at unseen
    have missing : look.positionOf .bybit = none := Option.isNone_iff_eq_none.mp unseen
    have present : (look.positionOf .bybit).isSome = true := answered
    rw [missing] at present
    cases present
  · have released : LetsGo everyAdapter 1 noPositions unanswered (.task pairRepair)
        (.gate sharedGate) := ⟨pairRepair, _, rfl, dropped, by decide +kernel⟩
    have readable : laterRepair.fields.isSome = true := by decide +kernel
    exact gates_fall_waiting everyAdapter 1 noPositions List.mem_cons_self 0 1 rfl released rfl
      (by decide +kernel) readable (by decide) (by decide)

end Missing

end LightFee.Engine
