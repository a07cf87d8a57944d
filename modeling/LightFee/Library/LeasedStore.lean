import Mathlib.Logic.Function.Basic
import Mathlib.Tactic.SplitIfs

/-!
# A store behind a lease

Processes share a snapshot and a journal behind one lock. A process takes the lock, reads the
state, and then appends a record for each command and writes the snapshot, which marks how much of
the journal it covers. It may leave at any point; the lock is then free and both files stay as they
are. A process that reads the snapshot alone misses what the journal holds behind the mark; one
that recovers replays it.

Whatever the order of the steps, one process at most is inside. As long as no process reads a
snapshot that the journal has outrun, the state that a recovery would find changes by commands
alone, one after another.
-/

namespace LeasedStore

universe u v w x

/-- What commands do to a state, what they leave in the journal and how that is replayed. -/
structure Behaviour (State : Type u) (Command : Type v) (Record : Type w) where
  apply : Command → State → State
  record : Command → State → Record
  replay : State → Record → State

/-- Replaying a command's record over the state that it was made from gives the command's state. -/
def Behaviour.Faithful {State : Type u} {Command : Type v} {Record : Type w}
    (behaviour : Behaviour State Command Record) : Prop :=
  ∀ command state, behaviour.replay state (behaviour.record command state) =
    behaviour.apply command state

/-- Where a process is: outside, with the lock alone, or with a state in memory. -/
inductive Phase (State : Type u) where
  | outside
  | holding
  | active (state : State)

structure World (Process : Type x) (State : Type u) (Record : Type w) where
  holder : Option Process := none
  snapshot : State
  /-- How many records the snapshot covers. -/
  checkpoint : Nat := 0
  journal : List Record := []
  phase : Process → Phase State := fun _ => .outside

inductive Action (Process : Type x) (Command : Type v) where
  | acquire (process : Process)
  | load (process : Process)
  | recover (process : Process)
  | append (process : Process) (command : Command)
  | write (process : Process)
  /-- The end of a process, wherever it is. -/
  | leave (process : Process)

section Runs

variable {Process : Type x} {State : Type u} {Command : Type v} {Record : Type w}
  [DecidableEq Process]

namespace World

/-- The records that the snapshot does not cover. -/
def tail (world : World Process State Record) : List Record := world.journal.drop world.checkpoint

def move (world : World Process State Record) (process : Process) (phase : Phase State) :
    World Process State Record :=
  { world with phase := Function.update world.phase process phase }

@[simp] theorem move_phase (world : World Process State Record) (process other : Process)
    (phase : Phase State) : (world.move process phase).phase other =
      if other = process then phase else world.phase other := by
  exact Function.update_apply world.phase process phase other

end World

variable (behaviour : Behaviour State Command Record)

/-- The state that a recovery finds. -/
def recovered (world : World Process State Record) : State :=
  world.tail.foldl behaviour.replay world.snapshot

def step (world : World Process State Record) :
    Action Process Command → Option (World Process State Record)
  | .acquire process =>
    match world.holder, world.phase process with
    | none, .outside => some { world.move process .holding with holder := some process }
    | _, _ => none
  | .load process =>
    match world.phase process with
    | .holding => some (world.move process (.active world.snapshot))
    | _ => none
  | .recover process =>
    match world.phase process with
    | .holding => some (world.move process (.active (recovered behaviour world)))
    | _ => none
  | .append process command =>
    match world.phase process with
    | .active state =>
      some { world.move process (.active (behaviour.apply command state)) with
        journal := world.journal ++ [behaviour.record command state] }
    | _ => none
  | .write process =>
    match world.phase process with
    | .active state =>
      some { world with snapshot := state, checkpoint := world.journal.length }
    | _ => none
  | .leave process =>
    match world.phase process with
    | .outside => none
    | _ => some { world.move process .outside with holder := none }

def run (world : World Process State Record) :
    List (Action Process Command) → Option (World Process State Record)
  | [] => some world
  | action :: rest => (step behaviour world action).bind (fun next => run next rest)

def Action.command? : Action Process Command → Option Command
  | .append _ command => some command
  | _ => none

/-- The commands of a run, in their order. -/
def commands (actions : List (Action Process Command)) : List Command :=
  actions.filterMap Action.command?

/-- No process of the run reads a snapshot that the journal has outrun. -/
def LoadsCurrent (world : World Process State Record) : List (Action Process Command) → Prop
  | [] => True
  | action :: rest =>
    (∀ process, action = .load process → world.tail = []) ∧
      ∀ next, step behaviour world action = some next → LoadsCurrent next rest

/-! ## What each step does -/

variable {behaviour} {world next : World Process State Record} {process : Process}

theorem step_acquire :
    step behaviour world (.acquire process) = some next ↔
      world.holder = none ∧ world.phase process = .outside ∧
        { world.move process .holding with holder := some process } = next := by
  rw [step]
  split
  case h_1 free outside => simp [free, outside]
  case h_2 other =>
    simp only [reduceCtorEq, false_iff]
    rintro ⟨free, outside, _⟩
    exact other free outside

theorem step_load :
    step behaviour world (.load process) = some next ↔
      world.phase process = .holding ∧ world.move process (.active world.snapshot) = next := by
  rw [step]
  cases phase : world.phase process <;> simp

theorem step_recover :
    step behaviour world (.recover process) = some next ↔
      world.phase process = .holding ∧
        world.move process (.active (recovered behaviour world)) = next := by
  rw [step]
  cases phase : world.phase process <;> simp

theorem step_append {command : Command} :
    step behaviour world (.append process command) = some next ↔
      ∃ state, world.phase process = .active state ∧
        { world.move process (.active (behaviour.apply command state)) with
          journal := world.journal ++ [behaviour.record command state] } = next := by
  rw [step]
  cases phase : world.phase process <;> simp

theorem step_write :
    step behaviour world (.write process) = some next ↔
      ∃ state, world.phase process = .active state ∧
        { world with snapshot := state, checkpoint := world.journal.length } = next := by
  rw [step]
  cases phase : world.phase process <;> simp

theorem step_leave :
    step behaviour world (.leave process) = some next ↔
      world.phase process ≠ .outside ∧ { world.move process .outside with holder := none } = next := by
  rw [step]
  cases phase : world.phase process <;> simp

/-! ## One process at a time -/

/-- Whoever is inside holds the lock. -/
def Exclusive (world : World Process State Record) : Prop :=
  ∀ process, world.phase process ≠ .outside → world.holder = some process

/-- A process that moves inside while it holds the lock leaves the others outside. -/
theorem Exclusive.move (exclusive : Exclusive world) (inside : world.phase process ≠ .outside)
    (phase : Phase State) : Exclusive (world.move process phase) := by
  intro other otherInside
  by_cases same : other = process
  · subst same
    exact exclusive other inside
  · rw [World.move_phase, if_neg same] at otherInside
    exact exclusive other otherInside

theorem step_exclusive (exclusive : Exclusive world) {action : Action Process Command}
    (stepped : step behaviour world action = some next) : Exclusive next := by
  cases action with
  | acquire process =>
    obtain ⟨free, _, rfl⟩ := step_acquire.mp stepped
    intro other inside
    by_cases same : other = process
    · rw [same]
    · have outside : world.phase other ≠ .outside := by
        simpa [World.move, Function.update_apply, same] using inside
      rw [exclusive other outside] at free
      cases free
  | load process =>
    obtain ⟨holding, rfl⟩ := step_load.mp stepped
    exact exclusive.move (by simp [holding]) _
  | recover process =>
    obtain ⟨holding, rfl⟩ := step_recover.mp stepped
    exact exclusive.move (by simp [holding]) _
  | append process command =>
    obtain ⟨state, active, rfl⟩ := step_append.mp stepped
    exact exclusive.move (by simp [active]) _
  | write process =>
    obtain ⟨state, active, rfl⟩ := step_write.mp stepped
    exact exclusive
  | leave process =>
    obtain ⟨inside, rfl⟩ := step_leave.mp stepped
    intro other otherInside
    by_cases same : other = process
    · exact absurd (by rw [same]; exact Function.update_self ..) otherInside
    · have outside : world.phase other ≠ .outside := by
        simpa [World.move, Function.update_apply, same] using otherInside
      have holder := (exclusive process inside).symm.trans (exclusive other outside)
      exact absurd (Option.some.inj holder).symm same

/-! ## One command after another -/

/-- A state in memory is the state that a recovery would find. -/
def Current (behaviour : Behaviour State Command Record) (world : World Process State Record) :
    Prop :=
  ∀ process state, world.phase process = .active state → state = recovered behaviour world

structure Settled (behaviour : Behaviour State Command Record)
    (world : World Process State Record) : Prop where
  exclusive : Exclusive world
  bounded : world.checkpoint ≤ world.journal.length
  current : Current behaviour world

variable (behaviour) in
omit [DecidableEq Process] in
theorem recovered_append (bounded : world.checkpoint ≤ world.journal.length) (record : Record) :
    recovered behaviour { world with journal := world.journal ++ [record] } =
      behaviour.replay (recovered behaviour world) record := by
  simp [recovered, World.tail, List.drop_append_of_le_length bounded]

/-- A step keeps the state that a recovery finds, but for a command, which is applied to it. -/
theorem step_recovered (faithful : behaviour.Faithful) (settled : Settled behaviour world)
    {action : Action Process Command} (current : ∀ process, action = .load process → world.tail = [])
    (stepped : step behaviour world action = some next) :
    Settled behaviour next ∧
      recovered behaviour next =
        action.command?.elim (recovered behaviour world)
          (fun command => behaviour.apply command (recovered behaviour world)) := by
  have exclusive := step_exclusive settled.exclusive stepped
  cases action with
  | acquire process =>
    obtain ⟨_, _, rfl⟩ := step_acquire.mp stepped
    refine ⟨⟨exclusive, settled.bounded, fun other state active => ?_⟩, rfl⟩
    by_cases same : other = process
    · simp [World.move, same] at active
    · exact settled.current other state (by simpa [World.move, Function.update_apply, same] using active)
  | load process =>
    obtain ⟨_, rfl⟩ := step_load.mp stepped
    have empty := current process rfl
    refine ⟨⟨exclusive, settled.bounded, fun other state active => ?_⟩, rfl⟩
    rw [World.move_phase] at active
    split_ifs at active with same
    · cases active
      change world.snapshot = world.tail.foldl behaviour.replay world.snapshot
      rw [empty]
      rfl
    · exact settled.current other state active
  | recover process =>
    obtain ⟨_, rfl⟩ := step_recover.mp stepped
    refine ⟨⟨exclusive, settled.bounded, fun other state active => ?_⟩, rfl⟩
    rw [World.move_phase] at active
    split_ifs at active with same
    · cases active
      rfl
    · exact settled.current other state active
  | append process command =>
    obtain ⟨state, active, rfl⟩ := step_append.mp stepped
    have known := settled.current process state active
    have replayed : recovered behaviour
        { world.move process (.active (behaviour.apply command state)) with
          journal := world.journal ++ [behaviour.record command state] } =
        behaviour.apply command (recovered behaviour world) := by
      have appended := recovered_append behaviour settled.bounded
        (behaviour.record command state)
      rw [← known, faithful] at appended
      rw [← known]
      exact appended
    refine ⟨⟨exclusive, ?_, fun other otherState otherActive => ?_⟩, replayed⟩
    · change world.checkpoint ≤ (world.journal ++ [behaviour.record command state]).length
      rw [List.length_append]
      exact Nat.le_trans settled.bounded (Nat.le_add_right _ _)
    · rw [replayed, ← known]
      by_cases same : other = process
      · subst same
        simpa [World.move, Function.update_apply, eq_comm] using otherActive
      · have elsewhere : world.phase other = .active otherState := by
          simpa [World.move, Function.update_apply, same] using otherActive
        have holder := (settled.exclusive process (by simp [active])).symm.trans
          (settled.exclusive other (by simp [elsewhere]))
        exact absurd (Option.some.inj holder).symm same
  | write process =>
    obtain ⟨state, active, rfl⟩ := step_write.mp stepped
    have known := settled.current process state active
    have covered : recovered behaviour
        { world with snapshot := state, checkpoint := world.journal.length } = state := by
      simp [recovered, World.tail]
    refine ⟨⟨exclusive, Nat.le_refl _, fun other otherState otherActive => ?_⟩, covered.trans known⟩
    rw [covered, known]
    exact settled.current other otherState otherActive
  | leave process =>
    obtain ⟨_, rfl⟩ := step_leave.mp stepped
    refine ⟨⟨exclusive, settled.bounded, fun other state active => ?_⟩, rfl⟩
    by_cases same : other = process
    · simp [World.move, same] at active
    · exact settled.current other state (by simpa [World.move, Function.update_apply, same] using active)

/-- What a recovery finds after a run is what the run's commands make of what it found before,
one after another in the order of their records. -/
theorem run_serial (faithful : behaviour.Faithful) (settled : Settled behaviour world)
    {actions : List (Action Process Command)} (current : LoadsCurrent behaviour world actions)
    (ran : run behaviour world actions = some next) :
    Settled behaviour next ∧ recovered behaviour next =
      (commands actions).foldl (fun state command => behaviour.apply command state)
        (recovered behaviour world) := by
  induction actions generalizing world with
  | nil =>
    cases ran
    exact ⟨settled, rfl⟩
  | cons action rest ih =>
    obtain ⟨middle, stepped, ran⟩ := Option.bind_eq_some_iff.mp ran
    obtain ⟨settledMiddle, moved⟩ := step_recovered faithful settled current.1 stepped
    obtain ⟨settledNext, recovery⟩ :=
      ih settledMiddle (current.2 middle stepped) ran
    refine ⟨settledNext, ?_⟩
    rw [recovery, moved, commands, commands]
    cases given : action.command? with
    | none => rw [List.filterMap_cons_none given]; rfl
    | some command => rw [List.filterMap_cons_some given]; rfl

theorem loadsCurrent_cons {action : Action Process Command} {rest : List (Action Process Command)}
    (stepped : step behaviour world action = some next)
    (current : ∀ process, action = .load process → world.tail = [])
    (later : LoadsCurrent behaviour next rest) : LoadsCurrent behaviour world (action :: rest) := by
  refine ⟨current, fun other otherStepped => ?_⟩
  cases stepped.symm.trans otherStepped
  exact later

theorem run_append (world : World Process State Record) (front back : List (Action Process Command)) :
    run behaviour world (front ++ back) =
      (run behaviour world front).bind (fun middle => run behaviour middle back) := by
  induction front generalizing world with
  | nil => rfl
  | cons action rest ih =>
    rw [List.cons_append, run, run, Option.bind_assoc]
    simp only [ih]

variable (behaviour) in
/-- A free lock can be taken, and the snapshot read. -/
theorem run_enter (free : world.holder = none) (outside : world.phase process = .outside) :
    ∃ entered, run behaviour world [Action.acquire process, .load process] = some entered ∧
      entered.phase process = .active world.snapshot ∧ entered.snapshot = world.snapshot ∧
      entered.journal = world.journal ∧ entered.checkpoint = world.checkpoint ∧
      ∀ other, other ≠ process → entered.phase other = world.phase other := by
  let holding := { world.move process .holding with holder := some process }
  have first : step behaviour world (.acquire process) = some holding :=
    step_acquire.mpr ⟨free, outside, rfl⟩
  have second : step behaviour holding (.load process) =
      some (holding.move process (.active world.snapshot)) :=
    step_load.mpr ⟨Function.update_self .., rfl⟩
  refine ⟨holding.move process (.active world.snapshot), ?_, Function.update_self .., rfl, rfl, rfl,
    fun other differs => ?_⟩
  · rw [run, first, Option.bind_some, run, second]
    rfl
  · exact (Function.update_of_ne differs ..).trans (Function.update_of_ne differs ..)

variable (behaviour) in
/-- A process that leaves after its record leaves the record behind the mark. -/
theorem run_stop {state : State} (active : world.phase process = .active state)
    (command : Command) :
    ∃ stopped, run behaviour world [.append process command, .leave process] = some stopped ∧
      stopped.holder = none ∧ stopped.phase process = .outside ∧
      stopped.snapshot = world.snapshot ∧
      stopped.journal = world.journal ++ [behaviour.record command state] ∧
      stopped.checkpoint = world.checkpoint ∧
      ∀ other, other ≠ process → stopped.phase other = world.phase other := by
  let appended := { world.move process (.active (behaviour.apply command state)) with
    journal := world.journal ++ [behaviour.record command state] }
  have first : step behaviour world (.append process command) = some appended :=
    step_append.mpr ⟨state, active, rfl⟩
  have inside : appended.phase process = .active (behaviour.apply command state) :=
    Function.update_self ..
  have second : step behaviour appended (.leave process) =
      some { appended.move process .outside with holder := none } :=
    step_leave.mpr ⟨by simp [inside], rfl⟩
  refine ⟨{ appended.move process .outside with holder := none }, ?_, rfl,
    Function.update_self .., rfl, rfl, rfl, fun other differs => ?_⟩
  · rw [run, first, Option.bind_some, run, second]
    rfl
  · exact (Function.update_of_ne differs ..).trans (Function.update_of_ne differs ..)

variable (behaviour) in
/-- A process that writes its command over a snapshot that it read alone: whatever the journal
held behind the mark is gone from the state that a recovery finds. -/
theorem run_overwrite {state : State} (active : world.phase process = .active state)
    (command : Command) :
    ∃ written, run behaviour world [.append process command, .write process] = some written ∧
      recovered behaviour written = behaviour.apply command state := by
  let appended := { world.move process (.active (behaviour.apply command state)) with
    journal := world.journal ++ [behaviour.record command state] }
  have first : step behaviour world (.append process command) = some appended :=
    step_append.mpr ⟨state, active, rfl⟩
  let written := { appended with
    snapshot := behaviour.apply command state
    checkpoint := appended.journal.length }
  have second : step behaviour appended (.write process) = some written :=
    step_write.mpr ⟨_, Function.update_self .., rfl⟩
  refine ⟨written, ?_, by simp [recovered, World.tail, written]⟩
  rw [run, first, Option.bind_some, run, second]
  rfl

end Runs

end LeasedStore
