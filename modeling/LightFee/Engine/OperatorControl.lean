import LightFee.Engine.GlobalRisk
import LightFee.Engine.StartupRecovery
import LightFee.Library.LeasedStore

/-!
# Operator commands

Each command runs in a process of its own. Under the writer's lease it reads the snapshot, appends
the record of its command and writes the snapshot; a live process that starts later replays what
the snapshot does not cover. The commands of such processes take effect one after another, and a
fail-closed that the operator requested lasts until a resume, through starts and supervisions.
-/

namespace LightFee.Engine

open LeasedStore

inductive OperatorCommand where
  | pauseEntry
  | reduceOnly
  | failClosed
  | reconcileNow
  | resumeIfSafe
deriving DecidableEq

def OperatorCommand.value : OperatorCommand → String
  | .pauseEntry => "pause_entry"
  | .reduceOnly => "reduce_only"
  | .failClosed => "fail_closed"
  | .reconcileNow => "reconcile_now"
  | .resumeIfSafe => "resume_if_safe"

def applyOperatorCommand (command : OperatorCommand) (currentRisk : GlobalRiskMode)
    (currentLifecycle : EngineLifecycle) (hasBlockingRecovery : Bool) :
    GlobalRiskMode × EngineLifecycle :=
  match command with
  | .pauseEntry => (currentRisk.max .entryPaused, currentLifecycle)
  | .reduceOnly => (currentRisk.max .reduceOnly, currentLifecycle)
  | .failClosed => (.failClosed, .riskOnly)
  | .resumeIfSafe =>
    if hasBlockingRecovery then (currentRisk, currentLifecycle) else (.running, .running)
  | .reconcileNow => (currentRisk, currentLifecycle)

def hasLifecycleBlockingWork (state : EngineState) : Bool :=
  !state.openPositions.isEmpty || !state.pendingEntries.isEmpty ||
    !state.pendingPassiveCloses.isEmpty

/-- The payload of "ops.command_applied". -/
structure CommandApplied where
  command : String
  previousRisk : String
  newRisk : String
  previousLifecycle : String
  newLifecycle : String
deriving DecidableEq

def operatorMessage (command : OperatorCommand) (newRisk : GlobalRiskMode) : String :=
  match command with
  | .pauseEntry => "Entries paused"
  | .reduceOnly => "Entered reduce-only mode"
  | .failClosed => "Entered fail-closed mode"
  | .reconcileNow => "Reconciliation triggered"
  | .resumeIfSafe =>
    if newRisk = .running then "Resumed" else "Cannot resume: unsafe or blocking recovery"

/-- What `execute_operator_command` leaves: the state, the journal's record and the message. -/
structure CommandExecution where
  state : EngineState
  record : CommandApplied
  message : String

/-- The command on a persisted state, with the recovery work that this state has. -/
def executeOperatorCommand (command : OperatorCommand) (state : EngineState) : CommandExecution :=
  let new := applyOperatorCommand command state.riskMode state.lifecycle
    (hasLifecycleBlockingWork state)
  { state :=
      { state with
        riskMode := new.1
        lifecycle := new.2
        operator := { state.operator with
          requestedMode :=
            if command = .failClosed then some .failClosed
            else if command = .resumeIfSafe ∧ new.1 = .running then none
            else state.operator.requestedMode } }
    record :=
      { command := command.value
        previousRisk := state.riskMode.value
        newRisk := new.1.value
        previousLifecycle := state.lifecycle.value
        newLifecycle := new.2.value }
    message := operatorMessage command new.1 }

/-- The branch of the journal's replay for "ops.command_applied". -/
def applyCommandRecord (state : EngineState) (record : CommandApplied) : EngineState :=
  { state with
    riskMode := (GlobalRiskMode.ofValue record.newRisk).getD state.riskMode
    lifecycle := (EngineLifecycle.ofValue record.newLifecycle).getD state.lifecycle
    operator := { state.operator with
      requestedMode :=
        if record.command = "fail_closed" then some .failClosed
        else if record.command = "resume_if_safe" ∧ record.newRisk = "running" then none
        else state.operator.requestedMode } }

def operatorBehaviour : Behaviour EngineState OperatorCommand CommandApplied where
  apply command state := (executeOperatorCommand command state).state
  record command state := (executeOperatorCommand command state).record
  replay := applyCommandRecord

/-! ## The record of a command -/

theorem value_failClosed (command : OperatorCommand) :
    command.value = "fail_closed" ↔ command = .failClosed := by
  cases command <;> decide

theorem value_resumeIfSafe (command : OperatorCommand) :
    command.value = "resume_if_safe" ↔ command = .resumeIfSafe := by
  cases command <;> decide

theorem riskValue_running (mode : GlobalRiskMode) : mode.value = "running" ↔ mode = .running := by
  cases mode <;> decide

/-- The replay of a command's record does what the command did. -/
theorem operatorBehaviour_faithful : operatorBehaviour.Faithful := by
  intro command state
  simp only [operatorBehaviour, applyCommandRecord, executeOperatorCommand,
    GlobalRiskMode.ofValue_value, EngineLifecycle.ofValue_value, Option.getD_some,
    value_failClosed, value_resumeIfSafe, riskValue_running]

/-! ## Commands one after another -/

/-- Fail-closed at the operator's request. -/
structure OperatorLatched (state : EngineState) : Prop where
  requested : state.operator.requestedMode = some .failClosed
  riskMode : state.riskMode = .failClosed
  lifecycle : state.lifecycle = .riskOnly

def afterCommands (commands : List OperatorCommand) (state : EngineState) : EngineState :=
  commands.foldl (fun state command => (executeOperatorCommand command state).state) state

theorem execute_work (command : OperatorCommand) (state : EngineState) :
    hasLifecycleBlockingWork (executeOperatorCommand command state).state =
      hasLifecycleBlockingWork state := rfl

theorem execute_failClosed (state : EngineState) :
    OperatorLatched (executeOperatorCommand .failClosed state).state :=
  ⟨rfl, rfl, rfl⟩

/-- Only a resume without blocking work takes an engine out of a requested fail-closed. -/
theorem execute_latched {command : OperatorCommand} {state : EngineState}
    (latched : OperatorLatched state)
    (blocked : command = .resumeIfSafe → hasLifecycleBlockingWork state = true) :
    OperatorLatched (executeOperatorCommand command state).state := by
  obtain ⟨requested, riskMode, lifecycle⟩ := latched
  cases command with
  | pauseEntry => exact ⟨requested, by simp [executeOperatorCommand, applyOperatorCommand, riskMode,
      GlobalRiskMode.max, GlobalRiskMode.atLeast, GlobalRiskMode.order], lifecycle⟩
  | reduceOnly => exact ⟨requested, by simp [executeOperatorCommand, applyOperatorCommand, riskMode,
      GlobalRiskMode.max, GlobalRiskMode.atLeast, GlobalRiskMode.order], lifecycle⟩
  | failClosed => exact execute_failClosed state
  | reconcileNow => exact ⟨requested, riskMode, lifecycle⟩
  | resumeIfSafe =>
    have work := blocked rfl
    constructor <;>
      simp [executeOperatorCommand, applyOperatorCommand, work, requested, riskMode, lifecycle]

/-- No other command closes the engine. -/
theorem execute_open {command : OperatorCommand} {state : EngineState}
    (unlocked : state.riskMode ≠ .failClosed) (other : command ≠ .failClosed) :
    (executeOperatorCommand command state).state.riskMode ≠ .failClosed := by
  have raised : ∀ mode : GlobalRiskMode, mode ≠ .failClosed →
      mode.max .entryPaused ≠ .failClosed ∧ mode.max .reduceOnly ≠ .failClosed := by
    intro mode differs
    cases mode <;> first | (exact absurd rfl differs) | decide
  cases command with
  | pauseEntry => exact (raised _ unlocked).1
  | reduceOnly => exact (raised _ unlocked).2
  | failClosed => exact absurd rfl other
  | reconcileNow => exact unlocked
  | resumeIfSafe =>
    cases work : hasLifecycleBlockingWork state with
    | true => simpa [executeOperatorCommand, applyOperatorCommand, work] using unlocked
    | false => simp [executeOperatorCommand, applyOperatorCommand, work]

theorem afterCommands_latched {commands : List OperatorCommand} {state : EngineState}
    (latched : OperatorLatched state)
    (blocked : OperatorCommand.resumeIfSafe ∈ commands → hasLifecycleBlockingWork state = true) :
    OperatorLatched (afterCommands commands state) := by
  induction commands generalizing state with
  | nil => exact latched
  | cons command rest ih =>
    refine ih (execute_latched latched fun same => ?_) fun later => ?_
    · exact blocked (same ▸ List.mem_cons_self)
    · rw [execute_work]
      exact blocked (List.mem_cons_of_mem _ later)

theorem afterCommands_work (commands : List OperatorCommand) (state : EngineState) :
    hasLifecycleBlockingWork (afterCommands commands state) = hasLifecycleBlockingWork state := by
  induction commands generalizing state with
  | nil => rfl
  | cons command rest ih =>
    exact (ih _).trans (execute_work command state)

section Processes

variable {Process : Type} [DecidableEq Process]
  {world next : World Process EngineState CommandApplied}
  {actions : List (Action Process OperatorCommand)}

/-- No process is inside, and the snapshot covers records that the journal has. -/
structure Unattended (world : World Process EngineState CommandApplied) : Prop where
  outside : ∀ process, world.phase process = .outside
  bounded : world.checkpoint ≤ world.journal.length

omit [DecidableEq Process] in
theorem Unattended.settled (quiet : Unattended world) : LeasedStore.Settled operatorBehaviour world where
  exclusive := fun process inside => absurd (quiet.outside process) inside
  bounded := quiet.bounded
  current := fun process state active => by
    rw [quiet.outside process] at active
    cases active

/-- In every interleaving in which no command reads a snapshot that the journal has outrun, a start
recovers what the commands make of the first state one after another, in the order of their
records. A fail-closed among them lasts until a resume without blocking work. -/
theorem operator_commands_serial (quiet : Unattended world)
    (current : LoadsCurrent operatorBehaviour world actions)
    (ran : run operatorBehaviour world actions = some next) :
    recovered operatorBehaviour next =
        afterCommands (commands actions) (recovered operatorBehaviour world) ∧
      ∀ earlier later, commands actions = earlier ++ .failClosed :: later →
        (OperatorCommand.resumeIfSafe ∈ later →
          hasLifecycleBlockingWork (recovered operatorBehaviour world) = true) →
        OperatorLatched (recovered operatorBehaviour next) := by
  have serial := (run_serial operatorBehaviour_faithful quiet.settled current ran).2
  refine ⟨serial, fun earlier later given blocked => ?_⟩
  have split : recovered operatorBehaviour next = afterCommands later
      (executeOperatorCommand .failClosed
        (afterCommands earlier (recovered operatorBehaviour world))).state := by
    rw [serial, given, List.foldl_append]
    rfl
  rw [split]
  refine afterCommands_latched (execute_failClosed _) fun resumes => ?_
  rw [execute_work, afterCommands_work]
  exact blocked resumes

/-- A fail-closed whose process stops between its record and its snapshot is recovered by a start,
but the next command that is not a fail-closed itself drops it again. -/
theorem fail_closed_dropped (quiet : Unattended world) (free : world.holder = none)
    (covered : world.tail = []) (unlocked : world.snapshot.riskMode ≠ .failClosed)
    {first second : Process} {command : OperatorCommand} (other : command ≠ .failClosed) :
    ∃ stopped finished,
      run operatorBehaviour world
          [.acquire first, .load first, .append first .failClosed, .leave first] = some stopped ∧
        OperatorLatched (recovered operatorBehaviour stopped) ∧
        run operatorBehaviour stopped
          [.acquire second, .load second, .append second command, .write second] = some finished ∧
        recovered operatorBehaviour finished =
          (executeOperatorCommand command world.snapshot).state ∧
        (recovered operatorBehaviour finished).riskMode ≠ .failClosed := by
  obtain ⟨entered, enters, active, snapshot, journal, checkpoint, others⟩ :=
    run_enter operatorBehaviour free (quiet.outside first)
  obtain ⟨stopped, stops, released, outside, kept, appended, mark, rest⟩ :=
    run_stop operatorBehaviour active OperatorCommand.failClosed
  have everyone : ∀ process, stopped.phase process = .outside := by
    intro process
    by_cases same : process = first
    · rw [same, outside]
    · rw [rest process same, others process same, quiet.outside]
  obtain ⟨again, reenters, reactive, same, _⟩ :=
    run_enter operatorBehaviour released (everyone second)
  obtain ⟨finished, finishes, final⟩ :=
    run_overwrite operatorBehaviour reactive command
  have overwritten : recovered operatorBehaviour finished =
      (executeOperatorCommand command world.snapshot).state := by
    rw [final, kept, snapshot]
    rfl
  refine ⟨stopped, finished, ?_, ?_, ?_, overwritten, ?_⟩
  · exact (run_append world [.acquire first, .load first] [.append first OperatorCommand.failClosed, .leave first]).trans
      (by rw [enters]; exact stops)
  · have tail : stopped.tail =
        [operatorBehaviour.record .failClosed world.snapshot] := by
      rw [World.tail, appended, mark, checkpoint, journal,
        List.drop_append_of_le_length quiet.bounded]
      exact congrArg (· ++ _) covered
    rw [recovered, tail, kept, snapshot]
    exact ⟨rfl, rfl, rfl⟩
  · exact (run_append stopped [.acquire second, .load second]
      [.append second command, .write second]).trans (by rw [reenters]; exact finishes)
  · rw [overwritten]
    exact execute_open unlocked other

end Processes

/-! ## One operator -/

/-- A fresh engine that no process attends. -/
def unattendedWorld : World Nat EngineState CommandApplied where
  snapshot := {}

theorem unattendedWorld_unattended : Unattended unattendedWorld := ⟨fun _ => rfl, Nat.le_refl 0⟩

/-- A process that closes the engine. -/
def closingActions : List (Action Nat OperatorCommand) :=
  [.acquire 1, .load 1, .append 1 .failClosed, .write 1, .leave 1]

theorem closingActions_current : LoadsCurrent operatorBehaviour unattendedWorld closingActions := by
  refine loadsCurrent_cons rfl (fun _ same => by cases same) ?_
  refine loadsCurrent_cons rfl (fun _ _ => rfl) ?_
  refine loadsCurrent_cons rfl (fun _ same => by cases same) ?_
  refine loadsCurrent_cons rfl (fun _ same => by cases same) ?_
  exact loadsCurrent_cons rfl (fun _ same => by cases same) trivial

theorem closingActions_run : ∃ next, run operatorBehaviour unattendedWorld closingActions = some next :=
  ⟨_, rfl⟩

/-- An engine with a passive close that no process attends. -/
def busyWorld : World Nat EngineState CommandApplied where
  snapshot :=
    { pendingPassiveCloses := OrderedDict.empty.insert "p1" { positionId := "p1", reason := "exit" } }

/-- One process closes the engine, and a second one asks in vain to resume. -/
def refusedActions : List (Action Nat OperatorCommand) :=
  closingActions ++ [.acquire 2, .load 2, .append 2 .resumeIfSafe, .write 2, .leave 2]

theorem refusedActions_current : LoadsCurrent operatorBehaviour busyWorld refusedActions := by
  refine loadsCurrent_cons rfl (fun _ same => by cases same) ?_
  refine loadsCurrent_cons rfl (fun _ _ => rfl) ?_
  refine loadsCurrent_cons rfl (fun _ same => by cases same) ?_
  refine loadsCurrent_cons rfl (fun _ same => by cases same) ?_
  refine loadsCurrent_cons rfl (fun _ same => by cases same) ?_
  refine loadsCurrent_cons rfl (fun _ same => by cases same) ?_
  refine loadsCurrent_cons rfl (fun _ _ => rfl) ?_
  refine loadsCurrent_cons rfl (fun _ same => by cases same) ?_
  refine loadsCurrent_cons rfl (fun _ same => by cases same) ?_
  exact loadsCurrent_cons rfl (fun _ same => by cases same) trivial

theorem operator_commands_serial_refused :
    ∃ next, run operatorBehaviour busyWorld refusedActions = some next ∧
      OperatorLatched (recovered operatorBehaviour next) := by
  obtain ⟨next, ran⟩ : ∃ next, run operatorBehaviour busyWorld refusedActions = some next :=
    ⟨_, rfl⟩
  exact ⟨next, ran, (operator_commands_serial ⟨fun _ => rfl, Nat.le_refl 0⟩ refusedActions_current
    ran).2 [] [.resumeIfSafe] rfl fun _ => rfl⟩

/-- The first process stops before its snapshot, the second one pauses entries. -/
theorem fail_closed_dropped_pausing :
    ∃ stopped finished,
      run operatorBehaviour unattendedWorld
          [.acquire 1, .load 1, .append 1 .failClosed, .leave 1] = some stopped ∧
        run operatorBehaviour stopped
          [.acquire 2, .load 2, .append 2 .pauseEntry, .write 2] = some finished ∧
        (recovered operatorBehaviour finished).riskMode ≠ .failClosed := by
  obtain ⟨stopped, finished, stops, _, finishes, _, unlocked⟩ :=
    @fail_closed_dropped Nat _ unattendedWorld unattendedWorld_unattended rfl rfl (by decide) 1 2
      .pauseEntry (by decide)
  exact ⟨stopped, finished, stops, finishes, unlocked⟩

end LightFee.Engine
