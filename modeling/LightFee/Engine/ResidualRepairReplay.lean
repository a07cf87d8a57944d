import LightFee.Engine.ResidualRepair
import Mathlib.Algebra.Order.Group.Multiset
import Mathlib.Tactic.Abel

/-!
# A replay of the residual repairs

A completion carries every repair that remains under its scope and every gate of its pair, so a
replay replaces the scope and the pair as a whole. A repair that was changed in place, without a
completion of its own, is carried by the next completion of its scope; when no such completion
follows, the replay leaves it as it was.
-/

namespace LightFee.Engine

open LightFee.Venues

/-! ## Replaying -/

/-- A completion or a terminal record, of `_apply_journal_replay_to_state`. -/
def replayRepairRecord (state : RepairState) (record : RepairRecord) : RepairState :=
  if record.kind = "execution.residual_repair_completed" ∨
      record.kind = "execution.residual_repair_terminal" then
    match record.remaining with
    | none => state
    | some (remaining, pairGates) =>
      let scope := record.scope
      if remaining.all (RepairItem.filedUnder scope) &&
          pairGates.all (GateItem.filedUnder scope.pairId scope.symbol) then
        { pendingResidualRepairs :=
            state.pendingResidualRepairs.filter (fun item => !item.filedUnder scope) ++ remaining
          liveRecoveryReduceOnlyPairs :=
            state.liveRecoveryReduceOnlyPairs.filter
              (fun gate => !gate.filedUnder scope.pairId scope.symbol) ++ pairGates }
      else state
  else state

def replayRepairRecords (state : RepairState) (journal : List RepairRecord) : RepairState :=
  journal.foldl replayRepairRecord state

/-- A record without the repairs of its scope changes nothing. -/
theorem replay_without_remaining (state : RepairState) (record : RepairRecord)
    (plain : record.remaining = none) : replayRepairRecord state record = state := by
  unfold replayRepairRecord
  rw [plain]
  split <;> rfl

theorem replay_notes (state : RepairState) (scope : RepairScope) (notes : List RepairNote) :
    replayRepairRecords state (notes.map (fun note => ⟨note.kind, scope, note.text, none⟩)) =
      state := by
  induction notes with
  | nil => rfl
  | cons note rest same =>
    rw [List.map_cons, replayRepairRecords, List.foldl_cons, replay_without_remaining _ _ rfl]
    exact same

/-! ## The scope of what stays -/

/-- What is kept or appended for a readable task has its scope. -/
def RepairOutcome.InScope (scope : RepairScope) : RepairOutcome → Prop
  | .retained task _ => task.scope = scope
  | .left _ successor => ∀ task ∈ successor, task.scope = scope
  | .waiting => True
  | .invalid => False

namespace RepairTask

variable (task : RepairTask) (nowMs : Int)

@[simp] theorem reschedule_scope (error : String) :
    (task.reschedule nowMs error).1.scope = task.scope := by
  unfold reschedule
  dsimp only
  split <;> rfl

end RepairTask

namespace RepairWork

section Scope

variable [TextCase] (work : RepairWork) (sized : SizedRepair)

omit [TextCase] in
theorem successor_in_scope (task : RepairTask) (executed : ExactFloat) :
    ∀ successor ∈ work.successorOf sized task executed, successor.scope = task.scope := by
  intro successor found
  unfold successorOf at found
  dsimp only at found
  split at found
  · cases found
    rfl
  · cases found

theorem reconcile_accepted_in_scope (quantity : ExactFloat) :
    (work.reconcileAccepted quantity).outcome.InScope work.task.scope := by
  unfold reconcileAccepted
  dsimp only
  split
  · intro successor found
    split at found
    · cases found
      rfl
    · cases found
  · intro successor found
    cases found
  · rfl

theorem after_submit_error_in_scope (task : RepairTask) (clientOrderId : String)
    (error : RepairSubmitError) (blocking : Option String) (notes : List RepairNote)
    (evidence : RepairEvidence) :
    (work.afterSubmitError sized task clientOrderId error blocking notes evidence).outcome.InScope
      task.scope := by
  unfold afterSubmitError
  dsimp only
  split
  · split
    · exact work.successor_in_scope sized task.clearAcceptedGap _
    · intro successor found
      cases found
    · rfl
  · split <;> exact task.reschedule_scope work.nowMs error.text

omit [TextCase] in
theorem after_fill_in_scope (task : RepairTask) (executed : ExactFloat) (notes : List RepairNote)
    (evidence : RepairEvidence) :
    (work.afterFill sized task executed notes evidence).outcome.InScope task.scope :=
  work.successor_in_scope sized task executed

theorem after_duplicate_in_scope (task : RepairTask) (quantity : ExactFloat)
    (clientOrderId : String) (currentAttempt : Int) (error : RepairSubmitError)
    (notes : List RepairNote) (evidence : RepairEvidence) :
    (work.afterDuplicate sized task quantity clientOrderId currentAttempt error notes
      evidence).outcome.InScope task.scope := by
  unfold afterDuplicate
  dsimp only
  split
  · intro successor found
    cases found
  · split
    · split
      · exact work.after_fill_in_scope sized task _ _ _
      · split <;> exact work.after_submit_error_in_scope sized _ _ _ _ _ _
    · exact work.after_submit_error_in_scope sized _ _ _ _ _ _

theorem submit_repair_in_scope (quantity : ExactFloat) :
    (work.submitRepair sized quantity).outcome.InScope sized.task.scope := by
  unfold submitRepair
  dsimp only
  split
  · exact work.after_fill_in_scope sized _ _ _ _
  · split
    · exact work.after_duplicate_in_scope sized _ _ _ _ _ _ _
    · exact work.after_submit_error_in_scope sized _ _ _ _ _ _

theorem send_unless_dust_in_scope (quantity : ExactFloat) :
    (work.sendUnlessDust sized quantity).outcome.InScope sized.task.scope := by
  have terminal (exit : RepairExit) (dust : ExactFloat) :
      (work.terminalized sized exit dust).outcome.InScope sized.task.scope := by
    intro successor found
    cases found
  unfold sendUnlessDust
  split
  · split
    · split
      · rfl
      · exact terminal _ _
    · exact sized.task.reschedule_scope work.nowMs _
  · split
    · split
      · rfl
      · exact terminal _ _
    · exact work.submit_repair_in_scope sized quantity

theorem normalize_and_send_in_scope :
    (work.normalizeAndSend sized).outcome.InScope sized.task.scope := by
  unfold normalizeAndSend
  split
  · exact work.send_unless_dust_in_scope sized _
  · exact work.send_unless_dust_in_scope sized _
  · exact sized.task.reschedule_scope work.nowMs _

omit [TextCase] in
theorem hold_in_scope (error : String) (look : RepairLook) :
    (work.hold error look).outcome.InScope work.task.scope := by
  unfold hold
  dsimp only
  split
  · rfl
  · exact work.task.reschedule_scope work.nowMs error

theorem size_from_look_in_scope (look : RepairLook) :
    (work.sizeFromLook look).outcome.InScope work.task.scope := by
  unfold sizeFromLook
  dsimp only
  split
  · split
    · exact work.hold_in_scope _ look
    · split
      · exact work.normalize_and_send_in_scope _
      · split
        · exact work.hold_in_scope _ look
        · intro successor found
          cases found
  · exact work.normalize_and_send_in_scope _

theorem look_and_repair_in_scope : work.lookAndRepair.outcome.InScope work.task.scope := by
  unfold lookAndRepair
  split
  · exact work.size_from_look_in_scope _
  · dsimp only
    split
    · rfl
    · exact work.task.reschedule_scope work.nowMs _

omit [TextCase] in
theorem adapter_missing_in_scope : work.adapterMissing.outcome.InScope work.task.scope := by
  unfold adapterMissing
  split
  · rfl
  · exact work.task.reschedule_scope work.nowMs _

end Scope

end RepairWork

section Pass

variable [TextCase] (env : RepairEnvironment) (nowMs : Int)
  (positions : OrderedDict String OpenPosition)

/-- Whatever a turn keeps or appends for a task has the task's scope. -/
theorem work_on_repair_in_scope (answers : RepairAnswers) {task : RepairTask}
    (readable : task.fields ≠ none) :
    (workOnRepair env nowMs positions answers task).outcome.InScope task.scope := by
  unfold workOnRepair
  split
  · rename_i unread
    exact absurd unread readable
  · dsimp only
    split
    · trivial
    · split
      · exact RepairWork.adapter_missing_in_scope _
      · split
        · exact RepairWork.reconcile_accepted_in_scope _ _
        · exact RepairWork.look_and_repair_in_scope _

theorem unreadable_is_invalid (answers : RepairAnswers) {task : RepairTask}
    (unread : task.fields = none) :
    workOnRepair env nowMs positions answers task =
      { outcome := .invalid, notes := [⟨"recovery.residual_repair_invalid_removed", ""⟩] } := by
  unfold workOnRepair
  rw [unread]

/-- Only an unreadable task is removed as invalid. -/
theorem invalid_or_in_scope (answers : RepairAnswers) (task : RepairTask) :
    (workOnRepair env nowMs positions answers task).outcome = .invalid ∨
      (workOnRepair env nowMs positions answers task).outcome.InScope task.scope := by
  by_cases unread : task.fields = none
  · exact .inl (by rw [unreadable_is_invalid env nowMs positions answers unread])
  · exact .inr (work_on_repair_in_scope env nowMs positions answers unread)


/-! ## Turns -/

/-- The turn of one item: the item as it was, what the turn leaves of it in the list, and whether
a completion of its scope has been appended since. -/
structure RepairTurn where
  item : RepairItem
  leaves : List RepairItem
  filed : Bool

/-- What the replay has of the item. -/
def RepairTurn.replayed (turn : RepairTurn) : List RepairItem :=
  if turn.filed then turn.leaves else [turn.item]

def RepairTurn.fileUnder (scope : RepairScope) (turn : RepairTurn) : RepairTurn :=
  { turn with filed := turn.filed || turn.item.filedUnder scope }

/-- What a turn leaves of its item, or puts in its place. -/
def leavesOf (answers : RepairAnswers) : RepairItem → List RepairItem
  | .other value => [.other value]
  | .task task =>
    match (workOnRepair env nowMs positions answers task).outcome with
    | .waiting => [.task task]
    | .invalid => []
    | .retained changed _ => [.task changed]
    | .left _ successor => successor.toList.map .task

/-- The scope of the completed or terminal record that a turn appends. -/
def completionOf (answers : RepairAnswers) : RepairItem → Option RepairScope
  | .other _ => none
  | .task task =>
    match (workOnRepair env nowMs positions answers task).outcome with
    | .left _ _ => some task.scope
    | _ => none

def nextTurns (answers : RepairAnswers) (turns : List RepairTurn) (item : RepairItem) :
    List RepairTurn :=
  let turns := turns ++ [⟨item, leavesOf env nowMs positions answers item, false⟩]
  match completionOf env nowMs positions answers item with
  | none => turns
  | some scope => turns.map (RepairTurn.fileUnder scope)

/-- The turns, as a pass finds them. -/
def turnsAfter : (Nat → RepairAnswers) → List RepairItem → List RepairTurn → List RepairTurn
  | _, [], turns => turns
  | answers, item :: rest, turns =>
    turnsAfter (fun index => answers (index + 1)) rest
      (nextTurns env nowMs positions (answers 0) turns item)

/-- One of these turns appends a completion that the item is filed under. -/
def completedWithin : (Nat → RepairAnswers) → List RepairItem → RepairItem → Bool
  | _, [], _ => false
  | answers, turn :: rest, item =>
    (completionOf env nowMs positions (answers 0) turn).any item.filedUnder ||
      completedWithin (fun index => answers (index + 1)) rest item

/-- The turns of a pass: each item is filed when its own turn or a later one completes its
scope. -/
def repairTurns : (Nat → RepairAnswers) → List RepairItem → List RepairTurn
  | _, [] => []
  | answers, item :: rest =>
    { item := item
      leaves := leavesOf env nowMs positions (answers 0) item
      filed := completedWithin env nowMs positions answers (item :: rest) item } ::
      repairTurns (fun index => answers (index + 1)) rest

theorem turns_after (items : List RepairItem) :
    ∀ (answers : Nat → RepairAnswers) (turns : List RepairTurn),
      turnsAfter env nowMs positions answers items turns =
        turns.map (fun turn => { turn with
          filed := turn.filed || completedWithin env nowMs positions answers items turn.item }) ++
        repairTurns env nowMs positions answers items := by
  induction items with
  | nil =>
    intro answers turns
    simp [turnsAfter, repairTurns, completedWithin]
  | cons item rest later =>
    intro answers turns
    rw [turnsAfter, later, repairTurns]
    unfold nextTurns
    cases completion : completionOf env nowMs positions (answers 0) item with
    | none => simp [completedWithin, completion]
    | some scope =>
      simp [completedWithin, completion, RepairTurn.fileUnder, Bool.or_assoc, Function.comp_def]

end Pass

/-- What the turns leave has the scope of its item. -/
def RepairTurn.InScope (turn : RepairTurn) : Prop :=
  ∀ left ∈ turn.leaves, ∀ scope, left.filedUnder scope = turn.item.filedUnder scope

theorem file_under_leaves (scope : RepairScope) (turns : List RepairTurn) :
    (turns.map (RepairTurn.fileUnder scope)).flatMap RepairTurn.leaves =
      turns.flatMap RepairTurn.leaves := by
  rw [List.flatMap_map]
  rfl

/-- Replacing a scope by what is left of it brings the turns of the scope up to date. -/
theorem file_under_replayed (scope : RepairScope) (turns : List RepairTurn)
    (inScope : ∀ turn ∈ turns, turn.InScope) :
    (((turns.map (RepairTurn.fileUnder scope)).flatMap RepairTurn.replayed : List RepairItem) :
        Multiset RepairItem) =
      ((turns.flatMap RepairTurn.replayed).filter (fun item => !item.filedUnder scope) :
        List RepairItem) +
      (((turns.flatMap RepairTurn.leaves).filter (RepairItem.filedUnder scope) :
        List RepairItem) : Multiset RepairItem) := by
  induction turns with
  | nil => rfl
  | cons turn rest earlier =>
    have tail := earlier (fun later found => inScope later (List.mem_cons_of_mem _ found))
    have sameScope := inScope turn List.mem_cons_self
    have head : (((turn.fileUnder scope).replayed : List RepairItem) : Multiset RepairItem) =
        (turn.replayed.filter (fun item => !item.filedUnder scope) : List RepairItem) +
        ((turn.leaves.filter (RepairItem.filedUnder scope) : List RepairItem) :
          Multiset RepairItem) := by
      cases under : turn.item.filedUnder scope with
      | true =>
        have kept : turn.leaves.filter (RepairItem.filedUnder scope) = turn.leaves :=
          List.filter_eq_self.mpr
            (fun left found => (sameScope left found scope).trans under)
        have dropped : turn.replayed.filter (fun item => !item.filedUnder scope) = [] := by
          apply List.filter_eq_nil_iff.mpr
          intro left found
          have same : left.filedUnder scope = true := by
            unfold RepairTurn.replayed at found
            split at found
            · exact (sameScope left found scope).trans under
            · rw [List.mem_singleton.mp found]
              exact under
          simp [same]
        rw [kept, dropped]
        simp [RepairTurn.fileUnder, RepairTurn.replayed, under]
      | false =>
        have dropped : turn.leaves.filter (RepairItem.filedUnder scope) = [] := by
          apply List.filter_eq_nil_iff.mpr
          intro left found
          simp [sameScope left found scope, under]
        have kept : turn.replayed.filter (fun item => !item.filedUnder scope) =
            turn.replayed := by
          apply List.filter_eq_self.mpr
          intro left found
          have same : left.filedUnder scope = false := by
            unfold RepairTurn.replayed at found
            split at found
            · exact (sameScope left found scope).trans under
            · rw [List.mem_singleton.mp found]
              exact under
          simp [same]
        rw [kept, dropped]
        simp [RepairTurn.fileUnder, RepairTurn.replayed, under]
    simp only [List.map_cons, List.flatMap_cons, List.filter_append, ← Multiset.coe_add]
    rw [head, tail]
    abel

/-! ## One turn -/

theorem filter_not_add_filter {Item : Type*} (keep : Item → Bool) (items : List Item) :
    ((items.filter (fun item => !keep item) : List Item) : Multiset Item) +
      (items.filter keep : List Item) = (items : Multiset Item) := by
  rw [Multiset.coe_add, Multiset.coe_eq_coe]
  exact List.perm_append_comm.trans (List.filter_append_perm keep items)

/-- A gate that is let go of is filed under the completion's pair or symbol. -/
theorem released_is_filed {pairId symbol : String} {gate : GateItem}
    (released : gate.releasedBy pairId symbol = true) :
    gate.filedUnder pairId symbol = true := by
  cases gate with
  | gate held =>
    simp only [GateItem.releasedBy] at released
    simp only [GateItem.filedUnder]
    split at released <;> simp_all
  | other value => cases released

/-- Letting go of a pair's gates changes no other gate. -/
theorem release_keeps_others (pairId symbol : String) (gates : List GateItem) :
    (releasePairGate pairId symbol gates).filter (fun gate => !gate.filedUnder pairId symbol) =
      gates.filter (fun gate => !gate.filedUnder pairId symbol) := by
  rw [releasePairGate, List.filter_filter]
  apply List.filter_congr
  intro gate _
  cases released : gate.releasedBy pairId symbol with
  | true => simp [released_is_filed released]
  | false => simp

/-- The record of an exit replaces its scope and its pair's gates. -/
theorem replay_completion (state : RepairState) (exit : RepairExit) (scope : RepairScope)
    (result : String) (live : List RepairItem) (gates : List GateItem) :
    replayRepairRecord state
        { kind := exit.kind
          scope := scope
          result := result
          remaining := some (live.filter (RepairItem.filedUnder scope),
            gates.filter (GateItem.filedUnder scope.pairId scope.symbol)) } =
      { pendingResidualRepairs :=
          state.pendingResidualRepairs.filter (fun item => !item.filedUnder scope) ++
            live.filter (RepairItem.filedUnder scope)
        liveRecoveryReduceOnlyPairs :=
          state.liveRecoveryReduceOnlyPairs.filter
              (fun gate => !gate.filedUnder scope.pairId scope.symbol) ++
            gates.filter (GateItem.filedUnder scope.pairId scope.symbol) } := by
  have read : exit.kind = "execution.residual_repair_completed" ∨
      exit.kind = "execution.residual_repair_terminal" := by
    unfold RepairExit.kind
    split
    · exact .inr rfl
    · exact .inl rfl
  have inside : (live.filter (RepairItem.filedUnder scope)).all
      (RepairItem.filedUnder scope) = true :=
    List.all_eq_true.mpr (fun _ found => List.of_mem_filter found)
  have paired : (gates.filter (GateItem.filedUnder scope.pairId scope.symbol)).all
      (GateItem.filedUnder scope.pairId scope.symbol) = true :=
    List.all_eq_true.mpr (fun _ found => List.of_mem_filter found)
  unfold replayRepairRecord
  rw [if_pos read]
  dsimp only
  rw [inside, paired]
  rfl

/-- The pass, its turns so far and the replay of its records from the state before it. -/
structure RepairPass.Tracks (before : RepairState) (turns : List RepairTurn)
    (rest : List RepairItem) (pass : RepairPass) : Prop where
  inScope : ∀ turn ∈ turns, turn.InScope
  live : ((pass.kept ++ pass.appended : List RepairItem) : Multiset RepairItem) =
    (turns.flatMap RepairTurn.leaves : List RepairItem)
  replayed : ((replayRepairRecords before pass.journal).pendingResidualRepairs :
      Multiset RepairItem) =
    (turns.flatMap RepairTurn.replayed ++ rest : List RepairItem)
  gates : ((replayRepairRecords before pass.journal).liveRecoveryReduceOnlyPairs :
    Multiset GateItem) = pass.gates

namespace RepairPass

theorem replay_note (before : RepairState) (pass : RepairPass) (task : RepairTask)
    (notes : List RepairNote) :
    replayRepairRecords before (pass.note task notes).journal =
      replayRepairRecords before pass.journal := by
  simp only [note, replayRepairRecords, List.foldl_append]
  exact replay_notes _ task.scope notes

theorem Tracks.note {before : RepairState} {turns : List RepairTurn} {rest : List RepairItem}
    {pass : RepairPass} (tracks : pass.Tracks before turns rest) (task : RepairTask)
    (notes : List RepairNote) : (pass.note task notes).Tracks before turns rest where
  inScope := tracks.inScope
  live := tracks.live
  replayed := by rw [replay_note]; exact tracks.replayed
  gates := by rw [replay_note]; exact tracks.gates

/-- The replay of a completion takes the scope and the pair's gates as the pass has them. -/
theorem replay_complete (before : RepairState) (pass : RepairPass) (task : RepairTask)
    (rest : List RepairItem) (exit : RepairExit) (successor : Option RepairTask) :
    replayRepairRecords before (pass.complete task rest exit successor).journal =
      { pendingResidualRepairs :=
          (replayRepairRecords before pass.journal).pendingResidualRepairs.filter
              (fun item => !item.filedUnder task.scope) ++
            (pass.kept ++ rest ++ (pass.appended ++ successor.toList.map RepairItem.task)).filter
              (RepairItem.filedUnder task.scope)
        liveRecoveryReduceOnlyPairs :=
          (replayRepairRecords before pass.journal).liveRecoveryReduceOnlyPairs.filter
              (fun gate => !gate.filedUnder task.pairId task.symbol) ++
            (pass.complete task rest exit successor).gates.filter
              (GateItem.filedUnder task.pairId task.symbol) } := by
  simp only [complete, replayRepairRecords, List.foldl_append, List.foldl_cons, List.foldl_nil]
  exact replay_completion _ exit task.scope exit.result _ _

/-- A turn without a completion: the item stays for the replay. -/
theorem Tracks.keep {before : RepairState} {turns : List RepairTurn} {rest : List RepairItem}
    {pass : RepairPass} {item : RepairItem} (tracks : pass.Tracks before turns (item :: rest))
    (leaves : List RepairItem) (blocked : Option String)
    (inScope : RepairTurn.InScope ⟨item, leaves, false⟩) :
    ({ pass with kept := pass.kept ++ leaves, blocked := blocked } : RepairPass).Tracks before
      (turns ++ [RepairTurn.mk item leaves false]) rest where
  inScope := by
    intro turn found
    rcases List.mem_append.mp found with earlier | this
    · exact tracks.inScope turn earlier
    · rw [List.mem_singleton.mp this]
      exact inScope
  live := by
    have live := tracks.live
    simp only [List.flatMap_append, List.flatMap_cons, List.flatMap_nil, List.append_nil,
      ← Multiset.coe_add] at live ⊢
    rw [← live]
    abel
  replayed := by
    rw [tracks.replayed]
    simp [RepairTurn.replayed]
  gates := tracks.gates

/-- A completion brings the turns of its scope up to date. -/
theorem Tracks.complete {before : RepairState} {turns : List RepairTurn}
    {rest : List RepairItem} {pass : RepairPass} {task : RepairTask}
    (tracks : pass.Tracks before turns (.task task :: rest)) (exit : RepairExit)
    (successor : Option RepairTask) (sameScope : ∀ next ∈ successor, next.scope = task.scope) :
    (pass.complete task rest exit successor).Tracks before
      ((turns ++ [RepairTurn.mk (.task task) (successor.toList.map .task) false]).map
        (RepairTurn.fileUnder task.scope)) rest := by
  let worked := turns ++ [RepairTurn.mk (.task task) (successor.toList.map .task) false]
  have inScope : ∀ turn ∈ worked, turn.InScope := by
    intro turn found
    rcases List.mem_append.mp found with earlier | this
    · exact tracks.inScope turn earlier
    · rw [List.mem_singleton.mp this]
      intro left present scope
      obtain ⟨next, chosen, rfl⟩ := List.mem_map.mp present
      simp only [RepairItem.filedUnder, sameScope next (Option.mem_toList.mp chosen)]
  have live : ((pass.kept ++ (pass.appended ++ successor.toList.map RepairItem.task) :
      List RepairItem) : Multiset RepairItem) =
      (worked.flatMap RepairTurn.leaves : List RepairItem) := by
    have live := tracks.live
    simp only [worked, List.flatMap_append, List.flatMap_cons, List.flatMap_nil, List.append_nil,
      ← Multiset.coe_add] at live ⊢
    rw [← live]
    abel
  have replayed : ((replayRepairRecords before pass.journal).pendingResidualRepairs :
      Multiset RepairItem) = (worked.flatMap RepairTurn.replayed ++ rest : List RepairItem) := by
    rw [tracks.replayed]
    simp [worked, RepairTurn.replayed]
  have gatesOutside (gates : List GateItem)
      (others : gates.filter (fun gate => !gate.filedUnder task.pairId task.symbol) =
        pass.gates.filter (fun gate => !gate.filedUnder task.pairId task.symbol)) :
      (((replayRepairRecords before pass.journal).liveRecoveryReduceOnlyPairs.filter
            (fun gate => !gate.filedUnder task.pairId task.symbol) ++
          gates.filter (GateItem.filedUnder task.pairId task.symbol) : List GateItem) :
        Multiset GateItem) = gates := by
    have outside := (Multiset.coe_eq_coe.mp tracks.gates).filter
      (fun gate => !gate.filedUnder task.pairId task.symbol)
    rw [← Multiset.coe_add, Multiset.coe_eq_coe.mpr outside, ← others]
    exact filter_not_add_filter _ gates
  refine ⟨?_, ?_, ?_, ?_⟩
  · intro turn found
    obtain ⟨earlier, present, rfl⟩ := List.mem_map.mp found
    exact inScope earlier present
  · rw [file_under_leaves]
    exact live
  · rw [replay_complete]
    have outside := (Multiset.coe_eq_coe.mp replayed).filter
      (fun item => !item.filedUnder task.scope)
    have inside := (Multiset.coe_eq_coe.mp live).filter (RepairItem.filedUnder task.scope)
    rw [← Multiset.coe_eq_coe] at outside inside
    have updated := file_under_replayed task.scope worked inScope
    have others := filter_not_add_filter (RepairItem.filedUnder task.scope) rest
    simp only [List.filter_append, ← Multiset.coe_add] at outside inside ⊢
    rw [updated, ← inside, outside]
    rw [← others]
    abel
  · rw [replay_complete]
    apply gatesOutside
    simp only [RepairPass.complete]
    split
    · rfl
    · exact release_keeps_others _ _ _

theorem tracks_start (state : RepairState) :
    ({ gates := state.liveRecoveryReduceOnlyPairs } : RepairPass).Tracks state []
      state.pendingResidualRepairs where
  inScope := fun _ found => absurd found List.not_mem_nil
  live := rfl
  replayed := rfl
  gates := rfl

section Run

variable [TextCase] (env : RepairEnvironment) (nowMs : Int)
  (positions : OrderedDict String OpenPosition)

/-- Each turn of the loop keeps the replay beside the pass. -/
theorem Tracks.step {before : RepairState} {turns : List RepairTurn} {rest : List RepairItem}
    {pass : RepairPass} {item : RepairItem} (tracks : pass.Tracks before turns (item :: rest))
    (answers : RepairAnswers) :
    (step env nowMs positions answers rest pass item).Tracks before
      (nextTurns env nowMs positions answers turns item) rest := by
  cases item with
  | other value =>
    refine tracks.keep [.other value] pass.blocked ?_
    intro left present scope
    rw [List.mem_singleton.mp present]
  | task task =>
    have inScope := invalid_or_in_scope env nowMs positions answers task
    have noted := tracks.note task (workOnRepair env nowMs positions answers task).notes
    simp only [RepairPass.step, nextTurns, leavesOf, completionOf]
    cases outcome : (workOnRepair env nowMs positions answers task).outcome with
    | waiting =>
      refine noted.keep [.task task] _ ?_
      intro left present scope
      rw [List.mem_singleton.mp present]
    | invalid =>
      have kept := noted.keep [] pass.blocked (fun left present => absurd present List.not_mem_nil)
      rw [List.append_nil] at kept
      exact kept
    | retained changed blocked =>
      refine noted.keep [.task changed] _ ?_
      intro left present scope
      rw [outcome] at inScope
      have same : changed.scope = task.scope :=
        inScope.resolve_left RepairOutcome.noConfusion
      rw [List.mem_singleton.mp present]
      simp only [RepairItem.filedUnder, same]
    | left exit successor =>
      rw [outcome] at inScope
      exact (noted.complete exit successor (inScope.resolve_left RepairOutcome.noConfusion)).note task _

/-- So does the loop, by induction on the items that are still to come. -/
theorem Tracks.run {before : RepairState} (items : List RepairItem) :
    ∀ (answers : Nat → RepairAnswers) {turns : List RepairTurn} {pass : RepairPass},
      pass.Tracks before turns items →
      (run env nowMs positions answers items pass).Tracks before
        (turnsAfter env nowMs positions answers items turns) [] := by
  induction items with
  | nil => exact fun _ _ _ tracks => tracks
  | cons item rest later =>
    intro answers turns pass tracks
    exact later _ (tracks.step env nowMs positions (answers 0))

end Run

end RepairPass

/-! ## A pass and its replay -/

section Replay

variable [TextCase] (env : RepairEnvironment) (nowMs : Int)
  (positions : OrderedDict String OpenPosition)

/-- The replay of a pass has the repairs of the state after it, except that an item whose scope
got no completion in its turn or later is as it was; and it has the same gates. -/
theorem replay_reproduces_repairs (answers : Nat → RepairAnswers) (state : RepairState) :
    let pass := recoverResidualRepairs env nowMs positions answers state
    let turns := repairTurns env nowMs positions answers state.pendingResidualRepairs
    let replayed := replayRepairRecords state pass.journal
    pass.state.pendingResidualRepairs.Perm (turns.flatMap RepairTurn.leaves) ∧
      replayed.pendingResidualRepairs.Perm (turns.flatMap RepairTurn.replayed) ∧
      replayed.liveRecoveryReduceOnlyPairs.Perm pass.state.liveRecoveryReduceOnlyPairs := by
  have tracks := (RepairPass.tracks_start state).run env nowMs positions
    state.pendingResidualRepairs answers
  rw [turns_after, List.map_nil, List.nil_append] at tracks
  have replayed := Multiset.coe_eq_coe.mp tracks.replayed
  rw [List.append_nil] at replayed
  exact ⟨Multiset.coe_eq_coe.mp tracks.live, replayed, Multiset.coe_eq_coe.mp tracks.gates⟩

end Replay

/-! ## A repair that is changed without a completion of its own -/

/-- What the items would be if only those with a completion of their own had changed. -/
def completedOnly [TextCase] (env : RepairEnvironment) (nowMs : Int)
    (positions : OrderedDict String OpenPosition) :
    (Nat → RepairAnswers) → List RepairItem → List RepairItem
  | _, [] => []
  | answers, item :: rest =>
    (if (completionOf env nowMs positions (answers 0) item).isSome then
      leavesOf env nowMs positions (answers 0) item
    else [item]) ++ completedOnly env nowMs positions (fun index => answers (index + 1)) rest

/-- What two repairs are compared by: the names, the venue, the side, the quantity and the ids of
an accepted order. -/
def RepairItem.compared : RepairItem → Option (List String × Option ExactFloat)
  | .task repair => some ([repair.positionId, repair.pairId, repair.symbol, repair.origin,
      repair.repairVenue, repair.repairSide, repair.acceptedOrderId,
      repair.acceptedClientOrderId], repair.repairQuantity)
  | .other _ => none

section Uncompleted

local instance repairTexts : TextCase := .ascii

def everyAdapter : RepairEnvironment where
  hasAdapter := fun _ => true
  venueMinNotional := fun _ _ => .finite 0
  compactClientOrderId := fun positionId suffix => positionId ++ ":" ++ suffix

/-- The venue holds two units and no order is open. -/
def longTwo : VenueAnswers where
  position := .ok (some { side := .buy, quantity := .finite 2 })
  openOrders := .ok 0

/-- The order is acknowledged, and nothing is known of its fill. -/
def acknowledged : RepairAnswers where
  look := fun _ => longTwo
  normalizeQuantity := none
  placeOrder := .error
    { failureClass := some .uncertain
      text := "order acknowledged"
      acceptedOrderId := "venue-7"
      orderAckOnly := true }
  refusedReconciliation := .ok none
  refusedPosition := .ok none
  retryOrder := .error { failureClass := none, text := "" }
  acceptedReconciliation := some (.ok none)
  acceptedLook := fun _ => longTwo

def sellTwo : RepairTask where
  positionId := "p"
  symbol := "BTCUSDT"
  origin := "entry_open"
  repairVenue := "bybit"
  repairSide := "sell"
  repairQuantity := some (.finite 2)

def filledTwo : OrderFill where
  venue := .bybit
  symbol := "BTCUSDT"
  side := .sell
  quantity := .finite 2
  price := .finite 100

def filledInFull : RepairAnswers := { acknowledged with placeOrder := .ok filledTwo }

def noPositions : OrderedDict String OpenPosition := ⟨[], List.nodup_nil⟩

def twoRepairs : RepairState := ⟨[.task sellTwo, .task sellTwo], []⟩

def secondFills (index : Nat) : RepairAnswers := if index = 0 then acknowledged else filledInFull

/-- Two repairs of one scope: the order of the first is only acknowledged, the second fills. The
completion of the second carries the ids of the first, which the replay then has. -/
theorem completion_carries_another_repair :
    let pass := recoverResidualRepairs everyAdapter 1 noPositions secondFills twoRepairs
    let completed := completedOnly everyAdapter 1 noPositions secondFills
      twoRepairs.pendingResidualRepairs
    ¬ ((replayRepairRecords twoRepairs pass.journal).pendingResidualRepairs.map
        RepairItem.compared).Perm (completed.map RepairItem.compared) := by
  decide +kernel

end Uncompleted

end LightFee.Engine
