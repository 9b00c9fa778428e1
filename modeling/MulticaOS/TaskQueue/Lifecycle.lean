import MulticaOS.TaskQueue.Failing

/-!
The life of one task over any run: which status follows which, when `completed_at` is
set, and what the service reports about a task that has already ended.
-/

namespace MulticaOS.TaskQueue

def orExisting (db : Db) (id : Id) : Except DbError (Db × Task) → Except DbError (Db × Task)
  | .ok result => .ok result
  | .error .noRows =>
      match getAgentTask db id with
      | some existing => .ok (db, existing)
      | none => .error .noRows
  | .error failure => .error failure

/-- `CompleteTask`; `chatOutcome` is what the chat session's writes in the same transaction
report, and any error of theirs takes the completion back. -/
def completeTask (db : Db) (id : Id) (report : SessionReport)
    (chatOutcome : Task → Except DbError Unit) : Except DbError (Db × Task) :=
  orExisting db id do
    let (completed, task) ← completeAgentTask db id report
    if task.chatSessionId.isSome then
      chatOutcome task
      .ok (completed, task)
    else .ok (completed, task)

def cancelTaskWithResult (db : Db) (id : Id) : Except DbError (Db × Task) :=
  match cancelAgentTask db id with
  | .ok (cancelled, task :: _) => .ok (cancelled, task)
  | .ok (cancelled, []) => orExisting cancelled id (.error .noRows)
  | .error failure => .error failure

structure OneWay (now : Nat) (old new : Task) : Prop where
  absorbed : old.status.terminal = true →
    new.status = old.status ∧ new.completedAt = old.completedAt
  stamped : old.status.terminal = false → new.status.terminal = true → new.completedAt = some now
  unstamped : new.status.terminal = false → new.completedAt = old.completedAt
  completed : new.status = .completed → old.status = .completed ∨ old.status = .running
  running : new.status = .running →
    old.status = .running ∨ old.status = .dispatched ∨ old.status = .waitingLocalDirectory
  neverBack : old.status = .running → new.status = .running ∨ new.status.terminal = true

theorem OneWay.of_same {now : Nat} {old new : Task} (status : new.status = old.status)
    (completedAt : new.completedAt = old.completedAt) : OneWay now old new where
  absorbed _ := ⟨status, completedAt⟩
  stamped live ended := by
    rw [status, live] at ended
    contradiction
  unstamped _ := completedAt
  completed isCompleted := Or.inl (status.symm.trans isCompleted)
  running isRunning := Or.inl (status.symm.trans isRunning)
  neverBack wasRunning := Or.inl (status.trans wasRunning)

theorem OneWay.of_ended {now : Nat} {old new : Task} (live : old.status.terminal = false)
    (ended : new.status.terminal = true) (completedAt : new.completedAt = some now)
    (completed : new.status = .completed → old.status = .running) : OneWay now old new where
  absorbed terminal := by
    rw [live] at terminal
    contradiction
  stamped _ _ := completedAt
  unstamped unended := by
    rw [ended] at unended
    contradiction
  completed isCompleted := Or.inr (completed isCompleted)
  running isRunning := by
    rw [isRunning] at ended
    contradiction
  neverBack _ := Or.inr ended

theorem OneWay.of_moved {now : Nat} {old new : Task} (live : old.status.terminal = false)
    (notRunning : old.status ≠ .running) (unfinished : new.status.terminal = false)
    (completedAt : new.completedAt = old.completedAt)
    (running : new.status = .running →
      old.status = .dispatched ∨ old.status = .waitingLocalDirectory) : OneWay now old new where
  absorbed terminal := by
    rw [live] at terminal
    contradiction
  stamped _ ended := by
    rw [unfinished] at ended
    contradiction
  unstamped _ := completedAt
  completed isCompleted := by
    rw [isCompleted] at unfinished
    contradiction
  running isRunning := Or.inr (running isRunning)
  neverBack wasRunning := absurd wasRunning notRunning

theorem live_of_active {status : Status} (active : status.active = true) :
    status.terminal = false := by
  cases status <;> simp [Status.active, Status.terminal] at active ⊢

theorem OneWay.of_dispatched {now : Nat} {old new : Task} (dispatched : old.status = .dispatched)
    (unfinished : new.status.terminal = false) (completedAt : new.completedAt = old.completedAt) :
    OneWay now old new := by
  apply OneWay.of_moved
  · rw [dispatched]
    rfl
  · rw [dispatched]
    simp
  · exact unfinished
  · exact completedAt
  · exact fun _ => Or.inl dispatched

theorem OneWay.of_waiting {now : Nat} {old new : Task}
    (waiting : old.status = .queued ∨ old.status = .deferred)
    (unfinished : new.status.terminal = false) (notRunning : new.status ≠ .running)
    (completedAt : new.completedAt = old.completedAt) : OneWay now old new := by
  apply OneWay.of_moved
  · rcases waiting with queued | deferred
    · rw [queued]
      rfl
    · rw [deferred]
      rfl
  · rcases waiting with queued | deferred
    · simp [queued]
    · simp [deferred]
  · exact unfinished
  · exact completedAt
  · exact fun isRunning => absurd isRunning notRunning

theorem RowStep.oneWay {now : Nat} {action : Action} {old new : Task}
    (changed : RowStep now action old new) : OneWay now old new := by
  cases changed with
  | same => exact .of_same rfl rfl
  | reclaim dispatched => exact .of_dispatched dispatched rfl rfl
  | deliver => exact .of_same rfl rfl
  | requeue dispatched => exact .of_dispatched dispatched rfl rfl
  | extendLease => exact .of_same rfl rfl
  | start prepared =>
      apply OneWay.of_moved
      · rcases prepared with dispatched | waiting
        · rw [dispatched]
          rfl
        · rw [waiting]
          rfl
      · rcases prepared with dispatched | waiting
        · simp [dispatched]
        · simp [waiting]
      · rfl
      · rfl
      · exact fun _ => prepared
  | wait dispatched => exact .of_dispatched dispatched rfl rfl
  | pinSession => exact .of_same rfl rfl
  | complete running =>
      apply OneWay.of_ended
      · rw [running]
        rfl
      · rfl
      · rfl
      · exact fun _ => running
  | linkIssue => exact .of_same rfl rfl
  | fail active => exact .of_ended (live_of_active active) rfl rfl (by simp [Task.fail])
  | sweep live =>
      apply OneWay.of_ended
      · rcases live with queued | active
        · rw [queued]
          rfl
        · exact live_of_active active
      · rfl
      · rfl
      · simp [Task.sweep]
  | cancel live => exact .of_ended (by simpa [Status.live] using live) rfl rfl (by simp [Task.cancel])
  | promote deferred => exact .of_waiting (Or.inr deferred) rfl (by simp [Task.promote]) rfl
  | promoteChannelChat deferred =>
      exact .of_waiting (Or.inr deferred) rfl (by simp [Task.promote]) rfl
  | reassign => exact .of_same rfl rfl
  | mergeComment => exact .of_same rfl rfl
  | registerComment => exact .of_same rfl rfl

theorem Moved.oneWay {now : Nat} {action : Action} {old new : Task}
    (moved : Moved now action old new) : OneWay now old new := by
  cases moved with
  | edit changed => exact changed.oneWay
  | claim queued => exact .of_waiting (Or.inl queued) rfl (by simp [Task.claim]) rfl

theorem NewRow.live {db : Db} {row : Task} (new : NewRow db row) :
    row.status.terminal = false ∧ row.status ≠ .running := by
  rcases new.waiting with queued | ⟨deferred, -⟩
  · simp [queued, Status.terminal]
  · simp [deferred, Status.terminal]

theorem getAgentTask_step {db : Db} (wellFormed : WellFormed db) {action : Action} {id : Id}
    {later : Task} (found : getAgentTask (step db action) id = some later) :
    (∃ task, getAgentTask db id = some task ∧ OneWay db.now task later) ∨
      NewRow db later := by
  obtain ⟨member, rfl⟩ := getAgentTask_mem found
  rcases step_mem wellFormed.unique member with ⟨old, listed, moved⟩ | ⟨new, -⟩
  · refine Or.inl ⟨old, ?_, moved.oneWay⟩
    rw [moved.lineage.id]
    exact getAgentTask_eq wellFormed.unique listed
  · exact Or.inr new

theorem getAgentTask_kept {db : Db} (wellFormed : WellFormed db) (action : Action) {id : Id}
    {task : Task} (found : getAgentTask db id = some task) :
    ∃ later, getAgentTask (step db action) id = some later ∧ Moved db.now action task later := by
  obtain ⟨member, rfl⟩ := getAgentTask_mem found
  obtain ⟨later, listed, moved⟩ := step_kept wellFormed.unique action member
  refine ⟨later, ?_, moved⟩
  rw [← moved.lineage.id]
  exact getAgentTask_eq (wellFormed.step action).unique listed

theorem getAgentTask_run {kept : Task → Prop}
    (preserved : ∀ now action old new, Moved now action old new → kept old → kept new)
    {db : Db} (wellFormed : WellFormed db) {id : Id} {task : Task}
    (found : getAgentTask db id = some task) (holds : kept task) (actions : List Action) :
    ∃ later, getAgentTask (RunLib.run step db actions) id = some later ∧ kept later := by
  induction actions generalizing db task with
  | nil => exact ⟨task, found, holds⟩
  | cons action rest ih =>
      obtain ⟨next, foundNext, moved⟩ := getAgentTask_kept wellFormed action found
      exact ih (wellFormed.step action) foundNext (preserved _ _ _ _ moved holds)

theorem terminal_run {db : Db} (wellFormed : WellFormed db) {id : Id} {task : Task}
    (found : getAgentTask db id = some task) (terminal : task.status.terminal = true)
    (actions : List Action) :
    ∃ later, getAgentTask (RunLib.run step db actions) id = some later ∧
      later.status = task.status ∧ later.completedAt = task.completedAt := by
  refine getAgentTask_run (fun now action old new moved same => ?_) wellFormed found ⟨rfl, rfl⟩
    actions
  have ended : old.status.terminal = true := by
    rw [same.1]
    exact terminal
  obtain ⟨status, completedAt⟩ := moved.oneWay.absorbed ended
  exact ⟨status.trans same.1, completedAt.trans same.2⟩

def Status.begun (status : Status) : Bool := status = .running || status.terminal

theorem Moved.begun {now : Nat} {action : Action} {old new : Task}
    (moved : Moved now action old new) (begun : old.status.begun = true) :
    new.status.begun = true := by
  simp only [Status.begun, Bool.or_eq_true, decide_eq_true_eq] at begun ⊢
  rcases begun with isRunning | ended
  · exact moved.oneWay.neverBack isRunning
  · rw [(moved.oneWay.absorbed ended).1]
    exact Or.inr ended

theorem begun_run {db : Db} (wellFormed : WellFormed db) {id : Id} {task : Task}
    (found : getAgentTask db id = some task) (begun : task.status.begun = true)
    (actions : List Action) :
    ∃ later, getAgentTask (RunLib.run step db actions) id = some later ∧
      later.status.begun = true :=
  getAgentTask_run (fun _ _ _ _ moved hasBegun => moved.begun hasBegun) wellFormed found begun actions

theorem Moved.attribution {now : Nat} {action : Action} {old new : Task}
    (moved : Moved now action old new) (begun : old.status.begun = true) :
    new.attribution = old.attribution := by
  cases moved with
  | claim => rfl
  | edit changed =>
      cases changed with
      | mergeComment _ queued =>
          rw [queued] at begun
          contradiction
      | _ => rfl

def ended (id : Id) (db : Db) : Bool := (getAgentTask db id).any fun task => task.status.terminal

theorem ended_step {id : Id} {db : Db} (wellFormed : WellFormed db) (action : Action)
    (hasEnded : ended id db = true) : ended id (step db action) = true := by
  simp only [ended, Option.any_eq_true] at hasEnded ⊢
  obtain ⟨task, found, terminal⟩ := hasEnded
  obtain ⟨later, foundLater, moved⟩ := getAgentTask_kept wellFormed action found
  refine ⟨later, foundLater, ?_⟩
  rw [(moved.oneWay.absorbed terminal).1]
  exact terminal

structure Unstamped (db : Db) : Prop extends WellFormed db where
  empty : ∀ task ∈ db.tasks, task.status.terminal = false → task.completedAt = none

theorem initial_unstamped (limits : Id → Nat) : Unstamped (initial limits) :=
  ⟨initial_wellFormed limits, by simp [initial]⟩

theorem Unstamped.step {db : Db} (unstamped : Unstamped db) (action : Action) :
    Unstamped (step db action) := by
  refine ⟨unstamped.toWellFormed.step action, fun later member unended => ?_⟩
  rcases step_mem unstamped.unique member with ⟨old, listed, moved⟩ | ⟨new, -⟩
  · rw [moved.oneWay.unstamped unended]
    apply unstamped.empty old listed
    rw [← Bool.not_eq_true]
    intro terminal
    rw [(moved.oneWay.absorbed terminal).1, terminal] at unended
    contradiction
  · exact new.unended

section Reports

variable {db : Db} {id : Id} {task : Task}

theorem completeTask_terminal (found : getAgentTask db id = some task)
    (unique : (db.tasks.map Task.id).Nodup) (terminal : task.status.terminal = true)
    (report : SessionReport) (chatOutcome : Task → Except DbError Unit) :
    completeTask db id report chatOutcome = .ok (db, task) := by
  have refused : completeAgentTask db id report = .error .noRows := by
    rw [completeAgentTask, updateOne]
    split
    · rfl
    · rename_i old matching
      have matched := List.find?_some matching
      simp only [Bool.and_eq_true, decide_eq_true_eq] at matched
      have same := getAgentTask_eq unique (List.mem_of_find?_eq_some matching)
      rw [matched.1, found, Option.some.injEq] at same
      rw [same, matched.2] at terminal
      contradiction
  simp only [completeTask, refused, bind, Except.bind, orExisting, found]

theorem cancelAgentTask_terminal (found : getAgentTask db id = some task)
    (wellFormed : WellFormed db) (terminal : task.status.terminal = true) :
    cancelAgentTask db id = .ok (db, []) := by
  have unmatched : ∀ row ∈ db.tasks, (row.id = id && row.status.live) = false := by
    intro row member
    rw [← Bool.not_eq_true]
    intro matched
    simp only [Bool.and_eq_true, decide_eq_true_eq] at matched
    have same := getAgentTask_eq wellFormed.unique member
    rw [matched.1, found, Option.some.injEq] at same
    rw [← same, Status.live, terminal] at matched
    exact absurd matched.2 (by simp)
  have none : db.tasks.filter (fun row => row.id = id && row.status.live) = [] :=
    List.filter_eq_nil_iff.mpr fun row member matched => by
      rw [unmatched row member] at matched
      contradiction
  rw [cancelAgentTask, cancelAgentTasks, updateMany, TableLib.updateWhere_none unmatched, commit,
    if_pos wellFormed.pending, none]
  rfl

theorem cancelTaskWithResult_terminal (found : getAgentTask db id = some task)
    (wellFormed : WellFormed db) (terminal : task.status.terminal = true) :
    cancelTaskWithResult db id = .ok (db, task) := by
  simp only [cancelTaskWithResult, cancelAgentTask_terminal found wellFormed terminal, orExisting,
    found]

end Reports

/-! The service takes no step that the state machine does not have. -/

theorem completeTask_step (db : Db) (id : Id) (report : SessionReport)
    (chatOutcome : Task → Except DbError Unit) :
    settle db (completeTask db id report chatOutcome) = db ∨
      settle db (completeTask db id report chatOutcome) = step db (.completeAgentTask id report) := by
  have kept : ∀ failure, settle db (orExisting db id (.error failure)) = db := by
    intro failure
    cases failure with
    | noRows =>
        simp only [orExisting]
        split <;> rfl
    | uniqueViolation => rfl
    | foreignKeyViolation => rfl
  simp only [completeTask, step]
  rcases completeAgentTask db id report with failure | ⟨completed, task⟩
  · exact Or.inl (kept failure)
  · simp only [bind, Except.bind]
    split
    · rcases chatOutcome task with failure | ⟨⟩
      · exact Or.inl (kept failure)
      · exact Or.inr rfl
    · exact Or.inr rfl

theorem cancelTaskWithResult_step (db : Db) (id : Id) :
    settle db (cancelTaskWithResult db id) = step db (.cancel (.task id)) := by
  simp only [cancelTaskWithResult, step, cancel]
  rcases result : cancelAgentTask db id with failure | ⟨cancelled, rows⟩
  · rfl
  · cases rows with
    | cons task rest => rfl
    | nil =>
        obtain ⟨stored, empty, -⟩ := updateMany_ok result
        have unmatched : ∀ row ∈ db.tasks, (row.id = id && row.status.live) = false := by
          intro row member
          have skipped := List.filter_eq_nil_iff.mp (List.map_eq_nil_iff.mp empty.symm) row member
          simpa using skipped
        rw [TableLib.updateWhere_none unmatched] at stored
        subst stored
        simp only [orExisting]
        split <;> rfl

structure Lifecycle (db : Db) : Prop where
  absorbing : ∀ id task, getAgentTask db id = some task → task.status.terminal = true →
    ∀ actions, ∃ later, getAgentTask (RunLib.run step db actions) id = some later ∧
      later.status = task.status ∧ later.completedAt = task.completedAt
  once : ∀ id actions, RunLib.entries step (ended id) db actions ≤ 1
  unstamped : ∀ id task, getAgentTask db id = some task → task.status.terminal = false →
    task.completedAt = none
  stamped : ∀ id action later, ended id db = false →
    getAgentTask (step db action) id = some later → later.status.terminal = true →
      later.completedAt = some db.now
  completed : ∀ id action later, getAgentTask (step db action) id = some later →
    later.status = .completed →
      ∃ task, getAgentTask db id = some task ∧
        (task.status = .completed ∨ task.status = .running)
  running : ∀ id action later, getAgentTask (step db action) id = some later →
    later.status = .running →
      ∃ task, getAgentTask db id = some task ∧ (task.status = .running ∨
        task.status = .dispatched ∨ task.status = .waitingLocalDirectory)
  neverBack : ∀ id task, getAgentTask db id = some task → task.status = .running →
    ∀ actions, ∃ later, getAgentTask (RunLib.run step db actions) id = some later ∧
      later.status ≠ .queued ∧ later.status ≠ .deferred
  reported : ∀ id task, getAgentTask db id = some task → task.status.terminal = true →
    (∀ report chatOutcome, completeTask db id report chatOutcome = .ok (db, task)) ∧
    (∀ error reason report overlay, failTask db id error reason report overlay = .ok (db, task)) ∧
    cancelTaskWithResult db id = .ok (db, task)

theorem Unstamped.lifecycle {db : Db} (unstamped : Unstamped db) : Lifecycle db where
  absorbing _ _ found terminal actions :=
    terminal_run unstamped.toWellFormed found terminal actions
  once id actions :=
    RunLib.entries_le_one (fun _ action wellFormed => wellFormed.step action)
      (fun _ action wellFormed hasEnded => ended_step wellFormed action hasEnded)
      unstamped.toWellFormed actions
  unstamped _ _ found unended := unstamped.empty _ (getAgentTask_mem found).1 unended
  stamped id action later unended found terminal := by
    rcases getAgentTask_step unstamped.toWellFormed found with ⟨task, before, oneWay⟩ | new
    · rw [ended, before, Option.any_some] at unended
      exact oneWay.stamped unended terminal
    · rw [new.live.1] at terminal
      contradiction
  completed id action later found completed := by
    rcases getAgentTask_step unstamped.toWellFormed found with ⟨task, before, oneWay⟩ | new
    · exact ⟨task, before, oneWay.completed completed⟩
    · have live := new.live.1
      rw [completed] at live
      contradiction
  running id action later found running := by
    rcases getAgentTask_step unstamped.toWellFormed found with ⟨task, before, oneWay⟩ | new
    · exact ⟨task, before, oneWay.running running⟩
    · exact absurd running new.live.2
  neverBack id task found running actions := by
    have started : task.status.begun = true := by
      rw [running]
      rfl
    obtain ⟨later, foundLater, begun⟩ := begun_run unstamped.toWellFormed found started actions
    refine ⟨later, foundLater, ?_⟩
    cases status : later.status <;> simp [status, Status.begun, Status.terminal] at begun ⊢
  reported id task found terminal := by
    obtain ⟨member, rfl⟩ := getAgentTask_mem found
    refine ⟨fun report chatOutcome => ?_, fun error reason report overlay => ?_, ?_⟩
    · exact completeTask_terminal found unstamped.unique terminal report chatOutcome
    · exact failTask_terminal unstamped.unique member terminal
    · exact cancelTaskWithResult_terminal found unstamped.toWellFormed terminal

end MulticaOS.TaskQueue
