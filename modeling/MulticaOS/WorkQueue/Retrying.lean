import MulticaOS.TaskQueue.Lifecycle
import MulticaOS.WorkQueue.Dispatching

/-!
The work queue beside the task table: `DispatchNext` enqueues a task, the task service may
replace a failed task by a retry, and the events of a task reach `SyncItemFromTask`, which
knows only the task that the item is linked to.
-/

namespace MulticaOS.WorkQueue.Retrying

open TaskQueue (Db NewTask Task getAgentTask retryEligible maybeRetryPlan createAgentTask)

structure System where
  queue : State
  tasks : Db
  dispatched : List (Id × Id)

/-- A statement of a caller of the queue (with the row that `EnqueueTaskForIssue` inserts), an
event of a task, a step of the task service, or a call or edit of the queue. -/
inductive Event where
  | elapse (seconds : Nat)
  | statement (process : Nat) (outside : Outside) (new : NewTask)
  | taskEvent (task : Id)
  | tasks (action : TaskQueue.Action)
  | edit (action : Action)

def syncStatus : TaskQueue.Status → TaskStatus
  | .completed => .completed
  | .failed => .failed
  | .cancelled => .cancelled
  | _ => .active

def isEdit : Action → Bool
  | .elapse _ => false
  | .statement _ _ => false
  | .syncItemFromTask _ _ => false
  | _ => true

def enqueuing (system : System) (index : Nat) : Option (Id × Id) :=
  match system.queue.processes[index]? with
  | some (.enqueueTask item issue) => some (item, issue)
  | _ => none

def enqueueTaskForIssue (system : System) (index item issue : Id) (outside : Outside) (new : NewTask) :
    System :=
  match if outside.enqueued then createAgentTask system.tasks issue new else .error .noRows with
  | .ok (tasks, task) =>
      { queue := step { system.queue with nextTask := task.id }
          (.statement index { outside with enqueued := true })
        tasks := tasks
        dispatched := system.dispatched ++ [(item, task.id)] }
  | .error _ =>
      { system with queue := step system.queue (.statement index { outside with enqueued := false }) }

def handle (system : System) : Event → System
  | .elapse seconds =>
      { system with
        queue := step system.queue (.elapse seconds)
        tasks := TaskQueue.step system.tasks (.elapse seconds) }
  | .statement index outside new =>
      match enqueuing system index with
      | some (item, issue) => enqueueTaskForIssue system index item issue outside new
      | none => { system with queue := step system.queue (.statement index outside) }
  | .taskEvent task =>
      match getAgentTask system.tasks task with
      | none => system
      | some row =>
          { system with queue := step system.queue (.syncItemFromTask task (syncStatus row.status)) }
  | .tasks action => { system with tasks := TaskQueue.step system.tasks action }
  | .edit action =>
      if isEdit action then { system with queue := step system.queue action } else system

def start (queue : Queue) (limits : Id → Nat) : System := ⟨initial queue, TaskQueue.initial limits, []⟩

/-- The rows that follow a task along `retry_of_task_id`, the task itself among them. -/
inductive Descends (rows : List Task) (root : Id) : Id → Prop
  | root : Descends rows root root
  | retry {row : Task} {parent : Id} (member : row ∈ rows) (link : row.retryOfTaskId = some parent)
      (older : Descends rows root parent) : Descends rows root row.id

/-- Where a caller enqueues a task for an item, the retry chains of the tasks enqueued before for
other items have ended. -/
def EnqueuesInTurn (system : System) : Event → Prop
  | .statement index _ _ => ∀ item issue, enqueuing system index = some (item, issue) →
      ∀ other task, (other, task) ∈ system.dispatched → other ≠ item →
        ∀ row ∈ system.tasks.tasks, Descends system.tasks.tasks task row.id → row.status.terminal = true
  | _ => True

def retries (tasks : Db) : TaskQueue.Action → Option Id
  | .failTask id _ reason _ _ =>
      if (getAgentTask tasks id).any fun task => task.status.active && retryEligible reason task then some id
      else none
  | .handleFailedTask index _ =>
      (tasks.swept[index]?).bind fun failed =>
        if (maybeRetryPlan failed tasks.now).isSome then some failed.id else none
  | _ => none

def ends : Process → Option Id
  | .markTerminal item _ _ => some item
  | .failTerminal item _ => some item
  | _ => none

def inserted : Process → Bool
  | .markRunning _ _ _ => true
  | _ => false

def Finished (tasks : Db) (task : Id) : Prop :=
  ∀ row ∈ tasks.tasks, row.id = task → row.status.terminal = true

/-- No dispatched task is retried; no caller checks for a running item while another one dispatches,
ends between the insert of a task and `MarkWorkQueueItemRunning`, or marks an item terminal that
meanwhile runs another task; and no item is deleted while it is being dispatched. -/
def Orderly (system : System) : Event → Prop
  | .tasks action => ∀ pair ∈ system.dispatched, retries system.tasks action ≠ some pair.2
  | .statement index outside _ => Exclusive system.queue (.statement index outside) ∧
      ∀ row ∈ system.queue.items, (system.queue.processes[index]?).bind ends = some row.id →
        row.status = .running → ∀ task ∈ system.tasks.tasks, row.taskId = some task.id →
          task.status.terminal = true
  | .edit (.fault index) => (system.queue.processes[index]?).any inserted = false
  | .edit (.deleteItem item) => ∀ process ∈ system.queue.processes, process.held ≠ some item
  | _ => True

instance (system : System) : (event : Event) → Decidable (Orderly system event)
  | .tasks action => inferInstanceAs (Decidable (∀ pair ∈ system.dispatched, retries system.tasks action ≠ some pair.2))
  | .statement _ _ _ => instDecidableAnd
  | .edit (.fault index) => inferInstanceAs (Decidable ((system.queue.processes[index]?).any inserted = false))
  | .edit (.deleteItem item) =>
      inferInstanceAs (Decidable (∀ process ∈ system.queue.processes, process.held ≠ some item))
  | .elapse _ | .taskEvent _ | .edit (.elapse _) | .edit .tickAll | .edit (.start _) | .edit .pause
  | .edit .resume | .edit (.syncItemFromTask _ _) | .edit (.statement _ _) | .edit (.createItem _ _ _ _)
  | .edit (.updateItem _ _) | .edit (.reorderItem _ _) | .edit (.retryItem _) | .edit .deleteFinishedItems
  | .edit (.createIssue _) | .edit (.deleteIssue _) | .edit (.deleteAgent _) | .edit (.updateQueue _) =>
      inferInstanceAs (Decidable True)

section Tasks

variable {db : Db} {action : TaskQueue.Action} {task : Id}

theorem finished_step (wellFormed : TaskQueue.WellFormed db) (known : task < db.nextId)
    (finished : Finished db task) : Finished (TaskQueue.step db action) task := by
  intro row member own
  rcases TaskQueue.step_mem wellFormed.unique member with ⟨old, listed, moved⟩ | ⟨new, _⟩
  · have ended := finished old listed (moved.lineage.id.symm.trans own)
    rw [(moved.oneWay.absorbed ended).1]
    exact ended
  · rw [new.id] at own
    exact absurd own (Nat.ne_of_gt known)

theorem retries_of_origin (wellFormed : TaskQueue.WellFormed db) {row : Task}
    (origin : TaskQueue.Origin db action (TaskQueue.step db action) row) {parent : Id}
    (link : row.retryOfTaskId = some parent) : retries db action = some parent := by
  cases origin with
  | enqueued unlinked =>
      rw [unlinked] at link
      contradiction
  | failed byFail member active fails stored eligible row_eq =>
      rw [row_eq, fails] at link
      obtain rfl : _ = parent := Option.some.inj link
      rw [byFail, retries]
      have found := TaskQueue.getAgentTask_eq wellFormed.unique member
      rw [TaskQueue.Task.fail, found, Option.any_some, active, eligible]
      rfl
  | swept byHandler returned member stored same planned row_eq =>
      rw [row_eq] at link
      obtain rfl : _ = parent := Option.some.inj link
      rw [byHandler, retries, returned, Option.bind_some, planned, same]
      rfl

theorem unretried_step (wellFormed : TaskQueue.WellFormed db)
    (unretried : ∀ row ∈ db.tasks, row.retryOfTaskId ≠ some task)
    (spared : retries db action ≠ some task) :
    ∀ row ∈ (TaskQueue.step db action).tasks, row.retryOfTaskId ≠ some task := by
  intro row member link
  rcases TaskQueue.step_mem wellFormed.unique member with ⟨old, listed, moved⟩ | ⟨_, origin⟩
  · exact unretried old listed (moved.lineage.retryOfTaskId.symm.trans link)
  · exact spared (retries_of_origin wellFormed origin link)

theorem descends_unretried {rows : List Task} {root id : Id}
    (unretried : ∀ row ∈ rows, row.retryOfTaskId ≠ some root) (descends : Descends rows root id) :
    id = root := by
  induction descends with
  | root => rfl
  | retry member link _ ih => exact absurd (ih ▸ link) (unretried _ member)

end Tasks

def Holds (queue : State) (item task : Id) : Prop :=
  (∃ row ∈ queue.items, row.id = item ∧ row.status = .running ∧ row.taskId = some task) ∨
    ∃ (index : Nat) (issue : Id), queue.processes[index]? = some (.markRunning item task issue)

def Present (queue : State) : Prop :=
  ∀ process ∈ queue.processes, ∀ id, process.held = some id → ∃ row ∈ queue.items, row.id = id

def EditAllowed (queue : State) (action : Action) : Prop :=
  (∀ index, action = .fault index → (queue.processes[index]?).any inserted = false) ∧
  ∀ item, action = .deleteItem item → ∀ process ∈ queue.processes, process.held ≠ some item

section Queue

variable {queue : State} {item task : Id}

def SameRun (old new : Item) : Prop := new.id = old.id ∧ new.status = old.status ∧ new.taskId = old.taskId

theorem running_updateItems {start : State} {matching : Item → Bool} {change : Item → Item} {row : Item}
    (member : row ∈ start.items) (same : matching row = true → SameRun row (change row)) :
    ∃ later ∈ (updateItems start matching change).items, SameRun row later := by
  have placed : (if matching row then change row else row) ∈ (updateItems start matching change).items :=
    List.mem_map_of_mem member
  by_cases matched : matching row = true
  · rw [if_pos matched] at placed
    exact ⟨change row, placed, same matched⟩
  · rw [if_neg matched] at placed
    exact ⟨row, placed, rfl, rfl, rfl⟩

theorem running_edit {action : Action} (edit : action.isStatement = false) {row : Item}
    (member : row ∈ queue.items) (running : row.status = .running) :
    ∃ later ∈ (step queue action).items, SameRun row later := by
  have kept : SameRun row row := ⟨rfl, rfl, rfl⟩
  cases action with
  | statement index outside => exact absurd edit (by simp [Action.isStatement])
  | pause =>
      simp only [step]
      split <;> exact ⟨row, member, kept⟩
  | resume =>
      simp only [step]
      split <;> exact ⟨row, member, kept⟩
  | createItem seq kind issue agent => exact ⟨row, List.mem_append_left _ member, kept⟩
  | updateItem id agent => exact running_updateItems member fun _ => ⟨rfl, rfl, rfl⟩
  | reorderItem id seq => exact running_updateItems member fun _ => ⟨rfl, rfl, rfl⟩
  | retryItem id =>
      refine running_updateItems member fun matched => ?_
      have failed : row.id = id ∧ row.status = .failed := by simpa using matched
      rw [running] at failed
      exact absurd failed.2 (by decide)
  | deleteItem id => exact ⟨row, List.mem_filter.mpr ⟨member, by simp [running]⟩, kept⟩
  | deleteFinishedItems => exact ⟨row, List.mem_filter.mpr ⟨member, by simp [running]⟩, kept⟩
  | deleteIssue id =>
      have listed : row ∈ ({ queue with issues := queue.issues.filter fun issue => issue.id ≠ id } : State).items :=
        member
      exact running_updateItems listed fun _ => ⟨rfl, rfl, rfl⟩
  | deleteAgent id =>
      have listed : row ∈ ({ queue with queue :=
          { queue.queue with defaultAgentId := clear id queue.queue.defaultAgentId } } : State).items :=
        member
      exact running_updateItems listed fun _ => ⟨rfl, rfl, rfl⟩
  | _ => exact ⟨row, member, kept⟩

theorem running_advance (outside : Outside) {process : Process} {row : Item} (member : row ∈ queue.items)
    (unmarked : process.marks ≠ some row.id) :
    (∃ later ∈ (advance queue outside process).1.items, SameRun row later) ∨
      ends process = some row.id := by
  have kept : SameRun row row := ⟨rfl, rfl, rfl⟩
  cases process with
  | listRunnable now =>
      simp only [advance]
      split <;> exact .inl ⟨row, member, kept⟩
  | markScheduledStarted copy now =>
      simp only [advance]
      split <;> exact .inl ⟨row, member, kept⟩
  | markCronFired copy now next =>
      simp only [advance]
      split <;> exact .inl ⟨row, member, kept⟩
  | setStarted startAt =>
      simp only [advance]
      split <;> exact .inl ⟨row, member, kept⟩
  | getItemByTask task status =>
      simp only [advance]
      split <;> exact .inl ⟨row, member, kept⟩
  | markTerminal id status error =>
      by_cases same : row.id = id
      · exact .inr (congrArg some same.symm)
      · refine .inl (running_updateItems member fun matched => ?_)
        exact absurd matched (by simp [same])
  | getRunning copy now =>
      simp only [advance]
      split <;> exact .inl ⟨row, member, kept⟩
  | nextPending copy =>
      simp only [advance]
      split <;> exact .inl ⟨row, member, kept⟩
  | findOrCreateIssue id agent =>
      simp only [advance]
      split <;> exact .inl ⟨row, member, kept⟩
  | getIssue id issue agent =>
      simp only [advance]
      split <;> exact .inl ⟨row, member, kept⟩
  | enqueueTask id issue =>
      simp only [advance]
      split <;> exact .inl ⟨row, member, kept⟩
  | markRunning id task issue =>
      have different : row.id ≠ id := fun same => unmarked (congrArg some same.symm)
      refine .inl (running_updateItems member fun matched => ?_)
      exact absurd matched (by simp [different])
  | failRunning id reason =>
      have different : row.id ≠ id := fun same => unmarked (congrArg some same.symm)
      refine .inl (running_updateItems member fun matched => ?_)
      exact absurd matched (by simp [different])
  | failTerminal id reason =>
      by_cases same : row.id = id
      · exact .inr (congrArg some same.symm)
      · refine .inl (running_updateItems member fun matched => ?_)
        exact absurd matched (by simp [same])
  | _ => exact .inl ⟨row, member, kept⟩

theorem marking_edit {action : Action} (edit : action.isStatement = false) {index : Nat} {process : Process}
    (listed : queue.processes[index]? = some process) (lives : action ≠ .fault index) :
    (step queue action).processes[index]? = some process := by
  have called : ∀ other, (call queue other).processes[index]? = some process := by
    intro other
    have bound : index < queue.processes.length := (List.getElem?_eq_some_iff.mp listed).1
    rw [call, List.getElem?_append_left bound]
    exact listed
  cases action with
  | statement index outside => exact absurd edit (by simp [Action.isStatement])
  | tickAll => exact called _
  | start startAt => exact called _
  | pause =>
      simp only [step]
      split
      · exact called _
      · exact listed
  | resume =>
      simp only [step]
      split
      · exact called _
      · exact listed
  | syncItemFromTask task status => exact called _
  | fault other =>
      have different : other ≠ index := fun same => lives (congrArg Action.fault same)
      simpa only [step, List.getElem?_set_ne different] using listed
  | _ => exact listed

theorem holds_edit {action : Action} (edit : action.isStatement = false) (allowed : EditAllowed queue action)
    (holds : Holds queue item task) : Holds (step queue action) item task := by
  rcases holds with ⟨row, member, own, running, linked⟩ | ⟨index, issue, listed⟩
  · obtain ⟨later, laterMember, same, status, taskId⟩ := running_edit edit member running
    exact .inl ⟨later, laterMember, same.trans own, status.trans running, taskId.trans linked⟩
  · refine .inr ⟨index, issue, marking_edit edit listed fun fault => ?_⟩
    have ended := allowed.1 index fault
    rw [listed] at ended
    exact absurd ended (by simp [inserted])

theorem holds_statement (invariant : Invariant queue) (present : Present queue) {index : Nat}
    {process : Process} (listed : queue.processes[index]? = some process) (outside : Outside)
    (holds : Holds queue item task) :
    Holds (step queue (.statement index outside)) item task ∨ (ends process = some item ∧
      ∃ row ∈ queue.items, row.id = item ∧ row.status = .running ∧ row.taskId = some task) := by
  rcases holds with ⟨row, member, own, running, linked⟩ | ⟨other, issue, marking⟩
  · have unmarked : process.marks ≠ some row.id := by
      intro marked
      have pending := invariant.pending listed (held_of_marks marked) row member rfl
      rw [running] at pending
      contradiction
    rcases running_advance outside member unmarked with ⟨later, laterMember, same, status, taskId⟩ | ended
    · refine .inl (.inl ⟨later, ?_, same.trans own, status.trans running, taskId.trans linked⟩)
      simpa only [step, listed] using laterMember
    · exact .inr ⟨ended.trans (congrArg some own), row, member, own, running, linked⟩
  · by_cases same : other = index
    · -- the caller itself: its statement marks the item
      subst same
      obtain rfl : Process.markRunning item task issue = process := Option.some.inj (marking.symm.trans listed)
      obtain ⟨row, member, own⟩ := present _ (List.mem_of_getElem? listed) item rfl
      refine .inl (.inl ⟨{ row with status := .running, taskId := some task, issueId := (some issue).or row.issueId },
        ?_, own, rfl, rfl⟩)
      simp only [step, listed, advance]
      exact List.mem_map.mpr ⟨row, member, if_pos (decide_eq_true own)⟩
    · refine .inl (.inr ⟨other, issue, ?_⟩)
      simp only [step, listed, List.getElem?_set_ne (Ne.symm same)]
      exact marking

theorem pending_edit {action : Action} (edit : action.isStatement = false) {row : Item}
    (member : row ∈ queue.items) (pending : row.status = .pending) (stays : action ≠ .deleteItem row.id) :
    ∃ later ∈ (step queue action).items, later.id = row.id := by
  have updated : ∀ (start : State) (matching : Item → Bool) (change : Item → Item),
      start.items = queue.items → (∀ item, (change item).id = item.id) →
        ∃ later ∈ (updateItems start matching change).items, later.id = row.id := by
    intro start matching change items keeps
    have listed : row.id ∈ (updateItems start matching change).items.map Item.id := by
      rw [updateItems_ids keeps, items]
      exact List.mem_map_of_mem member
    exact List.mem_map.mp listed
  cases action with
  | statement index outside => exact absurd edit (by simp [Action.isStatement])
  | pause =>
      simp only [step]
      split <;> exact ⟨row, member, rfl⟩
  | resume =>
      simp only [step]
      split <;> exact ⟨row, member, rfl⟩
  | createItem seq kind issue agent => exact ⟨row, List.mem_append_left _ member, rfl⟩
  | updateItem id agent => exact updated queue _ _ rfl fun _ => rfl
  | reorderItem id seq => exact updated queue _ _ rfl fun _ => rfl
  | retryItem id => exact updated queue _ _ rfl fun _ => rfl
  | deleteItem id =>
      have other : row.id ≠ id := fun same => stays (congrArg Action.deleteItem same.symm)
      exact ⟨row, List.mem_filter.mpr ⟨member, by simp [other]⟩, rfl⟩
  | deleteFinishedItems => exact ⟨row, List.mem_filter.mpr ⟨member, by simp [pending]⟩, rfl⟩
  | deleteIssue id => exact updated _ _ _ rfl fun _ => rfl
  | deleteAgent id => exact updated _ _ _ rfl fun _ => rfl
  | _ => exact ⟨row, member, rfl⟩

theorem present_edit (invariant : Invariant queue) {action : Action} (edit : action.isStatement = false)
    (allowed : EditAllowed queue action) (present : Present queue) : Present (step queue action) := by
  intro process member id holds
  obtain ⟨index, listed⟩ := List.mem_iff_getElem?.mp member
  have before : queue.processes[index]? = some process := by
    rcases step_cases queue action with edited | ⟨_, _, _, rfl, _, _⟩
    · exact edited.callers index process listed (dispatching_of_held holds)
    · exact absurd edit (by simp [Action.isStatement])
  obtain ⟨row, rowMember, own⟩ := present process (List.mem_of_getElem? before) id holds
  have pending := invariant.pending before holds row rowMember own
  obtain ⟨later, laterMember, same⟩ := pending_edit edit rowMember pending fun deleted => by
    rw [own] at deleted
    exact allowed.2 id deleted process (List.mem_of_getElem? before) holds
  exact ⟨later, laterMember, same.trans own⟩

theorem present_statement {index : Nat} (outside : Outside) (present : Present queue) :
    Present (step queue (.statement index outside)) := by
  simp only [step]
  split
  · exact present
  · rename_i process listed
    have advanced := advance_advanced queue outside process
    have kept : ∀ id, (∃ row ∈ queue.items, row.id = id) →
        ∃ row ∈ (advance queue outside process).1.items, row.id = id := by
      rintro id ⟨row, member, rfl⟩
      have inIds : row.id ∈ (advance queue outside process).1.items.map Item.id := by
        rw [advanced.ids]
        exact List.mem_map_of_mem member
      exact List.mem_map.mp inIds
    intro other member id holds
    rcases List.mem_or_eq_of_mem_set member with before | rfl
    · exact kept id (present other before id holds)
    · rcases advanced.takes id holds with held | ⟨row, rowMember, own, _⟩
      · exact kept id (present process (List.mem_of_getElem? listed) id held)
      · exact kept id ⟨row, rowMember, own⟩

end Queue

structure InTurn (system : System) : Prop where
  queue : Invariant system.queue
  present : Present system.queue
  tasks : TaskQueue.Chains system.tasks
  known : ∀ pair ∈ system.dispatched, pair.2 < system.tasks.nextId
  unretried : ∀ pair ∈ system.dispatched, ∀ row ∈ system.tasks.tasks, row.retryOfTaskId ≠ some pair.2
  settled : ∀ pair ∈ system.dispatched,
    Finished system.tasks pair.2 ∨ Holds system.queue pair.1 pair.2

theorem start_inTurn (queue : Queue) (limits : Id → Nat) : InTurn (start queue limits) := by
  refine ⟨initial_invariant queue, ?_, TaskQueue.initial_chains limits, ?_, ?_, ?_⟩ <;>
    simp [start, initial, Present]

namespace InTurn

variable {system : System}

theorem tasksStep (inTurn : InTurn system) {action : TaskQueue.Action} {queue : State}
    (invariant : Invariant queue) (present : Present queue)
    (spared : ∀ pair ∈ system.dispatched, retries system.tasks action ≠ some pair.2)
    (settled : ∀ pair ∈ system.dispatched, Finished system.tasks pair.2 ∨ Holds queue pair.1 pair.2) :
    InTurn { system with queue := queue, tasks := TaskQueue.step system.tasks action } := by
  have wellFormed := inTurn.tasks.toWellFormed
  refine ⟨invariant, present, inTurn.tasks.step action, fun pair member => ?_, fun pair member => ?_,
    fun pair member => ?_⟩
  · exact Nat.lt_of_lt_of_le (inTurn.known pair member) (TaskQueue.step_nextId wellFormed.unique action)
  · exact unretried_step wellFormed (inTurn.unretried pair member) (spared pair member)
  · exact (settled pair member).imp_left (finished_step wellFormed (inTurn.known pair member))

theorem queueStep (inTurn : InTurn system) {queue : State} (invariant : Invariant queue)
    (present : Present queue)
    (settled : ∀ pair ∈ system.dispatched, Finished system.tasks pair.2 ∨ Holds queue pair.1 pair.2) :
    InTurn { system with queue := queue } :=
  ⟨invariant, present, inTurn.tasks, inTurn.known, inTurn.unretried, settled⟩

theorem edited (inTurn : InTurn system) {action : Action} (edit : action.isStatement = false)
    (allowed : EditAllowed system.queue action) :
    InTurn { system with queue := step system.queue action } := by
  have exclusive : Exclusive system.queue action := by
    cases action with
    | statement index outside => exact absurd edit (by simp [Action.isStatement])
    | _ => trivial
  refine inTurn.queueStep (inTurn.queue.step action exclusive)
    (present_edit inTurn.queue edit allowed inTurn.present) fun pair member => ?_
  exact (inTurn.settled pair member).imp_right (holds_edit edit allowed)

theorem settledStatement (inTurn : InTurn system) {index : Nat} {outside : Outside} {new : NewTask}
    (orderly : Orderly system (.statement index outside new)) (answered : Outside) :
    ∀ pair ∈ system.dispatched, Finished system.tasks pair.2 ∨
      Holds (step system.queue (.statement index answered)) pair.1 pair.2 := by
  intro pair member
  rcases inTurn.settled pair member with finished | holds
  · exact .inl finished
  · cases listed : system.queue.processes[index]? with
    | none =>
        have same : step system.queue (.statement index answered) = system.queue := by simp [step, listed]
        rw [same]
        exact .inr holds
    | some process =>
        rcases holds_statement inTurn.queue inTurn.present listed answered holds with
          kept | ⟨ended, row, rowMember, own, running, linked⟩
        · exact .inr kept
        · refine .inl fun task taskMember same => orderly.2 row rowMember ?_ running task taskMember ?_
          · rw [listed, Option.bind_some, ended, own]
          · rw [linked, same]

theorem statementStep (inTurn : InTurn system) {index : Nat} {outside : Outside} {new : NewTask}
    (orderly : Orderly system (.statement index outside new)) (answered : Outside) :
    InTurn { system with queue := step system.queue (.statement index answered) } :=
  inTurn.queueStep (inTurn.queue.step (.statement index answered) orderly.1)
    (present_statement answered inTurn.present) (inTurn.settledStatement orderly answered)

theorem enqueued (inTurn : InTurn system) {index item issue : Id} {outside : Outside} {new : NewTask}
    (orderly : Orderly system (.statement index outside new))
    (caller : system.queue.processes[index]? = some (.enqueueTask item issue)) :
    InTurn (enqueueTaskForIssue system index item issue outside new) := by
  rw [enqueueTaskForIssue]
  split
  · rename_i tasks task inserted
    have created : createAgentTask system.tasks issue new = .ok (tasks, task) := by
      split at inserted
      · exact inserted
      · contradiction
    have stepped : tasks = TaskQueue.step system.tasks (.createAgentTask issue new) := by
      rw [TaskQueue.step, created]
      rfl
    obtain ⟨shape, row, _⟩ := TaskQueue.insert_ok created
    have newId : task.id = system.tasks.nextId := by rw [row]; rfl
    have based : InTurn { system with queue := { system.queue with nextTask := task.id } } := by
      obtain ⟨unique, fresh, alone, idle, pending, single⟩ := inTurn.queue
      exact inTurn.queueStep ⟨unique, fresh, alone, idle, pending, single⟩ inTurn.present inTurn.settled
    have settled := @settledStatement _ based index outside new orderly { outside with enqueued := true }
    have spared : ∀ pair ∈ system.dispatched,
        retries system.tasks (.createAgentTask issue new) ≠ some pair.2 := by
      simp [retries]
    have after := based.tasksStep (based.queue.step (.statement index { outside with enqueued := true }) orderly.1)
      (present_statement { outside with enqueued := true } based.present) spared settled
    rw [← stepped] at after
    refine ⟨after.queue, after.present, after.tasks, ?_, ?_, ?_⟩
    · intro pair member
      rcases List.mem_append.mp member with before | added
      · exact after.known pair before
      · rw [List.mem_singleton.mp added, shape]
        exact newId.trans_lt (Nat.lt_succ_self _)
    · intro pair member other listed
      rcases List.mem_append.mp member with before | added
      · exact after.unretried pair before other listed
      · rw [List.mem_singleton.mp added]
        intro link
        rw [shape] at listed
        rcases List.mem_append.mp listed with old | fresh
        · obtain ⟨parent, parentListed, same, _⟩ := inTurn.tasks.parents other old task.id link
          have below := inTurn.tasks.fresh parent parentListed
          rw [same, newId] at below
          exact absurd below (Nat.lt_irrefl _)
        · rw [List.mem_singleton.mp fresh, row] at link
          exact absurd link (by simp [TaskQueue.Task.forIssue, TaskQueue.Task.blank])
    · intro pair member
      rcases List.mem_append.mp member with before | added
      · exact after.settled pair before
      · rw [List.mem_singleton.mp added]
        refine .inr (.inr ⟨index, issue, ?_⟩)
        have bound : index < system.queue.processes.length := (List.getElem?_eq_some_iff.mp caller).1
        simp only [step, caller, advance]
        exact List.getElem?_set_self bound
  · exact inTurn.statementStep orderly _

theorem enqueuing_some {index item issue : Id} (found : enqueuing system index = some (item, issue)) :
    system.queue.processes[index]? = some (.enqueueTask item issue) := by
  rw [enqueuing] at found
  split at found
  · rename_i listed
    rw [listed]
    simp only [Option.some.injEq, Prod.mk.injEq] at found
    rw [found.1, found.2]
  · contradiction

theorem handled (inTurn : InTurn system) {event : Event} (orderly : Orderly system event) :
    InTurn (handle system event) := by
  cases event with
  | elapse seconds =>
      have allowed : EditAllowed system.queue (.elapse seconds) := ⟨by simp, by simp⟩
      have edited := inTurn.edited rfl allowed
      exact edited.tasksStep edited.queue edited.present (by simp [retries]) edited.settled
  | statement index outside new =>
      simp only [handle]
      split
      · rename_i item issue found
        exact inTurn.enqueued orderly (enqueuing_some found)
      · exact inTurn.statementStep orderly outside
  | taskEvent task =>
      simp only [handle]
      split
      · exact inTurn
      · exact inTurn.edited rfl ⟨by simp, by simp⟩
  | tasks action => exact inTurn.tasksStep inTurn.queue inTurn.present orderly inTurn.settled
  | edit action =>
      simp only [handle]
      split
      · rename_i edit
        have plain : action.isStatement = false := by
          cases action with
          | statement index outside => exact absurd edit (by simp [isEdit])
          | _ => rfl
        refine inTurn.edited plain ⟨?_, ?_⟩
        · rintro index rfl
          exact orderly
        · rintro item rfl
          exact orderly
      · exact inTurn

theorem enqueuesInTurn (inTurn : InTurn system) (event : Event) : EnqueuesInTurn system event := by
  cases event with
  | statement index outside new =>
      intro item issue found other task dispatched _ row member descends
      have caller := enqueuing_some found
      have finished : Finished system.tasks task := by
        refine (inTurn.settled (other, task) dispatched).resolve_right ?_
        rintro (⟨holder, holderMember, _, running, _⟩ | ⟨position, otherIssue, marking⟩)
        · exact inTurn.queue.idle caller rfl holder holderMember running
        · have same := inTurn.queue.alone caller marking rfl rfl
          rw [same, marking] at caller
          exact absurd caller (by simp)
      exact finished row member (descends_unretried (inTurn.unretried (other, task) dispatched) descends)
  | _ => trivial

end InTurn

/-- In every orderly run a task is enqueued only when the retry chains of the tasks that were enqueued
for other items have ended. -/
theorem queue_sequential_through_retries (queue : Queue) (limits : Id → Nat) (events : List Event)
    (orderly : RunLib.Every handle Orderly (start queue limits) events) :
    RunLib.Every handle EnqueuesInTurn (start queue limits) events :=
  RunLib.every_of_allowed (start_inTurn queue limits) (fun _ _ inTurn orderly => inTurn.handled orderly)
    (fun _ event inTurn _ => inTurn.enqueuesInTurn event) orderly

/-! Two items whose first task completes, or times out and is retried. -/

def statements (process count : Nat) : List Event :=
  List.replicate count (.statement process answer TaskQueue.plainTask)

def firstTaskStarted : List Event :=
  [.edit (.createItem 1 .prompt none none), .edit (.createItem 2 .prompt none none), .edit (.start none)] ++
    statements 0 7 ++
    [.tasks (.beginClaimTask 1), .tasks (.finishClaimTask 1 []), .tasks (.startAgentTask 0)]

def eventHandled : List Event := .taskEvent 0 :: statements 1 7

def firstTaskCompleted : List Event :=
  firstTaskStarted ++ [.tasks (.completeAgentTask 0 TaskQueue.noReport)] ++ eventHandled

def firstTaskRetried : List Event :=
  firstTaskStarted ++
    [.tasks (.failTask 0 "timed out" .timeout TaskQueue.noReport TaskQueue.noOverlay)] ++ eventHandled

def secondEnqueue : Event := .statement 1 answer TaskQueue.plainTask

theorem queue_sequential_firstTaskCompleted :
    RunLib.Every handle EnqueuesInTurn (start plainQueue fun _ => 5) (firstTaskCompleted ++ [secondEnqueue]) :=
  queue_sequential_through_retries plainQueue (fun _ => 5) (firstTaskCompleted ++ [secondEnqueue])
    (by decide +kernel)

/-- The second item's task is enqueued while the retry of the first item's task is queued. -/
theorem queue_overtakes_retry :
    ¬RunLib.Every handle EnqueuesInTurn (start plainQueue fun _ => 5) (firstTaskRetried ++ [secondEnqueue]) := by
  intro every
  have inTurn := (RunLib.every_append.mp every).2.1
  let reached := RunLib.run handle (start plainQueue fun _ => 5) firstTaskRetried
  have retry : ∃ row ∈ reached.tasks.tasks, row.id = 1 ∧ row.retryOfTaskId = some 0 ∧
      row.status.terminal = false := by decide +kernel
  obtain ⟨row, member, own, link, live⟩ := retry
  have descends : Descends reached.tasks.tasks 0 row.id := .retry member link .root
  have ended := inTurn 1 1 (by decide +kernel) 0 0 (by decide +kernel) (by decide) row member descends
  rw [live] at ended
  contradiction

end MulticaOS.WorkQueue.Retrying
