import MulticaOS.Lib.Lists
import MulticaOS.Lib.Runs
import MulticaOS.Lib.Tables

/-!
One work queue of `work_queue.go` and the callers that race on it.  Each database
statement of `work_queue.sql` is one step, and so is the transaction of
`dispatchPrompt`; a caller keeps what it has read in its own `Process`.  Times are
in seconds.
-/

namespace MulticaOS.WorkQueue

abbrev Id := Nat

inductive QueueStatus where
  | idle
  | scheduled
  | running
  | paused
  deriving DecidableEq

inductive ItemStatus where
  | pending
  | running
  | completed
  | failed
  deriving DecidableEq

def ItemStatus.terminal (status : ItemStatus) : Prop := status = .completed ∨ status = .failed

instance (status : ItemStatus) : Decidable status.terminal :=
  inferInstanceAs (Decidable (_ ∨ _))

abbrev TerminalStatus := { status : ItemStatus // status.terminal }

def completedStatus : TerminalStatus := ⟨.completed, Or.inl rfl⟩
def failedStatus : TerminalStatus := ⟨.failed, Or.inr rfl⟩

inductive ItemKind where
  | prompt
  | issue
  deriving DecidableEq

inductive TaskStatus where
  | completed
  | failed
  | cancelled
  | timeout
  | active
  deriving DecidableEq

structure Queue where
  status : QueueStatus
  startAt : Option Nat
  itemDelaySeconds : Nat
  defaultAgentId : Option Id
  cronExpression : Option String
  nextRunAt : Option Nat
  runOnce : Bool
  deriving DecidableEq

structure Item where
  id : Id
  seq : Nat
  kind : ItemKind
  issueId : Option Id
  agentId : Option Id
  status : ItemStatus
  taskId : Option Id
  error : Option String
  finishedAt : Option Nat
  deriving DecidableEq

structure Issue where
  id : Id
  assignedAgent : Option Id
  originItem : Option Id
  deriving DecidableEq

inductive Process where
  | listRunnable (now : Nat)
  | markScheduledStarted (queue : Queue) (now : Nat)
  | markCronFired (queue : Queue) (now next : Nat)
  | setStarted (startAt : Option Nat)
  | setPaused
  | setResumed
  | getItemByTask (task : Id) (status : TaskStatus)
  | markTerminal (item : Id) (status : TerminalStatus) (error : Option String)
  | getQueue
  | getRunning (queue : Queue) (now : Nat)
  | lastFinished (queue : Queue) (now : Nat)
  | nextPending (queue : Queue)
  | setIdle (queue : Queue)
  | setCron (cronExpression : Option String) (nextRunAt : Option Nat)
  | findOrCreateIssue (item agent : Id)
  | getIssue (item : Id) (issue : Option Id) (agent : Id)
  | updateIssue (item issue agent : Id)
  | enqueueTask (item issue : Id)
  | markRunning (item task issue : Id)
  | failRunning (item : Id) (reason : String)
  | failTerminal (item : Id) (reason : String)
  | returned

structure State where
  now : Nat
  queue : Queue
  items : List Item
  issues : List Issue
  nextItem : Nat
  nextIssue : Nat
  nextTask : Nat
  processes : List Process

/-- What the code outside this file answers: the next cron occurrence, if the expression
has one, and whether `EnqueueTaskForIssue` succeeds. -/
structure Outside where
  nextOccurrence : Option Nat
  enqueued : Bool

def isDue (due : Option Nat) (now : Nat) : Bool :=
  match due with
  | none => false
  | some time => time ≤ now

def listRunnableWorkQueues (state : State) : Option Queue :=
  let queue := state.queue
  let due := queue.status = .running ∨
    (queue.status = .scheduled ∧ isDue queue.startAt state.now) ∨
    (queue.status = .idle ∧ queue.cronExpression.isSome ∧ isDue queue.nextRunAt state.now ∧
      state.items.any fun item => item.status = .pending)
  if due then some queue else none

def setWorkQueueStatus (state : State) (status : QueueStatus) (startAt : Option Nat) : State :=
  { state with queue := { state.queue with status := status, startAt := startAt } }

def updateCron (state : State) (cronExpression : Option String) (nextRunAt : Option Nat) : State :=
  { state with queue := { state.queue with cronExpression := cronExpression, nextRunAt := nextRunAt } }

def getRunningWorkQueueItem (state : State) : Option Item :=
  state.items.find? fun item => item.status = .running

def nextPendingWorkQueueItem (state : State) : Option Item :=
  TableLib.first (fun left right => left.seq < right.seq)
    (state.items.filter fun item => item.status = .pending)

def lastFinishedWorkQueueItem (state : State) : Option Item :=
  TableLib.first (fun left right => right.finishedAt.getD 0 < left.finishedAt.getD 0)
    (state.items.filter fun item => item.finishedAt.isSome)

def getWorkQueueItemByTaskID (state : State) (task : Id) : Option Item :=
  state.items.find? fun item => item.taskId = some task

def hasItem (state : State) (id : Id) (matching : Item → Bool) : Bool :=
  state.items.any fun item => item.id = id && matching item

def updateItems (state : State) (matching : Item → Bool) (change : Item → Item) : State :=
  { state with items := TableLib.updateWhere matching change state.items }

def markWorkQueueItemRunning (state : State) (id : Id) (task issue : Option Id) : State :=
  updateItems state (fun item => item.id = id) fun item =>
    { item with status := .running, taskId := task, issueId := issue.or item.issueId }

def markWorkQueueItemTerminal (state : State) (id : Id) (status : TerminalStatus)
    (error : Option String) : State :=
  updateItems state (fun item => item.id = id && item.status = .running) fun item =>
    { item with status := status, error := error, finishedAt := some state.now }

def retryWorkQueueItem (state : State) (id : Id) : State :=
  updateItems state (fun item => item.id = id && item.status = .failed) fun item =>
    { item with status := .pending, error := none, taskId := none, finishedAt := none }

def dispatchNext (queue : Queue) (now : Nat) : Process :=
  if queue.status = .running then .getRunning queue now else .returned

def tickQueue (queue : Queue) (now : Nat) (outside : Outside) : Process :=
  if queue.status = .scheduled ∧ isDue queue.startAt now then .markScheduledStarted queue now
  else if queue.status = .idle ∧ queue.cronExpression.isSome then
    match outside.nextOccurrence with
    | none => .returned
    | some next => .markCronFired queue now next
  else dispatchNext queue now

def stillDelayed (queue : Queue) (last : Option Item) (now : Nat) : Bool :=
  match last.bind Item.finishedAt with
  | none => false
  | some finished => now < finished + queue.itemDelaySeconds

def startsLater (startAt : Option Nat) (now : Nat) : Bool :=
  match startAt with
  | none => false
  | some time => now < time

def noAgentConfigured : String := "no agent configured"
def issueNoLongerExists : String := "issue no longer exists"

def dispatchItem (queue : Queue) (item : Item) : Process :=
  match item.agentId.or queue.defaultAgentId with
  | none => .failRunning item.id noAgentConfigured
  | some agent =>
      match item.kind with
      | .prompt => .findOrCreateIssue item.id agent
      | .issue => .getIssue item.id item.issueId agent

def drainedCron (queue : Queue) (outside : Outside) : Process :=
  match queue.cronExpression with
  | none => .returned
  | some expression =>
      if expression = "" then .returned
      else if queue.runOnce then .setCron none none
      else
        match outside.nextOccurrence with
        | none => .returned
        | some next => .setCron (some expression) (some next)

def syncItem (item : Item) : TaskStatus → Process
  | .completed => .markTerminal item.id completedStatus none
  | .failed => .markTerminal item.id failedStatus (some "failed")
  | .cancelled => .markTerminal item.id failedStatus (some "cancelled")
  | .timeout => .markTerminal item.id failedStatus (some "timeout")
  | .active => .returned

def advance (state : State) (outside : Outside) : Process → State × Process
  | .listRunnable now =>
      match listRunnableWorkQueues state with
      | none => (state, .returned)
      | some queue => (state, tickQueue queue now outside)
  | .markScheduledStarted queue now =>
      if state.queue.status = .scheduled then
        (setWorkQueueStatus state .running none,
          dispatchNext { queue with status := .running, startAt := none } now)
      else (state, .returned)
  | .markCronFired queue now next =>
      if state.queue.status = .idle then
        ({ state with queue := { state.queue with status := .running, nextRunAt := some next } },
          dispatchNext { queue with status := .running, nextRunAt := some next } now)
      else (state, .returned)
  | .setStarted startAt =>
      if startsLater startAt state.now then (setWorkQueueStatus state .scheduled startAt, .returned)
      else
        let started := setWorkQueueStatus state .running none
        (started, dispatchNext started.queue state.now)
  | .setPaused => (setWorkQueueStatus state .paused none, .returned)
  | .setResumed =>
      let resumed := setWorkQueueStatus state .running none
      (resumed, dispatchNext resumed.queue state.now)
  | .getItemByTask task status =>
      match getWorkQueueItemByTaskID state task with
      | none => (state, .returned)
      | some item => (state, syncItem item status)
  | .markTerminal item status error =>
      (markWorkQueueItemTerminal state item status error,
        if hasItem state item fun row => row.status = .running then .getQueue else .returned)
  | .getQueue =>
      (state, if state.queue.itemDelaySeconds = 0 then dispatchNext state.queue state.now
        else .returned)
  | .getRunning queue now =>
      match getRunningWorkQueueItem state with
      | some _ => (state, .returned)
      | none => (state, .lastFinished queue now)
  | .lastFinished queue now =>
      (state,
        if stillDelayed queue (lastFinishedWorkQueueItem state) now ∨ startsLater queue.startAt now then
          .returned
        else .nextPending queue)
  | .nextPending queue =>
      match nextPendingWorkQueueItem state with
      | none => (state, .setIdle queue)
      | some item => (state, dispatchItem queue item)
  | .setIdle queue => (setWorkQueueStatus state .idle none, drainedCron queue outside)
  | .setCron expression nextRunAt => (updateCron state expression nextRunAt, .returned)
  | .findOrCreateIssue item agent =>
      match state.issues.find? fun issue => issue.originItem = some item with
      | some issue => (state, .enqueueTask item issue.id)
      | none =>
          let issue : Issue := ⟨state.nextIssue, some agent, some item⟩
          ({ state with issues := state.issues ++ [issue], nextIssue := state.nextIssue + 1 },
            .enqueueTask item issue.id)
  | .getIssue item issue agent =>
      match state.issues.find? fun row => some row.id = issue with
      | none => (state, .failRunning item issueNoLongerExists)
      | some row =>
          (state, if row.assignedAgent = some agent then .enqueueTask item row.id
            else .updateIssue item row.id agent)
  | .updateIssue item issue agent =>
      let assigned := TableLib.updateWhere (fun row : Issue => row.id = issue)
        (fun row => { row with assignedAgent := some agent }) state.issues
      ({ state with issues := assigned },
        if state.issues.any fun row => row.id = issue then .enqueueTask item issue else .returned)
  | .enqueueTask item issue =>
      if outside.enqueued then
        ({ state with nextTask := state.nextTask + 1 }, .markRunning item state.nextTask issue)
      else (state, .returned)
  | .markRunning item task issue =>
      (markWorkQueueItemRunning state item (some task) (some issue), .returned)
  | .failRunning item reason =>
      (markWorkQueueItemRunning state item none none,
        if hasItem state item fun _ => true then .failTerminal item reason else .returned)
  | .failTerminal item reason =>
      (markWorkQueueItemTerminal state item failedStatus (some reason), .returned)
  | .returned => (state, .returned)

/-- A call of the service, a step of a running caller, or an edit of the queue by a user.
`fault` ends a caller as a crash or a failed statement does. -/
inductive Action where
  | elapse (seconds : Nat)
  | tickAll
  | start (startAt : Option Nat)
  | pause
  | resume
  | syncItemFromTask (task : Id) (status : TaskStatus)
  | statement (process : Nat) (outside : Outside)
  | fault (process : Nat)
  | createItem (seq : Nat) (kind : ItemKind) (issue agent : Option Id)
  | updateItem (item : Id) (agent : Option Id)
  | reorderItem (item : Id) (seq : Nat)
  | retryItem (item : Id)
  | deleteItem (item : Id)
  | deleteFinishedItems
  | createIssue (agent : Option Id)
  | deleteIssue (issue : Id)
  | deleteAgent (agent : Id)
  | updateQueue (queue : Queue)

def call (state : State) (process : Process) : State :=
  { state with processes := state.processes ++ [process] }

def clear (gone : Id) (reference : Option Id) : Option Id :=
  if reference = some gone then none else reference

def step (state : State) : Action → State
  | .elapse seconds => { state with now := state.now + seconds }
  | .tickAll => call state (.listRunnable state.now)
  | .start startAt => call state (.setStarted startAt)
  | .pause =>
      if state.queue.status = .running ∨ state.queue.status = .scheduled then call state .setPaused
      else state
  | .resume => if state.queue.status = .paused then call state .setResumed else state
  | .syncItemFromTask task status => call state (.getItemByTask task status)
  | .statement index outside =>
      match state.processes[index]? with
      | none => state
      | some process =>
          let after := advance state outside process
          { after.1 with processes := state.processes.set index after.2 }
  | .fault index => { state with processes := state.processes.set index .returned }
  | .createItem seq kind issue agent =>
      let item : Item := ⟨state.nextItem, seq, kind, issue, agent, .pending, none, none, none⟩
      { state with items := state.items ++ [item], nextItem := state.nextItem + 1 }
  | .updateItem id agent =>
      updateItems state (fun item => item.id = id && item.status = .pending)
        fun item => { item with agentId := agent }
  | .reorderItem id seq =>
      updateItems state (fun item => item.id = id) fun item => { item with seq := seq }
  | .retryItem id => retryWorkQueueItem state id
  | .deleteItem id =>
      { state with items := state.items.filter fun item =>
          !(item.id = id && item.status ≠ .running) }
  | .deleteFinishedItems =>
      { state with items := state.items.filter fun item =>
          !(item.status = .completed || item.status = .failed) }
  | .createIssue agent =>
      { state with
        issues := state.issues ++ [⟨state.nextIssue, agent, none⟩]
        nextIssue := state.nextIssue + 1 }
  | .deleteIssue id =>
      updateItems { state with issues := state.issues.filter fun issue => issue.id ≠ id }
        (fun _ => true) fun item => { item with issueId := clear id item.issueId }
  | .deleteAgent id =>
      let queue := { state.queue with defaultAgentId := clear id state.queue.defaultAgentId }
      updateItems { state with queue := queue } (fun _ => true)
        fun item => { item with agentId := clear id item.agentId }
  | .updateQueue queue =>
      let edited := { queue with status := state.queue.status, startAt := state.queue.startAt }
      { state with queue := edited }

def initial (queue : Queue) : State :=
  ⟨0, queue, [], [], 0, 0, 0, []⟩

/-! The item that a caller is about to mark running, and the callers that may come to it. -/

def Process.held : Process → Option Id
  | .findOrCreateIssue item _ => some item
  | .getIssue item _ _ => some item
  | .updateIssue item _ _ => some item
  | .enqueueTask item _ => some item
  | .markRunning item _ _ => some item
  | .failRunning item _ => some item
  | _ => none

/-- Between a `GetRunningWorkQueueItem` that found nothing and `MarkWorkQueueItemRunning`. -/
def Process.dispatching : Process → Bool
  | .lastFinished _ _ => true
  | .nextPending _ => true
  | process => process.held.isSome

def Process.marks : Process → Option Id
  | .markRunning item _ _ => some item
  | .failRunning item _ => some item
  | _ => none

def Process.checksRunning : Process → Bool
  | .getRunning _ _ => true
  | _ => false

theorem held_of_marks {process : Process} {id : Id} (marked : process.marks = some id) :
    process.held = some id := by
  cases process <;> simp_all [Process.marks, Process.held]

theorem dispatching_of_held {process : Process} {id : Id} (holds : process.held = some id) :
    process.dispatching = true := by
  cases process <;> simp_all [Process.dispatching, Process.held]

@[simp] theorem dispatching_dispatchNext (queue : Queue) (now : Nat) :
    (dispatchNext queue now).dispatching = false := by
  rw [dispatchNext]
  split <;> rfl

@[simp] theorem dispatching_tickQueue (queue : Queue) (now : Nat) (outside : Outside) :
    (tickQueue queue now outside).dispatching = false := by
  rw [tickQueue]
  split
  · rfl
  · split
    · split <;> rfl
    · exact dispatching_dispatchNext queue now

@[simp] theorem dispatching_drainedCron (queue : Queue) (outside : Outside) :
    (drainedCron queue outside).dispatching = false := by
  rw [drainedCron]
  repeat' split
  all_goals rfl

@[simp] theorem dispatching_syncItem (item : Item) (status : TaskStatus) :
    (syncItem item status).dispatching = false := by
  cases status <;> rfl

theorem held_dispatchItem (queue : Queue) (item : Item) :
    (dispatchItem queue item).held = some item.id := by
  rw [dispatchItem]
  split
  · rfl
  · split <;> rfl

structure Advanced (state : State) (process : Process) (next : State) (after : Process) : Prop where
  nextItem : next.nextItem = state.nextItem
  ids : next.items.map Item.id = state.items.map Item.id
  rows : ∀ item ∈ next.items, ∃ old ∈ state.items, old.id = item.id ∧
    (item.status = old.status ∨ (old.status = .running ∧ item.status.terminal) ∨
      (process.marks = some item.id ∧ item.status = .running))
  enters : after.dispatching = true → process.dispatching = true ∨
    (process.checksRunning = true ∧ ∀ item ∈ state.items, item.status ≠ .running)
  leaves : process.marks.isSome = true → after.dispatching = false
  takes : ∀ id, after.held = some id → process.held = some id ∨
    ∃ item ∈ state.items, item.id = id ∧ item.status = .pending

theorem updateItems_ids {state : State} {matching : Item → Bool} {change : Item → Item}
    (keeps : ∀ item, (change item).id = item.id) :
    (updateItems state matching change).items.map Item.id = state.items.map Item.id :=
  TableLib.map_updateWhere keeps state.items

section Advancing

variable {state next : State} {process after : Process}

theorem Advanced.quiet (nextItem : next.nextItem = state.nextItem) (items : next.items = state.items)
    (outside : after.dispatching = false) : Advanced state process next after := by
  refine ⟨nextItem, by rw [items], ?_, ?_, fun _ => outside, ?_⟩
  · intro item member
    exact ⟨item, items ▸ member, rfl, Or.inl rfl⟩
  · intro dispatching
    rw [outside] at dispatching
    contradiction
  · intro id holds
    rw [dispatching_of_held holds] at outside
    contradiction

theorem Advanced.holding {id : Id} (nextItem : next.nextItem = state.nextItem)
    (items : next.items = state.items) (unmarked : process.marks = none)
    (before : process.held = some id) (later : after.held = some id) :
    Advanced state process next after := by
  refine ⟨nextItem, by rw [items], ?_, ?_, ?_, ?_⟩
  · intro item member
    exact ⟨item, items ▸ member, rfl, Or.inl rfl⟩
  · exact fun _ => Or.inl (dispatching_of_held before)
  · intro marked
    rw [unmarked] at marked
    contradiction
  · intro other holds
    rw [later] at holds
    exact Or.inl (before.trans holds)

theorem Advanced.marking {id : Id} {task issue : Option Id} (marked : process.marks = some id)
    (outside : after.dispatching = false) :
    Advanced state process (markWorkQueueItemRunning state id task issue) after := by
  refine ⟨rfl, updateItems_ids (fun _ => rfl), ?_, ?_, fun _ => outside, ?_⟩
  · intro item member
    rcases TableLib.mem_updateWhere member with ⟨listed, -⟩ | ⟨old, listed, matched, rfl⟩
    · exact ⟨item, listed, rfl, Or.inl rfl⟩
    · have same : old.id = id := by simpa using matched
      exact ⟨old, listed, rfl, Or.inr (Or.inr ⟨by rw [marked, same], rfl⟩)⟩
  · intro dispatching
    rw [outside] at dispatching
    contradiction
  · intro other holds
    rw [dispatching_of_held holds] at outside
    contradiction

theorem Advanced.ending {id : Id} {status : TerminalStatus} {error : Option String}
    (outside : after.dispatching = false) :
    Advanced state process (markWorkQueueItemTerminal state id status error) after := by
  refine ⟨rfl, updateItems_ids (fun _ => rfl), ?_, ?_, fun _ => outside, ?_⟩
  · intro item member
    rcases TableLib.mem_updateWhere member with ⟨listed, -⟩ | ⟨old, listed, matched, rfl⟩
    · exact ⟨item, listed, rfl, Or.inl rfl⟩
    · have running : old.id = id ∧ old.status = .running := by simpa using matched
      exact ⟨old, listed, rfl, Or.inr (Or.inl ⟨running.2, status.2⟩)⟩
  · intro dispatching
    rw [outside] at dispatching
    contradiction
  · intro other holds
    rw [dispatching_of_held holds] at outside
    contradiction

end Advancing

theorem getRunning_advanced (state : State) (outside : Outside) (queue : Queue) (now : Nat) :
    Advanced state (.getRunning queue now) (advance state outside (.getRunning queue now)).1
      (advance state outside (.getRunning queue now)).2 := by
  simp only [advance]
  split
  · exact .quiet rfl rfl rfl
  · rename_i none
    have absent : ∀ item ∈ state.items, item.status ≠ .running := by
      simpa [getRunningWorkQueueItem] using none
    refine ⟨rfl, rfl, fun item member => ⟨item, member, rfl, Or.inl rfl⟩, ?_, ?_, ?_⟩
    · exact fun _ => Or.inr ⟨rfl, absent⟩
    · simp [Process.marks]
    · simp [Process.held]

theorem nextPending_advanced (state : State) (outside : Outside) (queue : Queue) :
    Advanced state (.nextPending queue) (advance state outside (.nextPending queue)).1
      (advance state outside (.nextPending queue)).2 := by
  simp only [advance]
  split
  · exact .quiet rfl rfl rfl
  · rename_i item found
    refine ⟨rfl, rfl, fun row member => ⟨row, member, rfl, Or.inl rfl⟩, ?_, ?_, ?_⟩
    · exact fun _ => Or.inl rfl
    · simp [Process.marks]
    · intro id holds
      rw [held_dispatchItem, Option.some.injEq] at holds
      have pending := TableLib.first_mem found
      rw [List.mem_filter] at pending
      exact Or.inr ⟨item, pending.1, holds, by simpa using pending.2⟩

theorem advance_advanced (state : State) (outside : Outside) (process : Process) :
    Advanced state process (advance state outside process).1 (advance state outside process).2 := by
  cases process with
  | listRunnable now =>
      simp only [advance]
      split
      · exact .quiet rfl rfl rfl
      · exact .quiet rfl rfl (by simp)
  | markScheduledStarted queue now =>
      simp only [advance]
      split
      · exact .quiet rfl rfl (by simp)
      · exact .quiet rfl rfl rfl
  | markCronFired queue now next =>
      simp only [advance]
      split
      · exact .quiet rfl rfl (by simp)
      · exact .quiet rfl rfl rfl
  | setStarted startAt =>
      simp only [advance]
      split
      · exact .quiet rfl rfl rfl
      · exact .quiet rfl rfl (by simp)
  | setPaused => exact .quiet rfl rfl rfl
  | setResumed => exact .quiet rfl rfl (by simp [advance])
  | getItemByTask task status =>
      simp only [advance]
      split
      · exact .quiet rfl rfl rfl
      · exact .quiet rfl rfl (by simp)
  | markTerminal item status error =>
      refine .ending ?_
      simp only [advance]
      split <;> rfl
  | getQueue =>
      refine .quiet rfl rfl ?_
      simp only [advance]
      split
      · exact dispatching_dispatchNext state.queue state.now
      · rfl
  | getRunning queue now => exact getRunning_advanced state outside queue now
  | lastFinished queue now =>
      simp only [advance]
      split
      · exact .quiet rfl rfl rfl
      · refine ⟨rfl, rfl, fun item member => ⟨item, member, rfl, Or.inl rfl⟩, ?_, ?_, ?_⟩
        · exact fun _ => Or.inl rfl
        · simp [Process.marks]
        · simp [Process.held]
  | nextPending queue => exact nextPending_advanced state outside queue
  | setIdle queue => exact .quiet rfl rfl (by simp [advance])
  | setCron expression nextRunAt => exact .quiet rfl rfl rfl
  | findOrCreateIssue item agent =>
      simp only [advance]
      split
      · exact .holding rfl rfl rfl rfl rfl
      · exact .holding rfl rfl rfl rfl rfl
  | getIssue item issue agent =>
      simp only [advance]
      split
      · exact .holding rfl rfl rfl rfl rfl
      · split
        · exact .holding rfl rfl rfl rfl rfl
        · exact .holding rfl rfl rfl rfl rfl
  | updateIssue item issue agent =>
      simp only [advance]
      split
      · exact .holding rfl rfl rfl rfl rfl
      · exact .quiet rfl rfl rfl
  | enqueueTask item issue =>
      simp only [advance]
      split
      · exact .holding rfl rfl rfl rfl rfl
      · exact .quiet rfl rfl rfl
  | markRunning item task issue => exact .marking rfl rfl
  | failRunning item reason =>
      refine .marking rfl ?_
      simp only [advance]
      split <;> rfl
  | failTerminal item reason => exact .ending rfl
  | returned => exact .quiet rfl rfl rfl

def Exclusive (state : State) : Action → Prop
  | .statement index _ =>
      (state.processes[index]?).any Process.checksRunning = true →
        ∀ other ∈ state.processes, other.dispatching = false
  | _ => True

structure Invariant (state : State) : Prop where
  unique : (state.items.map Item.id).Nodup
  fresh : ∀ item ∈ state.items, item.id < state.nextItem
  alone : ∀ {first second : Nat} {left right : Process}, state.processes[first]? = some left →
    state.processes[second]? = some right → left.dispatching = true → right.dispatching = true →
    first = second
  idle : ∀ {index : Nat} {process : Process}, state.processes[index]? = some process →
    process.dispatching = true → ∀ item ∈ state.items, item.status ≠ .running
  pending : ∀ {index : Nat} {process : Process} {id : Id}, state.processes[index]? = some process →
    process.held = some id → ∀ item ∈ state.items, item.id = id → item.status = .pending
  single : ∀ left ∈ state.items, ∀ right ∈ state.items, left.status = .running →
    right.status = .running → left.id = right.id

theorem initial_invariant (queue : Queue) : Invariant (initial queue) := by
  constructor <;> simp [initial]

section Statements

variable {state next : State} {index : Nat} {process after : Process}

theorem Invariant.pending_of_id (invariant : Invariant state) {left right : Item}
    (leftMember : left ∈ state.items) (rightMember : right ∈ state.items) (same : left.id = right.id)
    (pending : right.status = .pending) : left.status = .pending := by
  rw [List.inj_on_of_nodup_map invariant.unique leftMember rightMember same]
  exact pending

theorem dispatching_of_marks {id : Id} (marked : process.marks = some id) :
    process.dispatching = true :=
  dispatching_of_held (held_of_marks marked)

theorem Invariant.excluded (invariant : Invariant state)
    (found : state.processes[index]? = some process) (advanced : Advanced state process next after)
    (exclusive : process.checksRunning = true → ∀ other ∈ state.processes, other.dispatching = false)
    (dispatching : after.dispatching = true) {position : Nat} {other : Process}
    (different : position ≠ index) (listed : state.processes[position]? = some other) :
    other.dispatching = false := by
  rcases advanced.enters dispatching with before | ⟨checks, -⟩
  · by_contra busy
    exact different (invariant.alone listed found (by simpa using busy) before)
  · exact exclusive checks other (List.mem_of_getElem? listed)

theorem Invariant.advanced_idle (invariant : Invariant state)
    (found : state.processes[index]? = some process) (advanced : Advanced state process next after)
    {position : Nat} {other : Process}
    (listed : (state.processes.set index after)[position]? = some other)
    (busy : other.dispatching = true) : ∀ item ∈ next.items, item.status ≠ .running := by
  intro item member running
  obtain ⟨old, inTable, -, kept | ⟨-, ended⟩ | ⟨marked, -⟩⟩ := advanced.rows item member
  · rw [running] at kept
    rcases ListLib.getElem?_set_some listed with ⟨rfl, rfl⟩ | ⟨-, oldProcess⟩
    · rcases advanced.enters busy with before | ⟨-, absent⟩
      · exact invariant.idle found before old inTable kept.symm
      · exact absent old inTable kept.symm
    · exact invariant.idle oldProcess busy old inTable kept.symm
  · rw [running] at ended
    exact absurd ended (by decide)
  · rcases ListLib.getElem?_set_some listed with ⟨rfl, rfl⟩ | ⟨different, oldProcess⟩
    · rw [advanced.leaves (by rw [marked]; rfl)] at busy
      contradiction
    · exact different (invariant.alone oldProcess found busy (dispatching_of_marks marked))

theorem Invariant.advanced_held (invariant : Invariant state)
    (found : state.processes[index]? = some process) (advanced : Advanced state process next after)
    {position : Nat} {other : Process} {id : Id}
    (listed : (state.processes.set index after)[position]? = some other)
    (holds : other.held = some id) {old : Item} (inTable : old ∈ state.items) (atId : old.id = id) :
    old.status = .pending := by
  rcases ListLib.getElem?_set_some listed with ⟨rfl, rfl⟩ | ⟨-, oldProcess⟩
  · rcases advanced.takes id holds with before | ⟨row, rowListed, rowId, pending⟩
    · exact invariant.pending found before old inTable atId
    · exact invariant.pending_of_id inTable rowListed (atId.trans rowId.symm) pending
  · exact invariant.pending oldProcess holds old inTable atId

theorem Invariant.advanced_pending (invariant : Invariant state)
    (found : state.processes[index]? = some process) (advanced : Advanced state process next after)
    {position : Nat} {other : Process} {id : Id}
    (listed : (state.processes.set index after)[position]? = some other)
    (holds : other.held = some id) :
    ∀ item ∈ next.items, item.id = id → item.status = .pending := by
  intro item member atId
  obtain ⟨old, inTable, same, change⟩ := advanced.rows item member
  have before := invariant.advanced_held found advanced listed holds inTable (same.trans atId)
  rcases change with kept | ⟨wasRunning, -⟩ | ⟨-, running⟩
  · rw [kept, before]
  · rw [before] at wasRunning
    contradiction
  · exact absurd running
      (invariant.advanced_idle found advanced listed (dispatching_of_held holds) item member)

theorem Invariant.advanced_single (invariant : Invariant state)
    (found : state.processes[index]? = some process) (advanced : Advanced state process next after) :
    ∀ left ∈ next.items, ∀ right ∈ next.items, left.status = .running → right.status = .running →
      left.id = right.id := by
  have origin : ∀ item ∈ next.items, item.status = .running →
      (∃ old ∈ state.items, old.id = item.id ∧ old.status = .running) ∨
        process.marks = some item.id := by
    intro item member running
    obtain ⟨old, inTable, same, kept | ⟨-, ended⟩ | ⟨marked, -⟩⟩ := advanced.rows item member
    · exact Or.inl ⟨old, inTable, same, by rw [← kept, running]⟩
    · rw [running] at ended
      exact absurd ended (by decide)
    · exact Or.inr marked
  intro left leftMember right rightMember leftRunning rightRunning
  rcases origin left leftMember leftRunning with ⟨oldLeft, leftListed, leftId, wasLeft⟩ | leftMarked
  · rcases origin right rightMember rightRunning with
      ⟨oldRight, rightListed, rightId, wasRight⟩ | rightMarked
    · rw [← leftId, ← rightId]
      exact invariant.single oldLeft leftListed oldRight rightListed wasLeft wasRight
    · have busy := dispatching_of_marks rightMarked
      exact absurd wasLeft (invariant.idle found busy oldLeft leftListed)
  · rcases origin right rightMember rightRunning with
      ⟨oldRight, rightListed, rightId, wasRight⟩ | rightMarked
    · have busy := dispatching_of_marks leftMarked
      exact absurd wasRight (invariant.idle found busy oldRight rightListed)
    · exact Option.some.inj (leftMarked.symm.trans rightMarked)

theorem Invariant.advanced (invariant : Invariant state)
    (found : state.processes[index]? = some process) (advanced : Advanced state process next after)
    (exclusive : process.checksRunning = true → ∀ other ∈ state.processes, other.dispatching = false) :
    Invariant { next with processes := state.processes.set index after } := by
  constructor
  · rw [advanced.ids]
    exact invariant.unique
  · intro item member
    obtain ⟨old, listed, same, -⟩ := advanced.rows item member
    rw [← same, advanced.nextItem]
    exact invariant.fresh old listed
  · intro first second left right leftListed rightListed leftBusy rightBusy
    rcases ListLib.getElem?_set_some leftListed with ⟨rfl, rfl⟩ | ⟨leftOther, leftOld⟩
    · rcases ListLib.getElem?_set_some rightListed with ⟨rfl, rfl⟩ | ⟨rightOther, rightOld⟩
      · rfl
      · rw [invariant.excluded found advanced exclusive leftBusy rightOther rightOld] at rightBusy
        contradiction
    · rcases ListLib.getElem?_set_some rightListed with ⟨rfl, rfl⟩ | ⟨rightOther, rightOld⟩
      · rw [invariant.excluded found advanced exclusive rightBusy leftOther leftOld] at leftBusy
        contradiction
      · exact invariant.alone leftOld rightOld leftBusy rightBusy
  · intro position other listed busy
    have idle := invariant.advanced_idle found advanced listed busy
    exact idle
  · intro position other id listed holds
    have pending := invariant.advanced_pending found advanced listed holds
    exact pending
  · have single := invariant.advanced_single found advanced
    exact single

end Statements

structure Edited (state : State) (action : Action) (next : State) : Prop where
  unique : (state.items.map Item.id).Nodup → (∀ item ∈ state.items, item.id < state.nextItem) →
    (next.items.map Item.id).Nodup
  nextItem : state.nextItem ≤ next.nextItem
  rows : ∀ item ∈ next.items,
    (item.status = .pending ∧ item.id = state.nextItem ∧ item.id < next.nextItem) ∨
      ∃ old ∈ state.items, old.id = item.id ∧
        (item.status = old.status ∨ (action = .retryItem item.id ∧ item.status = .pending))
  callers : ∀ (index : Nat) (process : Process), next.processes[index]? = some process →
    process.dispatching = true →
    state.processes[index]? = some process

section Edits

variable {state next : State} {action : Action}

theorem Edited.called {process : Process} (outside : process.dispatching = false) :
    Edited state action (call state process) := by
  refine ⟨fun unique _ => unique, Nat.le_refl _, fun item member => ?_,
    fun index other found busy => ?_⟩
  · exact Or.inr ⟨item, member, rfl, Or.inl rfl⟩
  · rcases ListLib.getElem?_append_some found with listed | rfl
    · exact listed
    · rw [outside] at busy
      contradiction

theorem Edited.same (items : next.items = state.items) (nextItem : next.nextItem = state.nextItem)
    (processes : next.processes = state.processes) : Edited state action next := by
  refine ⟨fun unique _ => items ▸ unique, Nat.le_of_eq nextItem.symm, fun item member => ?_, ?_⟩
  · exact Or.inr ⟨item, items ▸ member, rfl, Or.inl rfl⟩
  · intro index other found _
    exact processes ▸ found

theorem Edited.kept {keeps : Item → Bool} (items : next.items = state.items.filter keeps)
    (nextItem : next.nextItem = state.nextItem) (processes : next.processes = state.processes) :
    Edited state action next := by
  refine ⟨fun unique _ => ?_, Nat.le_of_eq nextItem.symm, fun item member => ?_, ?_⟩
  · rw [items]
    exact unique.sublist ((List.filter_sublist).map Item.id)
  · rw [items, List.mem_filter] at member
    exact Or.inr ⟨item, member.1, rfl, Or.inl rfl⟩
  · intro index other found _
    exact processes ▸ found

theorem Edited.updated {start : State} {matching : Item → Bool} {change : Item → Item}
    (items : start.items = state.items) (nextItem : start.nextItem = state.nextItem)
    (processes : start.processes = state.processes) (ids : ∀ item, (change item).id = item.id)
    (statuses : ∀ item, matching item = true → (change item).status = item.status ∨
      (action = .retryItem item.id ∧ (change item).status = .pending)) :
    Edited state action (updateItems start matching change) := by
  refine ⟨fun unique _ => ?_, Nat.le_of_eq nextItem.symm, fun item member => ?_, ?_⟩
  · rw [updateItems_ids ids, items]
    exact unique
  · rcases TableLib.mem_updateWhere member with ⟨listed, -⟩ | ⟨old, listed, matched, rfl⟩
    · exact Or.inr ⟨item, items ▸ listed, rfl, Or.inl rfl⟩
    · refine Or.inr ⟨old, items ▸ listed, (ids old).symm, ?_⟩
      rw [ids old]
      exact statuses old matched
  · intro index other found _
    exact processes ▸ found

theorem Edited.created (item : Item) (pending : item.status = .pending)
    (fresh : item.id = state.nextItem) :
    Edited state action
      { state with items := state.items ++ [item], nextItem := state.nextItem + 1 } := by
  refine ⟨fun unique bounded => ?_, Nat.le_succ _, fun row member => ?_,
    fun index other found _ => found⟩
  · rw [List.map_append, List.nodup_append]
    refine ⟨unique, by simp, ?_⟩
    intro id inTable other single same
    obtain ⟨row, listed, rfl⟩ := List.mem_map.mp inTable
    have below := bounded row listed
    simp only [List.map_cons, List.map_nil, List.mem_singleton] at single
    rw [same, single, fresh] at below
    exact Nat.lt_irrefl _ below
  · rcases List.mem_append.mp member with listed | single
    · exact Or.inr ⟨row, listed, rfl, Or.inl rfl⟩
    · rw [List.mem_singleton] at single
      subst single
      exact Or.inl ⟨pending, fresh, by rw [fresh]; exact Nat.lt_succ_self _⟩

theorem Invariant.edited (invariant : Invariant state) (edited : Edited state action next) :
    Invariant next := by
  have running : ∀ item ∈ next.items, item.status = .running →
      ∃ old ∈ state.items, old.id = item.id ∧ old.status = .running := by
    intro item member running
    obtain ⟨pending, -⟩ | ⟨old, listed, same, kept | ⟨-, pending⟩⟩ := edited.rows item member
    · rw [running] at pending
      contradiction
    · exact ⟨old, listed, same, by rw [← kept, running]⟩
    · rw [running] at pending
      contradiction
  refine ⟨edited.unique invariant.unique invariant.fresh, ?_, ?_, ?_, ?_, ?_⟩
  · intro item member
    obtain ⟨-, -, below⟩ | ⟨old, listed, same, -⟩ := edited.rows item member
    · exact below
    · rw [← same]
      exact Nat.lt_of_lt_of_le (invariant.fresh old listed) edited.nextItem
  · intro first second left right leftListed rightListed leftBusy rightBusy
    have leftOld := edited.callers first left leftListed leftBusy
    have rightOld := edited.callers second right rightListed rightBusy
    exact invariant.alone leftOld rightOld leftBusy rightBusy
  · intro index process listed busy item member isRunning
    obtain ⟨old, inTable, -, wasRunning⟩ := running item member isRunning
    exact invariant.idle (edited.callers index process listed busy) busy old inTable wasRunning
  · intro index process id listed holds item member atId
    have before := edited.callers index process listed (dispatching_of_held holds)
    obtain ⟨pending, -⟩ | ⟨old, inTable, same, kept | ⟨-, pending⟩⟩ := edited.rows item member
    · exact pending
    · rw [kept]
      exact invariant.pending before holds old inTable (same.trans atId)
    · exact pending
  · intro left leftMember right rightMember leftRunning rightRunning
    obtain ⟨oldLeft, leftListed, leftId, wasLeft⟩ := running left leftMember leftRunning
    obtain ⟨oldRight, rightListed, rightId, wasRight⟩ := running right rightMember rightRunning
    rw [← leftId, ← rightId]
    exact invariant.single oldLeft leftListed oldRight rightListed wasLeft wasRight

end Edits

theorem step_cases (state : State) (action : Action) :
    Edited state action (step state action) ∨
      ∃ index outside process, action = .statement index outside ∧
        state.processes[index]? = some process ∧
        step state action = { (advance state outside process).1 with
          processes := state.processes.set index (advance state outside process).2 } := by
  cases action with
  | elapse seconds => exact Or.inl (.same rfl rfl rfl)
  | tickAll => exact Or.inl (.called rfl)
  | start startAt => exact Or.inl (.called rfl)
  | pause =>
      simp only [step]
      split
      · exact Or.inl (.called rfl)
      · exact Or.inl (.same rfl rfl rfl)
  | resume =>
      simp only [step]
      split
      · exact Or.inl (.called rfl)
      · exact Or.inl (.same rfl rfl rfl)
  | syncItemFromTask task status => exact Or.inl (.called rfl)
  | statement index outside =>
      simp only [step]
      split
      · exact Or.inl (.same rfl rfl rfl)
      · rename_i process found
        exact Or.inr ⟨index, outside, process, rfl, found, rfl⟩
  | fault index =>
      refine Or.inl ⟨fun unique _ => unique, Nat.le_refl _, fun item member => ?_, ?_⟩
      · exact Or.inr ⟨item, member, rfl, Or.inl rfl⟩
      · intro position process found busy
        rcases ListLib.getElem?_set_some found with ⟨-, rfl⟩ | ⟨-, listed⟩
        · exact absurd busy (by decide)
        · exact listed
  | createItem seq kind issue agent => exact Or.inl (.created _ rfl rfl)
  | updateItem id agent =>
      exact Or.inl (.updated rfl rfl rfl (fun _ => rfl) fun _ _ => Or.inl rfl)
  | reorderItem id seq =>
      exact Or.inl (.updated rfl rfl rfl (fun _ => rfl) fun _ _ => Or.inl rfl)
  | retryItem id =>
      refine Or.inl (.updated rfl rfl rfl (fun _ => rfl) fun item matched => Or.inr ⟨?_, rfl⟩)
      have same : item.id = id ∧ item.status = .failed := by simpa using matched
      rw [same.1]
  | deleteItem id => exact Or.inl (.kept rfl rfl rfl)
  | deleteFinishedItems => exact Or.inl (.kept rfl rfl rfl)
  | createIssue agent => exact Or.inl (.same rfl rfl rfl)
  | deleteIssue id =>
      exact Or.inl (.updated rfl rfl rfl (fun _ => rfl) fun _ _ => Or.inl rfl)
  | deleteAgent id =>
      exact Or.inl (.updated rfl rfl rfl (fun _ => rfl) fun _ _ => Or.inl rfl)
  | updateQueue queue => exact Or.inl (.same rfl rfl rfl)

theorem Invariant.step {state : State} (invariant : Invariant state) (action : Action)
    (exclusive : Exclusive state action) : Invariant (step state action) := by
  rcases step_cases state action with edited | ⟨index, outside, process, rfl, found, same⟩
  · exact invariant.edited edited
  · rw [same]
    refine invariant.advanced found (advance_advanced state outside process) fun checks => ?_
    exact exclusive (by rw [found]; simpa using checks)

def AtMostOneRunning (state : State) : Prop :=
  (state.items.countP fun item => item.status = .running) ≤ 1

instance : DecidablePred AtMostOneRunning := fun _ => inferInstanceAs (Decidable (_ ≤ 1))

theorem Invariant.atMostOneRunning {state : State} (invariant : Invariant state) :
    AtMostOneRunning state := by
  refine TableLib.countP_le_one invariant.unique fun left leftMember right rightMember => ?_
  intro leftRunning rightRunning
  exact invariant.single left leftMember right rightMember (by simpa using leftRunning)
    (by simpa using rightRunning)

def Settled (id : Id) (state : State) : Prop :=
  id < state.nextItem ∧ ∀ item ∈ state.items, item.id = id → item.status.terminal

theorem Settled.step {state : State} {id : Id} (settled : Settled id state)
    (invariant : Invariant state) {action : Action} (noRetry : action ≠ .retryItem id) :
    Settled id (step state action) := by
  rcases step_cases state action with edited | ⟨index, outside, process, -, found, same⟩
  · refine ⟨Nat.lt_of_lt_of_le settled.1 edited.nextItem, fun item member atId => ?_⟩
    obtain ⟨-, isNew, -⟩ | ⟨old, listed, sameId, kept | ⟨retried, -⟩⟩ := edited.rows item member
    · have below := settled.1
      rw [← atId, isNew] at below
      exact absurd below (Nat.lt_irrefl _)
    · rw [kept]
      exact settled.2 old listed (sameId.trans atId)
    · rw [atId] at retried
      contradiction
  · have advanced := advance_advanced state outside process
    rw [same]
    refine ⟨Nat.lt_of_lt_of_eq settled.1 advanced.nextItem.symm, fun item member atId => ?_⟩
    obtain ⟨old, listed, sameId, kept | ⟨-, ended⟩ | ⟨marked, -⟩⟩ := advanced.rows item member
    · rw [kept]
      exact settled.2 old listed (sameId.trans atId)
    · exact ended
    · have terminal := settled.2 old listed (sameId.trans atId)
      rw [invariant.pending found (held_of_marks marked) old listed sameId] at terminal
      exact absurd terminal (by decide)

theorem Settled.run {state : State} {id : Id} (settled : Settled id state)
    (invariant : Invariant state) {actions : List Action}
    (exclusive : RunLib.Every WorkQueue.step Exclusive state actions)
    (noRetry : ∀ action ∈ actions, action ≠ .retryItem id) :
    Settled id (RunLib.run WorkQueue.step state actions) := by
  induction actions generalizing state with
  | nil => exact settled
  | cons action rest ih =>
      have next := settled.step invariant (noRetry action (by simp))
      exact ih next (invariant.step action exclusive.1) exclusive.2
        fun later member => noRetry later (by simp [member])

/-- In every run in which no caller checks for a running item while another is dispatching,
at most one item runs at a time, and a finished item runs again only after a retry. -/
theorem dispatch_mutually_exclusive (queue : Queue) (actions : List Action)
    (exclusive : RunLib.Every step Exclusive (initial queue) actions) :
    RunLib.Always step AtMostOneRunning (initial queue) actions ∧
      ∀ front back, actions = front ++ back →
        ∀ item ∈ (RunLib.run step (initial queue) front).items, item.status.terminal →
          (∀ action ∈ back, action ≠ .retryItem item.id) →
            ∀ later ∈ (RunLib.run step (initial queue) actions).items, later.id = item.id →
              later.status ≠ .running := by
  have preserved : ∀ state action, Invariant state → Exclusive state action →
      Invariant (step state action) := fun _ action invariant => invariant.step action
  constructor
  · have always := RunLib.always_of_invariant (initial_invariant queue) preserved exclusive
    exact always.mono fun _ invariant => invariant.atMostOneRunning
  · rintro front back rfl item member terminal noRetry later laterMember sameId running
    obtain ⟨before, after⟩ := RunLib.every_append.mp exclusive
    have reached :=
      (RunLib.always_of_invariant (initial_invariant queue) preserved before).last
    have settled : Settled item.id (RunLib.run step (initial queue) front) := by
      refine ⟨reached.fresh item member, fun other otherMember same => ?_⟩
      rw [List.inj_on_of_nodup_map reached.unique otherMember member same]
      exact terminal
    have ended := (settled.run reached after noRetry).2 later
    rw [RunLib.run_append] at laterMember
    have stillTerminal := ended laterMember sameId
    rw [running] at stillTerminal
    exact absurd stillTerminal (by decide)

instance (state : State) (action : Action) : Decidable (Exclusive state action) := by
  cases action <;> unfold Exclusive <;> infer_instance

def plainQueue : Queue := ⟨.idle, none, 0, some 5, none, none, false⟩

def answer : Outside := ⟨none, true⟩

def sequentialRun : List Action :=
  [.createItem 1 .prompt none none, .createItem 2 .prompt none none, .start none] ++
    List.replicate 7 (.statement 0 answer) ++ [.syncItemFromTask 0 .completed] ++
    List.replicate 9 (.statement 1 answer)

theorem dispatch_mutually_exclusive_sequentialRun :
    RunLib.Always step AtMostOneRunning (initial plainQueue) sequentialRun :=
  (dispatch_mutually_exclusive plainQueue sequentialRun (by decide)).1

def racingRun : List Action :=
  [.createItem 1 .prompt none none, .createItem 2 .prompt none none, .start none,
    .statement 0 answer, .tickAll, .statement 1 answer, .statement 0 answer, .statement 1 answer] ++
    List.replicate 5 (.statement 0 answer) ++ List.replicate 5 (.statement 1 answer)

theorem dispatch_runs_two_racingRun :
    ¬ AtMostOneRunning (RunLib.run step (initial plainQueue) racingRun) := by decide

end MulticaOS.WorkQueue
