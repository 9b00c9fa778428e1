import MulticaOS.WorkQueue

/-!
`DispatchNext` when its statements fail.  A call commits issue, task and item one after
another and returns at the first error; calls follow each other, and items are edited
between them.
-/

namespace MulticaOS.WorkQueue

/-- The caller of `DispatchNext`, the database as its last call found it, and whether that
call has just returned an error. -/
structure Dispatcher where
  db : State
  caller : Process
  started : State
  failed : Bool

inductive Event where
  | dispatch (queue : Queue) (now : Nat)
  | answered (outside : Outside)
  | error
  | finished (task : Id) (status : TerminalStatus) (message : Option String)
  | edited (action : Action)

def Process.errs (state : State) (outside : Outside) : Process → Bool
  | .enqueueTask _ _ => !outside.enqueued
  | .updateIssue _ issue _ => !state.issues.any fun row => row.id = issue
  | .markRunning item _ _ => !hasItem state item fun _ => true
  | .failRunning item _ => !hasItem state item fun _ => true
  | .failTerminal item _ => !hasItem state item fun row => row.status = .running
  | _ => false

def Process.isReturned : Process → Bool
  | .returned => true
  | _ => false

def Action.isStatement : Action → Bool
  | .statement _ _ => true
  | _ => false

def finishItem (state : State) (task : Id) (status : TerminalStatus) (message : Option String) : State :=
  match getWorkQueueItemByTaskID state task with
  | none => state
  | some item => markWorkQueueItemTerminal state item.id status message

def fail (dispatcher : Dispatcher) : Dispatcher :=
  { dispatcher with caller := .returned, failed := true }

def between (dispatcher : Dispatcher) (change : State → State) : Dispatcher :=
  if dispatcher.caller.isReturned then
    { dispatcher with db := change dispatcher.db, failed := false }
  else dispatcher

def handle (dispatcher : Dispatcher) : Event → Dispatcher
  | .dispatch queue now =>
      if dispatcher.caller.isReturned then
        ⟨dispatcher.db, dispatchNext queue now, dispatcher.db, false⟩
      else dispatcher
  | .answered outside =>
      if dispatcher.caller.errs dispatcher.db outside then fail dispatcher
      else
        let after := advance dispatcher.db outside dispatcher.caller
        ⟨after.1, after.2, dispatcher.started, false⟩
  | .error => if dispatcher.caller.isReturned then dispatcher else fail dispatcher
  | .finished task status message =>
      between dispatcher fun state => finishItem state task status message
  | .edited action =>
      if action.isStatement then dispatcher
      else between dispatcher fun state => step state action

def ready (queue : Queue) : Dispatcher := ⟨initial queue, .returned, initial queue, false⟩

structure Untouched (started db : State) : Prop where
  pending : ∀ item, nextPendingWorkQueueItem started = some item →
    ∃ row ∈ db.items, row.id = item.id ∧ row.status = .pending ∧ row.taskId = none
  notEnqueued : db.nextTask = started.nextTask

def AtomicOnError (dispatcher : Dispatcher) : Prop :=
  dispatcher.failed = true → Untouched dispatcher.started dispatcher.db

def Process.torn : Process → Bool
  | .markRunning _ _ _ => true
  | .failTerminal _ _ => true
  | _ => false

def tears (dispatcher : Dispatcher) : Event → Bool
  | .answered outside => dispatcher.caller.errs dispatcher.db outside && dispatcher.caller.torn
  | .error => dispatcher.caller.torn
  | _ => false

def enqueues (id : Id) (dispatcher : Dispatcher) : Event → Bool
  | .answered outside =>
      match dispatcher.caller with
      | .enqueueTask item _ => item = id && outside.enqueued
      | _ => false
  | _ => false

def Backed (dispatcher : Dispatcher) : Prop :=
  dispatcher.caller = .returned →
    ∀ item ∈ dispatcher.db.items, item.status = .running → item.taskId ≠ none

structure Found (started db : State) : Prop where
  items : db.items = started.items
  nextTask : db.nextTask = started.nextTask

def Chosen (started : State) (id : Id) : Prop :=
  ∃ item, nextPendingWorkQueueItem started = some item ∧ item.id = id

structure Enqueued (started db : State) (id : Id) : Prop where
  items : db.items = started.items
  nextTask : db.nextTask = started.nextTask + 1
  chosen : Chosen started id

structure Hopped (started db : State) (id : Id) : Prop where
  running : ∀ row ∈ db.items, row.id = id → row.status = .running
  chosen : Chosen started id

def Phase (started db : State) : Process → Prop
  | .getRunning _ _ => Found started db
  | .lastFinished _ _ => Found started db
  | .nextPending _ => Found started db
  | .setIdle _ => Found started db
  | .setCron _ _ => Found started db
  | .findOrCreateIssue item _ => Found started db ∧ Chosen started item
  | .getIssue item _ _ => Found started db ∧ Chosen started item
  | .updateIssue item _ _ => Found started db ∧ Chosen started item
  | .enqueueTask item _ => Found started db ∧ Chosen started item
  | .failRunning item _ => Found started db ∧ Chosen started item
  | .markRunning item _ _ => Enqueued started db item
  | .failTerminal item _ => Hopped started db item
  | .returned => True
  | _ => False

structure Sequential (dispatcher : Dispatcher) : Prop where
  unique : (dispatcher.db.items.map Item.id).Nodup
  fresh : ∀ item ∈ dispatcher.db.items, item.id < dispatcher.db.nextItem
  taskless : ∀ item ∈ dispatcher.db.items, item.status = .pending → item.taskId = none
  phase : Phase dispatcher.started dispatcher.db dispatcher.caller

theorem ready_sequential (queue : Queue) : Sequential (ready queue) := by
  constructor <;> simp [ready, initial, Phase]

theorem nextPending_mem {state : State} {item : Item} (found : nextPendingWorkQueueItem state = some item) :
    item ∈ state.items ∧ item.status = .pending := by
  have member := TableLib.first_mem found
  simpa [List.mem_filter] using member

theorem returned_of_isReturned {process : Process} (returned : process.isReturned = true) :
    process = .returned := by
  cases process <;> first | rfl | contradiction

section Phases

variable {started db : State}

theorem found_dispatchNext (found : Found started db) (queue : Queue) (now : Nat) :
    Phase started db (dispatchNext queue now) := by
  rw [dispatchNext]
  split
  · exact found
  · trivial

theorem found_drainedCron (found : Found started db) (queue : Queue) (outside : Outside) :
    Phase started db (drainedCron queue outside) := by
  rw [drainedCron]
  repeat' split
  all_goals trivial

theorem found_dispatchItem (found : Found started db) {item : Item} (chosen : Chosen started item.id)
    (queue : Queue) : Phase started db (dispatchItem queue item) := by
  rw [dispatchItem]
  split
  · exact ⟨found, chosen⟩
  · split
    · exact ⟨found, chosen⟩
    · exact ⟨found, chosen⟩

theorem marked_hopped {id : Id} (chosen : Chosen started id) (task issue : Option Id) :
    Hopped started (markWorkQueueItemRunning db id task issue) id := by
  refine ⟨fun row member same => ?_, chosen⟩
  rcases TableLib.mem_updateWhere member with ⟨-, unmatched⟩ | ⟨old, -, -, rfl⟩
  · simp [same] at unmatched
  · rfl

theorem advance_phase {process : Process} (outside : Outside) (phase : Phase started db process)
    (succeeds : process.errs db outside = false) :
    Phase started (advance db outside process).1 (advance db outside process).2 := by
  cases process with
  | getRunning queue now =>
      simp only [advance]
      split
      · trivial
      · exact phase
  | lastFinished queue now =>
      simp only [advance]
      split
      · trivial
      · exact phase
  | nextPending queue =>
      simp only [advance]
      split
      · exact phase
      · rename_i item chosen
        have same : nextPendingWorkQueueItem started = some item := by
          rw [← chosen, nextPendingWorkQueueItem, nextPendingWorkQueueItem, phase.items]
        exact found_dispatchItem phase ⟨item, same, rfl⟩ queue
  | setIdle queue =>
      have after : Found started (setWorkQueueStatus db .idle none) := ⟨phase.items, phase.nextTask⟩
      exact found_drainedCron after queue outside
  | findOrCreateIssue item agent =>
      obtain ⟨found, chosen⟩ := phase
      simp only [advance]
      split
      · exact ⟨found, chosen⟩
      · exact ⟨⟨found.items, found.nextTask⟩, chosen⟩
  | getIssue item issue agent =>
      obtain ⟨found, chosen⟩ := phase
      simp only [advance]
      split
      · exact ⟨found, chosen⟩
      · split
        · exact ⟨found, chosen⟩
        · exact ⟨found, chosen⟩
  | updateIssue item issue agent =>
      obtain ⟨found, chosen⟩ := phase
      simp only [advance]
      split
      · exact ⟨⟨found.items, found.nextTask⟩, chosen⟩
      · trivial
  | enqueueTask item issue =>
      obtain ⟨found, chosen⟩ := phase
      simp only [advance]
      split
      · exact ⟨found.items, by rw [← found.nextTask], chosen⟩
      · trivial
  | failRunning item reason =>
      simp only [advance]
      split
      · exact marked_hopped phase.2 none none
      · trivial
  | setCron expression nextRunAt => trivial
  | markRunning item task issue => trivial
  | failTerminal item reason => trivial
  | returned => trivial
  | _ => exact phase.elim

theorem fail_untouched_iff {dispatcher : Dispatcher} (sequential : Sequential dispatcher)
    (underway : dispatcher.caller.isReturned = false) :
    Untouched dispatcher.started dispatcher.db ↔ dispatcher.caller.torn = false := by
  obtain ⟨db, caller, started, failed⟩ := dispatcher
  have untouched (found : Found started db) : Untouched started db := by
    refine ⟨fun item chosen => ?_, found.nextTask⟩
    obtain ⟨member, pending⟩ := nextPending_mem chosen
    rw [← found.items] at member
    exact ⟨item, member, rfl, pending, sequential.taskless item member pending⟩
  have phase := sequential.phase
  cases caller with
  | markRunning item task issue =>
      refine iff_of_false (fun untouched => ?_) (by simp [Process.torn])
      have enqueued := phase.nextTask
      rw [untouched.notEnqueued] at enqueued
      omega
  | failTerminal item reason =>
      refine iff_of_false (fun untouched => ?_) (by simp [Process.torn])
      obtain ⟨chosenItem, chosen, same⟩ := phase.chosen
      obtain ⟨row, member, sameId, pending, -⟩ := untouched.pending chosenItem chosen
      rw [phase.running row member (sameId.trans same)] at pending
      contradiction
  | returned => contradiction
  | getRunning queue now => exact iff_of_true (untouched phase) rfl
  | lastFinished queue now => exact iff_of_true (untouched phase) rfl
  | nextPending queue => exact iff_of_true (untouched phase) rfl
  | setIdle queue => exact iff_of_true (untouched phase) rfl
  | setCron expression nextRunAt => exact iff_of_true (untouched phase) rfl
  | findOrCreateIssue item agent => exact iff_of_true (untouched phase.1) rfl
  | getIssue item issue agent => exact iff_of_true (untouched phase.1) rfl
  | updateIssue item issue agent => exact iff_of_true (untouched phase.1) rfl
  | enqueueTask item issue => exact iff_of_true (untouched phase.1) rfl
  | failRunning item reason => exact iff_of_true (untouched phase.1) rfl
  | _ => exact phase.elim

end Phases

/-- How a row may change: `hopped` may come to run without a task, `retried` may be pending
again. -/
inductive Moves (hopped retried : Option Id) (old row : Item) : Prop where
  | kept (status : row.status = old.status) (task : row.taskId = old.taskId)
  | ended (terminal : row.status.terminal)
  | marked (running : row.status = .running) (hops : row.taskId = none → hopped = some row.id)
  | again (pending : row.status = .pending) (task : row.taskId = none) (retry : retried = some row.id)

structure Onward (hopped retried : Option Id) (before after : State) : Prop where
  unique : (before.items.map Item.id).Nodup → (∀ item ∈ before.items, item.id < before.nextItem) →
    (after.items.map Item.id).Nodup
  nextItem : before.nextItem ≤ after.nextItem
  rows : ∀ row ∈ after.items,
    (row.status = .pending ∧ row.taskId = none ∧ row.id = before.nextItem ∧
        row.id < after.nextItem) ∨
      ∃ old ∈ before.items, old.id = row.id ∧ Moves hopped retried old row

def Process.hops : Process → Option Id
  | .failRunning item _ => some item
  | _ => none

def Action.retries : Action → Option Id
  | .retryItem id => some id
  | _ => none

section Items

variable {before after : State} {hopped retried : Option Id}

theorem Onward.same (items : after.items = before.items) (nextItem : after.nextItem = before.nextItem) :
    Onward hopped retried before after := by
  refine ⟨fun unique _ => items ▸ unique, Nat.le_of_eq nextItem.symm, fun row member => ?_⟩
  exact Or.inr ⟨row, items ▸ member, rfl, .kept rfl rfl⟩

theorem Onward.filtered {keeps : Item → Bool} (items : after.items = before.items.filter keeps)
    (nextItem : after.nextItem = before.nextItem) : Onward hopped retried before after := by
  refine ⟨fun unique _ => ?_, Nat.le_of_eq nextItem.symm, fun row member => ?_⟩
  · rw [items]
    exact unique.sublist ((List.filter_sublist).map Item.id)
  · rw [items, List.mem_filter] at member
    exact Or.inr ⟨row, member.1, rfl, .kept rfl rfl⟩

theorem Onward.updated {start : State} {matching : Item → Bool} {change : Item → Item}
    (items : start.items = before.items) (nextItem : start.nextItem = before.nextItem)
    (ids : ∀ item, (change item).id = item.id)
    (rows : ∀ item, matching item = true → Moves hopped retried item (change item)) :
    Onward hopped retried before (updateItems start matching change) := by
  refine ⟨fun unique _ => ?_, Nat.le_of_eq nextItem.symm, fun row member => ?_⟩
  · rw [updateItems_ids ids, items]
    exact unique
  · rcases TableLib.mem_updateWhere member with ⟨listed, -⟩ | ⟨old, listed, matched, rfl⟩
    · exact Or.inr ⟨row, items ▸ listed, rfl, .kept rfl rfl⟩
    · exact Or.inr ⟨old, items ▸ listed, (ids old).symm, rows old matched⟩

end Items

theorem markTerminal_onward (state : State) (id : Id) (status : TerminalStatus) (error : Option String) :
    Onward none none state (markWorkQueueItemTerminal state id status error) :=
  .updated rfl rfl (fun _ => rfl) fun _ _ => .ended status.2

theorem advance_onward (state : State) (outside : Outside) (process : Process) :
    Onward process.hops none state (advance state outside process).1 := by
  cases process with
  | markTerminal item status error => exact markTerminal_onward state item status error
  | failTerminal item reason => exact markTerminal_onward state item failedStatus (some reason)
  | markRunning item task issue =>
      exact .updated rfl rfl (fun _ => rfl) fun _ _ => .marked rfl (by simp)
  | failRunning item reason =>
      refine .updated rfl rfl (fun _ => rfl) fun row matched => .marked rfl fun _ => ?_
      have same : row.id = item := by simpa using matched
      exact congrArg some same.symm
  | _ =>
      simp only [advance]
      repeat' split
      all_goals exact .same rfl rfl

theorem finishItem_onward (state : State) (task : Id) (status : TerminalStatus)
    (message : Option String) : Onward none none state (finishItem state task status message) := by
  rw [finishItem]
  split
  · exact .same rfl rfl
  · exact markTerminal_onward state _ status message

theorem step_onward (state : State) (action : Action) (edit : action.isStatement = false) :
    Onward none action.retries state (step state action) := by
  cases action with
  | statement index outside => contradiction
  | createItem seq kind issue agent =>
      have shape : Edited state (.createItem seq kind issue agent)
          (step state (.createItem seq kind issue agent)) := .created _ rfl rfl
      refine ⟨shape.unique, shape.nextItem, fun row member => ?_⟩
      rcases List.mem_append.mp member with listed | new
      · exact Or.inr ⟨row, listed, rfl, .kept rfl rfl⟩
      · rw [List.mem_singleton.mp new]
        exact Or.inl ⟨rfl, rfl, rfl, Nat.lt_succ_self _⟩
  | updateItem id agent => exact .updated rfl rfl (fun _ => rfl) fun _ _ => .kept rfl rfl
  | reorderItem id seq => exact .updated rfl rfl (fun _ => rfl) fun _ _ => .kept rfl rfl
  | retryItem id =>
      refine .updated rfl rfl (fun _ => rfl) fun item matched => .again rfl rfl ?_
      have same : item.id = id ∧ item.status = .failed := by simpa using matched
      exact congrArg some same.1.symm
  | deleteItem id => exact .filtered rfl rfl
  | deleteFinishedItems => exact .filtered rfl rfl
  | deleteIssue id => exact .updated rfl rfl (fun _ => rfl) fun _ _ => .kept rfl rfl
  | deleteAgent id => exact .updated rfl rfl (fun _ => rfl) fun _ _ => .kept rfl rfl
  | pause =>
      simp only [step]
      split <;> exact .same rfl rfl
  | resume =>
      simp only [step]
      split <;> exact .same rfl rfl
  | _ => exact .same rfl rfl

def Unspent (id : Id) (state : State) : Prop := ∀ row ∈ state.items, row.id = id → row.status ≠ .pending

section Kept

variable {before after : State} {hopped retried : Option Id} {id : Id}

theorem Onward.fresh (onward : Onward hopped retried before after)
    (fresh : ∀ item ∈ before.items, item.id < before.nextItem) :
    ∀ item ∈ after.items, item.id < after.nextItem := by
  intro item member
  obtain ⟨-, -, -, below⟩ | ⟨old, listed, same, -⟩ := onward.rows item member
  · exact below
  · rw [← same]
    exact Nat.lt_of_lt_of_le (fresh old listed) onward.nextItem

theorem Onward.taskless (onward : Onward hopped retried before after)
    (taskless : ∀ item ∈ before.items, item.status = .pending → item.taskId = none) :
    ∀ item ∈ after.items, item.status = .pending → item.taskId = none := by
  intro item member pending
  obtain ⟨-, none, -⟩ | ⟨old, listed, -, moves⟩ := onward.rows item member
  · exact none
  · cases moves with
    | kept status task =>
        rw [task]
        exact taskless old listed (status.symm.trans pending)
    | ended terminal =>
        rw [pending] at terminal
        exact absurd terminal (by decide)
    | marked running hops =>
        rw [pending] at running
        contradiction
    | again _ task _ => exact task

theorem Onward.unspent (onward : Onward hopped retried before after) (known : id < before.nextItem)
    (noRetry : retried ≠ some id) (left : Unspent id before) : Unspent id after := by
  rintro row member rfl pending
  obtain ⟨-, -, new, -⟩ | ⟨old, listed, same, moves⟩ := onward.rows row member
  · rw [new] at known
    exact Nat.lt_irrefl _ known
  · cases moves with
    | kept status task => exact left old listed same (status.symm.trans pending)
    | ended terminal =>
        rw [pending] at terminal
        exact absurd terminal (by decide)
    | marked running hops =>
        rw [pending] at running
        contradiction
    | again _ _ retry => exact noRetry retry

theorem Onward.backed (onward : Onward hopped retried before after)
    (backed : ∀ item ∈ before.items, item.status = .running → item.taskId ≠ none) :
    ∀ item ∈ after.items, item.status = .running → item.taskId = none → hopped = some item.id := by
  intro item member running none
  obtain ⟨pending, -⟩ | ⟨old, listed, -, moves⟩ := onward.rows item member
  · rw [running] at pending
    contradiction
  · cases moves with
    | kept status task =>
        exact absurd (task.symm.trans none) (backed old listed (status.symm.trans running))
    | ended terminal =>
        rw [running] at terminal
        exact absurd terminal (by decide)
    | marked running hops => exact hops none
    | again pending _ _ =>
        rw [running] at pending
        contradiction

end Kept

inductive Handled (dispatcher : Dispatcher) : Event → Dispatcher → Prop where
  | stays (event : Event) (whole : tears dispatcher event = false) : Handled dispatcher event dispatcher
  | fails (event : Event) (underway : dispatcher.caller.isReturned = false)
      (torn : tears dispatcher event = dispatcher.caller.torn) :
      Handled dispatcher event (fail dispatcher)
  | begins (queue : Queue) (now : Nat) (returned : dispatcher.caller = .returned) :
      Handled dispatcher (.dispatch queue now)
        ⟨dispatcher.db, dispatchNext queue now, dispatcher.db, false⟩
  | advances (outside : Outside) (succeeds : dispatcher.caller.errs dispatcher.db outside = false) :
      Handled dispatcher (.answered outside)
        ⟨(advance dispatcher.db outside dispatcher.caller).1,
          (advance dispatcher.db outside dispatcher.caller).2, dispatcher.started, false⟩
  | edits (event : Event) (after : State) (retried : Option Id)
      (returned : dispatcher.caller = .returned) (onward : Onward none retried dispatcher.db after)
      (retry : ∀ id, retried = some id → event = .edited (.retryItem id))
      (whole : tears dispatcher event = false) :
      Handled dispatcher event ⟨after, dispatcher.caller, dispatcher.started, false⟩

theorem not_returned_of_errs {process : Process} {state : State} {outside : Outside}
    (errs : process.errs state outside = true) : process.isReturned = false := by
  cases process <;> first | rfl | contradiction

theorem handle_handled (dispatcher : Dispatcher) (event : Event) :
    Handled dispatcher event (handle dispatcher event) := by
  cases event with
  | dispatch queue now =>
      simp only [handle]
      split
      · rename_i returned
        exact .begins queue now (returned_of_isReturned returned)
      · exact .stays _ rfl
  | answered outside =>
      simp only [handle]
      split
      · rename_i errs
        exact .fails _ (not_returned_of_errs errs) (by simp [tears, errs])
      · rename_i succeeds
        exact .advances outside (by simpa using succeeds)
  | error =>
      simp only [handle]
      split
      · rename_i returned
        refine .stays _ ?_
        rw [tears, returned_of_isReturned returned]
        rfl
      · rename_i underway
        exact .fails _ (by simpa using underway) rfl
  | finished task status message =>
      simp only [handle, between]
      split
      · rename_i returned
        exact .edits _ _ none (returned_of_isReturned returned)
          (finishItem_onward dispatcher.db task status message) (fun _ => nofun) rfl
      · exact .stays _ rfl
  | edited action =>
      simp only [handle, between]
      split
      · exact .stays _ rfl
      · rename_i edit
        split
        · rename_i returned
          refine .edits _ _ action.retries (returned_of_isReturned returned)
            (step_onward dispatcher.db action (by simpa using edit)) (fun id retries => ?_) rfl
          cases action with
          | retryItem item => rw [Option.some.inj retries]
          | _ => contradiction
        · exact .stays _ rfl

section Handling

variable {dispatcher next : Dispatcher} {event : Event}

theorem Sequential.handled (sequential : Sequential dispatcher) (handled : Handled dispatcher event next) :
    Sequential next := by
  obtain ⟨unique, fresh, taskless, phase⟩ := sequential
  cases handled with
  | stays => exact ⟨unique, fresh, taskless, phase⟩
  | fails => exact ⟨unique, fresh, taskless, trivial⟩
  | begins queue now returned =>
      exact ⟨unique, fresh, taskless, found_dispatchNext ⟨rfl, rfl⟩ queue now⟩
  | advances outside succeeds =>
      have onward := advance_onward dispatcher.db outside dispatcher.caller
      exact ⟨onward.unique unique fresh, onward.fresh fresh, onward.taskless taskless,
        advance_phase outside phase succeeds⟩
  | edits _ after retried returned onward =>
      refine ⟨onward.unique unique fresh, onward.fresh fresh, onward.taskless taskless, ?_⟩
      rw [returned]
      trivial

theorem Handled.atomicOnError_iff (handled : Handled dispatcher event next)
    (sequential : Sequential dispatcher) (atomic : AtomicOnError dispatcher) :
    AtomicOnError next ↔ tears dispatcher event = false := by
  cases handled with
  | stays _ whole => exact iff_of_true atomic whole
  | fails _ underway torn =>
      rw [torn, ← fail_untouched_iff sequential underway]
      exact ⟨fun atomic => atomic rfl, fun untouched _ => untouched⟩
  | begins queue now returned => exact iff_of_true nofun rfl
  | advances outside succeeds => exact iff_of_true nofun (by simp [tears, succeeds])
  | edits _ after retried returned onward retry whole => exact iff_of_true nofun whole

def Owed (dispatcher : Dispatcher) : Prop :=
  ∀ item ∈ dispatcher.db.items, item.status = .running → item.taskId = none →
    ∃ reason, dispatcher.caller = .failTerminal item.id reason

theorem Owed.backed (owed : Owed dispatcher)
    (other : ∀ item reason, dispatcher.caller ≠ .failTerminal item reason) :
    ∀ item ∈ dispatcher.db.items, item.status = .running → item.taskId ≠ none := by
  intro item member running none
  obtain ⟨reason, fails⟩ := owed item member running none
  exact other item.id reason fails

theorem failTerminal_owed {id : Id} {reason : String} (owed : Owed dispatcher)
    (caller : dispatcher.caller = .failTerminal id reason) :
    ∀ item ∈ (markWorkQueueItemTerminal dispatcher.db id failedStatus (some reason)).items,
      item.status = .running → item.taskId ≠ none := by
  intro item member running none
  rcases TableLib.mem_updateWhere member with ⟨listed, unmatched⟩ | ⟨old, -, -, rfl⟩
  · obtain ⟨other, same⟩ := owed item listed running none
    rw [caller] at same
    obtain ⟨rfl, -⟩ := Process.failTerminal.inj same
    simp [running] at unmatched
  · contradiction

theorem advance_owed {outside : Outside} (owed : Owed dispatcher)
    (succeeds : dispatcher.caller.errs dispatcher.db outside = false) :
    Owed ⟨(advance dispatcher.db outside dispatcher.caller).1,
      (advance dispatcher.db outside dispatcher.caller).2, dispatcher.started, false⟩ := by
  have onward := advance_onward dispatcher.db outside dispatcher.caller
  intro item member running none
  by_cases fails : ∃ id reason, dispatcher.caller = .failTerminal id reason
  · obtain ⟨id, reason, caller⟩ := fails
    simp only [caller, advance] at member
    exact absurd none (failTerminal_owed owed caller item member running)
  · have backed := owed.backed fun id reason caller => fails ⟨id, reason, caller⟩
    have hops := onward.backed backed item member running none
    cases caller : dispatcher.caller with
    | failRunning id reason =>
        rw [caller] at hops succeeds
        obtain rfl := Option.some.inj hops
        have exists_item : hasItem dispatcher.db item.id (fun _ => true) = true := by
          simpa [Process.errs] using succeeds
        exact ⟨reason, by simp [advance, exists_item]⟩
    | _ =>
        rw [caller] at hops
        contradiction

theorem Owed.handled (owed : Owed dispatcher) (handled : Handled dispatcher event next)
    (whole : tears dispatcher event = false) : Owed next := by
  cases handled with
  | stays => exact owed
  | fails _ underway torn =>
      have backed := owed.backed fun id reason caller => by
        rw [whole, caller] at torn
        contradiction
      exact fun item member running none => absurd none (backed item member running)
  | begins queue now returned =>
      have backed := owed.backed fun id reason caller => by
        rw [returned] at caller
        contradiction
      exact fun item member running none => absurd none (backed item member running)
  | advances outside succeeds => exact advance_owed owed succeeds
  | edits _ after retried returned onward =>
      have backed := owed.backed fun id reason caller => by
        rw [returned] at caller
        contradiction
      intro item member running none
      have hops := onward.backed backed item member running none
      contradiction

/-- The item has its task: the call is about to record it, or the item has left `pending`. -/
structure Spent (id : Id) (dispatcher : Dispatcher) : Prop where
  known : id < dispatcher.db.nextItem
  left : (∃ task issue, dispatcher.caller = .markRunning id task issue) ∨ Unspent id dispatcher.db

theorem enqueues_found {id : Id} (enqueued : enqueues id dispatcher event = true) :
    ∃ outside issue, event = .answered outside ∧ outside.enqueued = true ∧
      dispatcher.caller = .enqueueTask id issue := by
  cases event with
  | answered outside =>
      simp only [enqueues] at enqueued
      split at enqueued
      · rename_i item issue caller
        simp only [Bool.and_eq_true, decide_eq_true_eq] at enqueued
        obtain ⟨rfl, succeeds⟩ := enqueued
        exact ⟨outside, issue, rfl, succeeds, caller⟩
      · contradiction
  | _ => contradiction

theorem Sequential.chosen_pending {id issue : Id} (sequential : Sequential dispatcher)
    (caller : dispatcher.caller = .enqueueTask id issue) :
    ∃ item ∈ dispatcher.db.items, item.id = id ∧ item.status = .pending := by
  have phase := sequential.phase
  rw [caller] at phase
  obtain ⟨found, item, chosen, same⟩ := phase
  obtain ⟨member, pending⟩ := nextPending_mem chosen
  rw [← found.items] at member
  exact ⟨item, member, same, pending⟩

theorem enqueues_spent {id : Id} (sequential : Sequential dispatcher)
    (enqueued : enqueues id dispatcher event = true) : Spent id (handle dispatcher event) := by
  obtain ⟨outside, issue, rfl, succeeds, caller⟩ := enqueues_found enqueued
  obtain ⟨item, member, rfl, -⟩ := sequential.chosen_pending caller
  have known := sequential.fresh item member
  simp only [handle, caller, Process.errs, succeeds, advance]
  exact ⟨known, Or.inl ⟨_, _, rfl⟩⟩

theorem Spent.not_enqueues {id : Id} (spent : Spent id dispatcher) (sequential : Sequential dispatcher) :
    enqueues id dispatcher event = false := by
  by_contra enqueued
  rw [Bool.not_eq_false] at enqueued
  obtain ⟨outside, issue, rfl, -, caller⟩ := enqueues_found enqueued
  rcases spent.left with ⟨task, other, marks⟩ | left
  · rw [caller] at marks
    contradiction
  · obtain ⟨item, member, same, pending⟩ := sequential.chosen_pending caller
    exact left item member same pending

theorem Spent.unspent {id : Id} (spent : Spent id dispatcher)
    (other : ∀ task issue, dispatcher.caller ≠ .markRunning id task issue) : Unspent id dispatcher.db := by
  rcases spent.left with ⟨task, issue, marks⟩ | left
  · exact absurd marks (other task issue)
  · exact left

theorem advance_unspent {id : Id} (spent : Spent id dispatcher) (outside : Outside) :
    Unspent id (advance dispatcher.db outside dispatcher.caller).1 := by
  have onward := advance_onward dispatcher.db outside dispatcher.caller
  rcases spent.left with ⟨task, issue, marks⟩ | left
  · intro row member same pending
    simp only [marks, advance] at member
    rcases TableLib.mem_updateWhere member with ⟨-, unmatched⟩ | ⟨old, -, -, rfl⟩
    · simp [same] at unmatched
    · contradiction
  · exact onward.unspent spent.known (fun retries => by cases retries) left

theorem Spent.handled {id : Id} (spent : Spent id dispatcher) (handled : Handled dispatcher event next)
    (whole : tears dispatcher event = false) (noRetry : event ≠ .edited (.retryItem id)) :
    Spent id next := by
  have known := spent.known
  cases handled with
  | stays => exact spent
  | fails _ underway torn =>
      refine ⟨known, Or.inr (spent.unspent fun task issue caller => ?_)⟩
      rw [whole, caller] at torn
      contradiction
  | begins queue now returned =>
      refine ⟨known, Or.inr (spent.unspent fun task issue caller => ?_)⟩
      rw [returned] at caller
      contradiction
  | advances outside succeeds =>
      have onward := advance_onward dispatcher.db outside dispatcher.caller
      exact ⟨Nat.lt_of_lt_of_le known onward.nextItem, Or.inr (advance_unspent spent outside)⟩
  | edits _ after retried returned onward retry =>
      have left := spent.unspent fun task issue caller => by
        rw [returned] at caller
        contradiction
      exact ⟨Nat.lt_of_lt_of_le known onward.nextItem,
        Or.inr (onward.unspent known (fun retries => noRetry (retry id retries)) left)⟩

end Handling

theorem run_sequential (queue : Queue) (events : List Event) :
    Sequential (RunLib.run handle (ready queue) events) :=
  RunLib.run_invariant (ready_sequential queue)
    (fun dispatcher event sequential => sequential.handled (handle_handled dispatcher event)) events

theorem ready_owed (queue : Queue) : Owed (ready queue) := by simp [Owed, ready, initial]

theorem Owed.backedBetween {dispatcher : Dispatcher} (owed : Owed dispatcher) : Backed dispatcher := by
  intro returned
  refine owed.backed fun item reason caller => ?_
  rw [returned] at caller
  contradiction

def Whole (dispatcher : Dispatcher) (event : Event) : Prop := tears dispatcher event = false

instance (dispatcher : Dispatcher) (event : Event) : Decidable (Whole dispatcher event) :=
  inferInstanceAs (Decidable (_ = _))

theorem enqueues_once {start : Dispatcher} {id : Id} {events : List Event} (sequential : Sequential start)
    (whole : RunLib.Every handle Whole start events)
    (noRetry : ∀ event ∈ events, event ≠ .edited (.retryItem id)) :
    RunLib.occurrences handle (enqueues id) start events ≤ 1 := by
  have once := RunLib.occurrences_le_one
    (fun dispatcher event sequential _ => Sequential.handled sequential (handle_handled dispatcher event))
    (fun _ _ sequential _ enqueued => enqueues_spent sequential enqueued)
    (fun dispatcher event sequential allowed spent => ⟨Spent.not_enqueues spent sequential,
      Spent.handled spent (handle_handled dispatcher event) allowed.1 allowed.2⟩)
    sequential (whole.among noRetry)
  exact once.1

/-- An error of `DispatchNext` leaves the item pending and nothing enqueued exactly when the call
does not stop with only one of task and item on record; and in a run without such a stop an item
gets one task until it is retried, and none is left running without its task. -/
theorem dispatch_atomic_iff (queue : Queue) (events : List Event) :
    (RunLib.Always handle AtomicOnError (ready queue) events ↔
      RunLib.Every handle Whole (ready queue) events) ∧
    (RunLib.Every handle Whole (ready queue) events →
      RunLib.Always handle Backed (ready queue) events ∧
      ∀ front back id, events = front ++ back →
        (∀ event ∈ back, event ≠ .edited (.retryItem id)) →
        RunLib.occurrences handle (enqueues id) (RunLib.run handle (ready queue) front) back ≤ 1) := by
  have keeps : ∀ dispatcher event, Sequential dispatcher → Sequential (handle dispatcher event) :=
    fun dispatcher event sequential => sequential.handled (handle_handled dispatcher event)
  refine ⟨?_, fun whole => ⟨?_, ?_⟩⟩
  · exact RunLib.always_iff_every (ready_sequential queue) nofun keeps
      fun dispatcher event sequential atomic =>
        (handle_handled dispatcher event).atomicOnError_iff sequential atomic
  · have owed := RunLib.always_of_invariant (ready_owed queue)
      (fun dispatcher event owed whole => owed.handled (handle_handled dispatcher event) whole) whole
    exact owed.mono fun _ owed => owed.backedBetween
  · rintro front back id rfl noRetry
    have later := (RunLib.every_append.mp whole).2
    exact enqueues_once (run_sequential queue front) later noRetry

def runningQueue : Queue := ⟨.running, none, 0, some 5, none, none, false⟩

def enqueuedPrompt : List Event := .dispatch runningQueue 0 :: List.replicate 5 (.answered answer)

def retriedPrompt : List Event :=
  [.edited (.createItem 1 .prompt none none)] ++ enqueuedPrompt ++ [.error] ++ enqueuedPrompt

theorem dispatch_tears_retriedPrompt :
    RunLib.occurrences handle (enqueues 0) (ready runningQueue) retriedPrompt = 2 ∧
      ¬ AtomicOnError (RunLib.run handle (ready runningQueue) (retriedPrompt ++ [.error])) := by
  refine ⟨by decide, fun atomic => ?_⟩
  have untouched := (atomic rfl).notEnqueued
  contradiction

end MulticaOS.WorkQueue
