import MulticaOS.WorkQueue

/-!
The fires of a cron queue.  `MarkWorkQueueCronFired` checks that the queue is idle; the
time that was due is the one its tick read when it listed the queue.
-/

namespace MulticaOS.WorkQueue

def fires (due : Nat) (state : State) : Action → Bool
  | .statement index _ =>
      match state.processes[index]? with
      | some (.markCronFired queue _ _) => state.queue.status = .idle && queue.nextRunAt = some due
      | _ => false
  | _ => false

def Ahead (state : State) (nextRunAt : Option Nat) : Prop :=
  ∀ next ∈ nextRunAt, state.now < next ∨ ∃ stored ∈ state.queue.nextRunAt, stored ≤ next

def Process.current (state : State) : Process → Prop
  | .markCronFired queue _ next =>
      state.queue.status = .idle →
        ∃ due ∈ queue.nextRunAt, state.queue.nextRunAt = some due ∧ due < next
  | .setCron _ nextRunAt => Ahead state nextRunAt
  | _ => True

def Current (state : State) : Action → Prop
  | .statement index _ => ∀ process ∈ state.processes[index]?, process.current state
  | .updateQueue queue => Ahead state queue.nextRunAt
  | _ => True

instance (state : State) (nextRunAt : Option Nat) : Decidable (Ahead state nextRunAt) := by
  unfold Ahead
  infer_instance

instance (state : State) (process : Process) : Decidable (process.current state) := by
  cases process <;> unfold Process.current <;> infer_instance

instance (state : State) : (action : Action) → Decidable (Current state action)
  | .statement index _ =>
      inferInstanceAs (Decidable (∀ process ∈ state.processes[index]?, process.current state))
  | .updateQueue queue => inferInstanceAs (Decidable (Ahead state queue.nextRunAt))
  | .elapse _ | .tickAll | .start _ | .pause | .resume | .syncItemFromTask _ _ | .fault _
  | .createItem _ _ _ _ | .updateItem _ _ | .reorderItem _ _ | .retryItem _ | .deleteItem _
  | .deleteFinishedItems | .createIssue _ | .deleteIssue _ | .deleteAgent _ =>
      inferInstanceAs (Decidable True)

def Process.listedDue : Process → Option Nat
  | .markCronFired queue _ _ => queue.nextRunAt
  | _ => none

def Listed (state : State) : Prop :=
  ∀ process ∈ state.processes, ∀ due ∈ process.listedDue, due ≤ state.now

structure Past (due : Nat) (state : State) : Prop where
  come : due ≤ state.now
  beyond : ∀ stored ∈ state.queue.nextRunAt, due < stored

section Statements

variable {state : State} {process : Process}

theorem listedDue_dispatchNext (queue : Queue) (now : Nat) :
    (dispatchNext queue now).listedDue = none := by
  rw [dispatchNext]
  split <;> rfl

theorem listedDue_syncItem (item : Item) (status : TaskStatus) :
    (syncItem item status).listedDue = none := by
  cases status <;> rfl

theorem listedDue_dispatchItem (queue : Queue) (item : Item) :
    (dispatchItem queue item).listedDue = none := by
  rw [dispatchItem]
  split
  · rfl
  · split <;> rfl

theorem listedDue_drainedCron (queue : Queue) (outside : Outside) :
    (drainedCron queue outside).listedDue = none := by
  rw [drainedCron]
  repeat' split
  all_goals rfl

theorem listRunnableWorkQueues_due {queue : Queue} {due : Nat}
    (listed : listRunnableWorkQueues state = some queue) (idle : queue.status = .idle)
    (stored : queue.nextRunAt = some due) : due ≤ state.now := by
  simp only [listRunnableWorkQueues] at listed
  split at listed
  · rename_i runnable
    obtain rfl := Option.some.inj listed
    have due_stored : isDue (some due) state.now = true := by simp_all
    simpa [isDue] using due_stored
  · contradiction

theorem listedDue_tickQueue {queue : Queue} {now due : Nat} {outside : Outside}
    (due_eq : (tickQueue queue now outside).listedDue = some due) :
    queue.status = .idle ∧ queue.nextRunAt = some due := by
  rw [tickQueue] at due_eq
  split at due_eq
  · contradiction
  · split at due_eq
    · rename_i idle
      split at due_eq
      · contradiction
      · exact ⟨idle.1, due_eq⟩
    · rw [listedDue_dispatchNext] at due_eq
      contradiction

theorem listedDue_advance {outside : Outside} {due : Nat}
    (due_eq : (advance state outside process).2.listedDue = some due) : due ≤ state.now := by
  cases process with
  | listRunnable now =>
      simp only [advance] at due_eq
      split at due_eq
      · contradiction
      · rename_i queue listed
        obtain ⟨idle, stored⟩ := listedDue_tickQueue due_eq
        exact listRunnableWorkQueues_due listed idle stored
  | _ =>
      refine absurd (due_eq.symm.trans ?_) (Option.some_ne_none due)
      simp only [advance]
      repeat' split
      all_goals first
        | rfl
        | exact listedDue_dispatchNext _ _
        | exact listedDue_syncItem _ _
        | exact listedDue_dispatchItem _ _
        | exact listedDue_drainedCron _ _

@[simp] theorem now_advance (outside : Outside) : (advance state outside process).1.now = state.now := by
  cases process <;> simp only [advance]
  all_goals repeat' split
  all_goals rfl

theorem nextRunAt_advance (outside : Outside) : (advance state outside process).1.queue.nextRunAt =
    match process with
    | .markCronFired _ _ next => if state.queue.status = .idle then some next else state.queue.nextRunAt
    | .setCron _ nextRunAt => nextRunAt
    | _ => state.queue.nextRunAt := by
  cases process <;> simp only [advance]
  all_goals repeat' split
  all_goals rfl

end Statements

section Steps

variable {state : State}

theorem call_listed {process : Process} (listed : Listed state) (none : process.listedDue = none) :
    Listed (call state process) := by
  intro called member
  rcases List.mem_append.mp member with old | new
  · exact listed called old
  · rw [List.mem_singleton.mp new, none]
    simp

theorem step_listed (action : Action) (listed : Listed state) : Listed (step state action) := by
  cases action with
  | elapse seconds =>
      intro process member due found
      have before := listed process member due found
      exact Nat.le_trans before (Nat.le_add_right state.now seconds)
  | tickAll => exact call_listed listed rfl
  | start startAt => exact call_listed listed rfl
  | syncItemFromTask task status => exact call_listed listed rfl
  | pause =>
      simp only [step]
      split
      · exact call_listed listed rfl
      · exact listed
  | resume =>
      simp only [step]
      split
      · exact call_listed listed rfl
      · exact listed
  | statement index outside =>
      simp only [step]
      split
      · exact listed
      · rename_i process found
        intro other member due due_eq
        rcases List.mem_or_eq_of_mem_set member with old | rfl
        · simpa using listed other old due due_eq
        · simpa using listedDue_advance due_eq
  | fault index =>
      intro other member due due_eq
      rcases List.mem_or_eq_of_mem_set member with old | rfl
      · exact listed other old due due_eq
      · contradiction
  | _ => exact listed

theorem ahead_past {due : Nat} {nextRunAt : Option Nat} (past : Past due state)
    (ahead : Ahead state nextRunAt) : ∀ stored ∈ nextRunAt, due < stored := by
  intro next written
  rcases ahead next written with later | ⟨stored, found, atLeast⟩
  · exact Nat.lt_of_le_of_lt past.come later
  · exact Nat.lt_of_lt_of_le (past.beyond stored found) atLeast

theorem advance_past {due : Nat} {process : Process} (outside : Outside) (past : Past due state)
    (current : process.current state) : Past due (advance state outside process).1 := by
  refine ⟨by simpa using past.come, ?_⟩
  rw [nextRunAt_advance]
  cases process with
  | markCronFired queue now next =>
      by_cases idle : state.queue.status = .idle
      · obtain ⟨listed, -, stored, moves⟩ := current idle
        have later := Nat.lt_trans (past.beyond listed stored) moves
        simpa [idle] using later
      · simpa [idle] using past.beyond
  | setCron expression nextRunAt => exact ahead_past past current
  | _ => exact past.beyond

theorem step_past (action : Action) {due : Nat} (current : Current state action) (past : Past due state) :
    Past due (step state action) := by
  cases action with
  | elapse seconds => exact ⟨Nat.le_trans past.come (Nat.le_add_right state.now seconds), past.beyond⟩
  | pause =>
      simp only [step]
      split <;> exact ⟨past.come, past.beyond⟩
  | resume =>
      simp only [step]
      split <;> exact ⟨past.come, past.beyond⟩
  | statement index outside =>
      simp only [step]
      split
      · exact past
      · rename_i process found
        have after := advance_past outside past (current process found)
        exact ⟨after.come, after.beyond⟩
  | updateQueue queue => exact ⟨past.come, ahead_past past current⟩
  | _ => exact ⟨past.come, past.beyond⟩

theorem fires_stored {due index : Nat} {outside : Outside}
    (current : Current state (.statement index outside))
    (won : fires due state (.statement index outside) = true) :
    ∃ queue now next, state.processes[index]? = some (.markCronFired queue now next) ∧
      queue.nextRunAt = some due ∧ state.queue.status = .idle ∧
      state.queue.nextRunAt = some due ∧ due < next := by
  simp only [fires] at won
  split at won
  · rename_i queue now next found
    simp only [Bool.and_eq_true, decide_eq_true_eq] at won
    obtain ⟨listed, listed_eq, stored, moves⟩ := current _ found won.1
    obtain rfl : due = listed := Option.some.inj (won.2.symm.trans listed_eq)
    exact ⟨queue, now, next, found, won.2, won.1, stored, moves⟩
  · contradiction

theorem fires_past {due : Nat} (action : Action) (listed : Listed state)
    (current : Current state action) (won : fires due state action = true) :
    Past due (step state action) := by
  cases action with
  | statement index outside =>
      obtain ⟨queue, now, next, found, due_eq, idle, -, moves⟩ := fires_stored current won
      have come := listed _ (List.mem_of_getElem? found) due due_eq
      simp only [step, found, advance, idle]
      refine ⟨come, fun stored written => ?_⟩
      obtain rfl := Option.some.inj written
      exact moves
  | _ => contradiction

theorem past_fires {due : Nat} (action : Action) (current : Current state action)
    (past : Past due state) : fires due state action = false := by
  by_contra won
  rw [Bool.not_eq_false] at won
  cases action with
  | statement index outside =>
      obtain ⟨queue, now, next, -, -, -, stored, -⟩ := fires_stored current won
      exact Nat.lt_irrefl due (past.beyond due stored)
  | _ => contradiction

end Steps

/-- In every run in which a tick fires only for the time that is still stored, and no write
brings back a time that has passed, no due time fires the queue twice. -/
theorem fires_once (queue : Queue) (actions : List Action)
    (current : RunLib.Every step Current (initial queue) actions) (due : Nat) :
    RunLib.occurrences step (fires due) (initial queue) actions ≤ 1 := by
  have initialListed : Listed (initial queue) := by simp [Listed, initial]
  have spends : ∀ state action, Listed state → Current state action →
      fires due state action = true → Past due (step state action) :=
    fun _ action listed current won => fires_past action listed current won
  have once := RunLib.occurrences_le_one (fun _ action listed _ => step_listed action listed) spends
    (fun _ action _ current past => ⟨past_fires action current past, step_past action current past⟩)
    initialListed current
  exact once.1

def cronQueue : Queue := ⟨.idle, none, 0, some 5, some "0 * * * *", some 3600, false⟩

def nextHour : Outside := ⟨some 7200, true⟩

def dueItem : List Action := [.createItem 1 .prompt none none, .elapse 3600]

def firedAndDrained (syncing : Nat) : List Action :=
  List.replicate 8 (.statement 0 nextHour) ++ [.syncItemFromTask 0 .completed] ++
    List.replicate 8 (.statement syncing nextHour)

theorem fires_once_firedAndDrained :
    RunLib.occurrences step (fires 3600) (initial cronQueue)
      (dueItem ++ [.tickAll] ++ firedAndDrained 1 ++ [.tickAll, .statement 2 nextHour]) ≤ 1 :=
  fires_once cronQueue _ (by decide) 3600

def twoTicks : List Action :=
  dueItem ++ [.tickAll, .tickAll, .statement 1 nextHour] ++ firedAndDrained 2

theorem fires_twice_twoTicks :
    RunLib.occurrences step (fires 3600) (initial cronQueue)
      (twoTicks ++ [.statement 1 nextHour]) = 2 := by
  decide

end MulticaOS.WorkQueue
