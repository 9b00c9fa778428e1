import MulticaOS.WorkQueue

/-!
A paused queue while other callers are still on their way.  The guarded statements leave
it alone; `drainToIdle` writes the status whatever it is by then.
-/

namespace MulticaOS.WorkQueue

def Process.starts : Process → Bool
  | .setStarted _ => true
  | .setResumed => true
  | _ => false

def Process.drains : Process → Bool
  | .setIdle _ => true
  | _ => false

def Action.starts : Action → Bool
  | .start _ => true
  | .resume => true
  | _ => false

def drains (state : State) : Action → Bool
  | .statement index _ => (state.processes[index]?).any Process.drains
  | _ => false

def Paused (state : State) : Prop := state.queue.status = .paused

instance : DecidablePred Paused := fun state => inferInstanceAs (Decidable (state.queue.status = _))

def Unstarted (state : State) : Prop := ∀ process ∈ state.processes, process.starts = false

@[simp] theorem starts_dispatchNext (queue : Queue) (now : Nat) :
    (dispatchNext queue now).starts = false := by
  rw [dispatchNext]
  split <;> rfl

@[simp] theorem starts_tickQueue (queue : Queue) (now : Nat) (outside : Outside) :
    (tickQueue queue now outside).starts = false := by
  rw [tickQueue]
  split
  · rfl
  · split
    · split <;> rfl
    · exact starts_dispatchNext queue now

@[simp] theorem starts_syncItem (item : Item) (status : TaskStatus) :
    (syncItem item status).starts = false := by
  cases status <;> rfl

@[simp] theorem starts_drainedCron (queue : Queue) (outside : Outside) :
    (drainedCron queue outside).starts = false := by
  rw [drainedCron]
  repeat' split
  all_goals rfl

@[simp] theorem starts_dispatchItem (queue : Queue) (item : Item) :
    (dispatchItem queue item).starts = false := by
  rw [dispatchItem]
  split
  · rfl
  · split <;> rfl

theorem starts_advance (state : State) (outside : Outside) (process : Process) :
    (advance state outside process).2.starts = false := by
  cases process <;> simp only [advance]
  all_goals repeat' split
  all_goals first | rfl | simp

theorem paused_advance {state : State} {process : Process} (outside : Outside)
    (paused : Paused state) (other : process.starts = false) :
    Paused (advance state outside process).1 ↔ process.drains = false := by
  rw [Paused] at paused
  cases process with
  | setStarted startAt => contradiction
  | setResumed => contradiction
  | setIdle queue => simp [advance, Paused, setWorkQueueStatus, Process.drains]
  | setPaused => simp [advance, Paused, setWorkQueueStatus, Process.drains]
  | markScheduledStarted queue now => simp [advance, Paused, paused, Process.drains]
  | markCronFired queue now next => simp [advance, Paused, paused, Process.drains]
  | _ =>
      refine iff_of_true ?_ rfl
      simp only [advance]
      repeat' split
      all_goals exact paused

theorem call_unstarted {state : State} {process : Process} (unstarted : Unstarted state)
    (other : process.starts = false) : Unstarted (call state process) := by
  intro listed member
  rcases List.mem_append.mp member with old | new
  · exact unstarted listed old
  · rw [List.mem_singleton.mp new]
    exact other

theorem set_unstarted {state next : State} {index : Nat} {process : Process}
    (unstarted : Unstarted state) (other : process.starts = false)
    (processes : next.processes = state.processes.set index process) : Unstarted next := by
  intro listed member
  rw [processes] at member
  rcases List.mem_or_eq_of_mem_set member with old | rfl
  · exact unstarted listed old
  · exact other

theorem step_unstarted (state : State) (action : Action) (other : action.starts = false)
    (unstarted : Unstarted state) : Unstarted (step state action) := by
  cases action with
  | start startAt => contradiction
  | resume => contradiction
  | tickAll => exact call_unstarted unstarted rfl
  | syncItemFromTask task status => exact call_unstarted unstarted rfl
  | pause =>
      simp only [step]
      split
      · exact call_unstarted unstarted rfl
      · exact unstarted
  | statement index outside =>
      simp only [step]
      split
      · exact unstarted
      · exact set_unstarted unstarted (starts_advance state outside _) rfl
  | fault index => exact set_unstarted unstarted rfl rfl
  | _ => exact unstarted

theorem step_paused (state : State) (action : Action) (other : action.starts = false)
    (unstarted : Unstarted state) (paused : Paused state) :
    Paused (step state action) ↔ drains state action = false := by
  cases action with
  | start startAt => contradiction
  | resume => contradiction
  | statement index outside =>
      simp only [step, drains]
      cases found : state.processes[index]? with
      | none => exact iff_of_true paused rfl
      | some process =>
          have listed := unstarted process (List.mem_of_getElem? found)
          exact paused_advance outside paused listed
  | pause =>
      refine iff_of_true ?_ rfl
      simp only [step]
      split <;> exact paused
  | _ => exact iff_of_true paused rfl

/-- Once `Pause` has written its status, the queue stays paused until the next `Start` or
`Resume` exactly when no caller still on its way drains the queue. -/
theorem paused_until_started_iff (before : State) (pausing : Nat) (outside : Outside)
    (actions : List Action) (pause : before.processes[pausing]? = some .setPaused)
    (unstarted : ∀ process ∈ before.processes, process.starts = false)
    (others : ∀ action ∈ actions, action.starts = false) :
    RunLib.Always step Paused (step before (.statement pausing outside)) actions ↔
      RunLib.Every step (fun state action => drains state action = false)
        (step before (.statement pausing outside)) actions := by
  have after := step_unstarted before (.statement pausing outside) rfl unstarted
  have paused : Paused (step before (.statement pausing outside)) := by
    simp only [step, pause]
    rfl
  exact RunLib.always_iff_every_among after paused others
    (fun state action other kept => step_unstarted state action other kept) step_paused

def emptyTick : List Action :=
  [.start none, .statement 0 answer, .tickAll, .statement 1 answer, .statement 1 answer,
    .statement 1 answer, .statement 1 answer, .pause]

theorem paused_until_started_emptyTick :
    RunLib.Always step Paused
      (step (RunLib.run step (initial plainQueue) emptyTick) (.statement 2 answer))
      [.statement 0 answer, .tickAll, .statement 3 answer] :=
  (paused_until_started_iff _ 2 answer _ rfl (by decide) (by decide)).mpr (by decide)

theorem paused_drained_emptyTick :
    ¬ RunLib.Always step Paused
      (step (RunLib.run step (initial plainQueue) emptyTick) (.statement 2 answer))
      [.statement 1 answer] := by
  decide

end MulticaOS.WorkQueue
