import MulticaOS.Snapshots.SingleFlight

/-!
What one step of the pipeline can do, seen from one goroutine and from the queue, and what no
step changes.
-/

namespace MulticaOS.Snapshots

/-- The ways in which a step takes a goroutine from one phase to another. -/
inductive Leads (manager next : Manager) : Phase → Phase → Prop
  | take {address : Address} {others : List Address} (stored : manager.queue = address :: others)
      (left : next.queue = others) : Leads manager next .idle (.took address)
  | stop (stops : manager.cancelled = true) : Leads manager next .idle .returned
  | clear {address : Address} : Leads manager next (.took address) (.cleared address)
  | hold {address : Address} (limited : pause manager address.installationID ≠ 0) :
      Leads manager next (.took address) .idle
  | mark {address : Address} : Leads manager next (.cleared address) (.jittering address)
  | fetch {address : Address} (said : next.history = .fetched address :: manager.history) :
      Leads manager next (.jittering address) (.fetching address)
  | wake {address : Address} (stops : manager.cancelled = true) :
      Leads manager next (.jittering address) (.ended address)
  | respond {address : Address} : Leads manager next (.fetching address) (.ended address)
  | again {address : Address} (edge : manager.trailing address = true) :
      Leads manager next (.ended address) (.sending true address)
  | finish {address : Address} (edge : manager.trailing address = false) :
      Leads manager next (.ended address) .idle
  | send {address : Address} {worker : Bool} (room : manager.queue.length < manager.capacity)
      (stored : next.queue = manager.queue ++ [address]) :
      Leads manager next (.sending worker address) (rest worker)
  | full {address : Address} {worker : Bool} :
      Leads manager next (.sending worker address) (.releasing worker true address)
  | release {address : Address} {worker full : Bool}
      (said : full = true → next.history = .dropped address :: manager.history) :
      Leads manager next (.releasing worker full address) (rest worker)
  | fire {address : Address} {due : Nat} : Leads manager next (.deferred due address) (.sending false address)
  | abandon {address : Address} {due : Nat} (stops : manager.cancelled = true) :
      Leads manager next (.deferred due address) (.releasing false false address)
  | retry {address : Address} {due : Nat} {phase : Phase} : Leads manager next (.retrying due address) phase

section Steps

variable {manager : Manager} {index : Nat} {phase : Phase}

theorem become_get {changed : Manager} {position : Nat} {next : Phase}
    (same : changed.goroutines = manager.goroutines) (here : manager.goroutines[index]? = some phase)
    (leads : position = index → Leads manager (become changed position next) phase next) :
    (become changed position next).goroutines[index]? = some phase ∨
      ∃ later, (become changed position next).goroutines[index]? = some later ∧
        Leads manager (become changed position next) phase later := by
  by_cases moved : position = index
  · refine Or.inr ⟨next, ?_, leads moved⟩
    subst moved
    have bound := (List.getElem?_eq_some_iff.mp here).1
    show (changed.goroutines.set position next)[position]? = some next
    rw [same, List.getElem?_set_self bound]
  · left
    show (changed.goroutines.set position next)[index]? = some phase
    rw [same, List.getElem?_set_ne moved, here]

theorem go_get (spawned : Phase) (here : manager.goroutines[index]? = some phase) :
    (go manager spawned).goroutines[index]? = some phase :=
  (List.getElem?_append_left (List.getElem?_eq_some_iff.mp here).1).trans here

theorem step_leads (action : Action) (here : manager.goroutines[index]? = some phase) :
    (step manager action).goroutines[index]? = some phase ∨
      ∃ later, (step manager action).goroutines[index]? = some later ∧
        Leads manager (step manager action) phase later := by
  have found : ∀ {position : Nat} {other : Phase}, manager.goroutines[position]? = some other →
      position = index → other = phase := fun there same => by
    rw [same, here] at there
    exact (Option.some.inj there).symm
  cases action with
  | enqueue address =>
      left
      refine go_get _ ?_
      rw [(enqueue_narrow manager address).goroutines]
      exact here
  | tick seconds => exact Or.inl here
  | cancel => exact Or.inl here
  | stop position =>
      rw [step]
      split
      · rename_i there
        split
        · rename_i stops
          refine become_get rfl here fun same => ?_
          rw [← found there same]
          exact .stop stops
        · exact Or.inl here
      · exact Or.inl here
  | wake position =>
      rw [step]
      split
      · rename_i address there
        split
        · rename_i stops
          refine become_get rfl here fun same => ?_
          rw [← found there same]
          exact .wake stops
        · exact Or.inl here
      · exact Or.inl here
  | respond position outcome =>
      rw [step]
      split
      · rename_i address there
        have there' := process_get address outcome there
        have here' := process_get address outcome here
        by_cases moved : position = index
        · rw [← found there moved]
          subst moved
          exact Or.inr ⟨.ended address, List.getElem?_set_self (List.getElem?_eq_some_iff.mp there').1,
            .respond⟩
        · exact Or.inl ((List.getElem?_set_ne moved).trans here')
      · exact Or.inl here
  | proceed position =>
      rw [step, proceed]
      split
      · rename_i there
        split
        · exact Or.inl here
        · rename_i address others stored
          refine become_get rfl here fun same => ?_
          rw [← found there same]
          exact .take stored rfl
      · rename_i address there
        rw [rateLimitPause]
        split
        · refine become_get rfl here fun same => ?_
          rw [← found there same]
          exact .clear
        · rename_i limited
          rw [if_neg limited]
          by_cases moved : position = index
          · rw [← found there moved]
            subst moved
            exact Or.inr ⟨.idle, go_get _ (List.getElem?_set_self (List.getElem?_eq_some_iff.mp there).1),
              .hold limited⟩
          · exact Or.inl (go_get _ ((List.getElem?_set_ne moved).trans here))
      · rename_i address there
        refine become_get rfl here fun same => ?_
        rw [← found there same]
        exact .mark
      · rename_i address there
        refine become_get rfl here fun same => ?_
        rw [← found there same]
        exact .fetch rfl
      · rename_i address there
        rw [finish]
        split
        · rename_i edge
          refine become_get rfl here fun same => ?_
          rw [← found there same]
          exact .again edge
        · rename_i edge
          refine become_get rfl here fun same => ?_
          rw [← found there same]
          exact .finish (by simpa using edge)
      · rename_i worker address there
        rw [send]
        split
        · rename_i room
          refine become_get rfl here fun same => ?_
          rw [← found there same]
          exact .send room rfl
        · refine become_get rfl here fun same => ?_
          rw [← found there same]
          exact .full
      · rename_i worker full address there
        refine become_get rfl here fun same => ?_
        rw [← found there same]
        exact .release fun isFull => by rw [isFull]; rfl
      · rename_i due address there
        split
        · exact Or.inl here
        · split
          · rename_i stops
            refine become_get rfl here fun same => ?_
            rw [← found there same]
            exact .abandon stops
          · refine become_get rfl here fun same => ?_
            rw [← found there same]
            exact .fire
      · rename_i due address there
        split
        · exact Or.inl here
        · split
          · refine become_get rfl here fun same => ?_
            rw [← found there same]
            exact .retry
          · refine become_get (enqueue_narrow manager address).goroutines here fun same => ?_
            rw [← found there same]
            exact .retry
      · exact Or.inl here

def Takes (manager next : Manager) : Prop :=
  ∃ index head others, manager.queue = head :: others ∧ manager.goroutines[index]? = some .idle ∧
    next = become { manager with queue := others } index (.took head)

structure Frame (manager next : Manager) : Prop where
  capacity : next.capacity = manager.capacity
  now : manager.now ≤ next.now
  cancelled : manager.cancelled = true → next.cancelled = true

structure Still (manager next : Manager) : Prop where
  queue : next.queue = manager.queue
  capacity : next.capacity = manager.capacity
  now : next.now = manager.now
  cancelled : next.cancelled = manager.cancelled

structure Effect (manager next : Manager) : Prop where
  frame : Frame manager next
  queue : (∃ extra, next.queue = manager.queue ++ extra) ∨ Takes manager next

theorem Still.effect {manager next : Manager} (still : Still manager next) : Effect manager next where
  frame := ⟨still.capacity, Nat.le_of_eq still.now.symm, fun stops => still.cancelled.trans stops⟩
  queue := Or.inl ⟨[], by rw [still.queue, List.append_nil]⟩

theorem enqueue_still (manager : Manager) (address : Address) : Still manager (enqueue manager address).1 := by
  rw [enqueue]
  split
  · split
    · exact ⟨rfl, rfl, rfl, rfl⟩
    · exact ⟨rfl, rfl, rfl, rfl⟩
  · exact ⟨rfl, rfl, rfl, rfl⟩

theorem process_still (manager : Manager) (address : Address) (outcome : Outcome) :
    Still manager (process manager address outcome) := by
  cases outcome with
  | limited retryAfter =>
      rw [process, extendRateLimit]
      split
      · exact ⟨rfl, rfl, rfl, rfl⟩
      · exact ⟨rfl, rfl, rfl, rfl⟩
  | failed => exact ⟨rfl, rfl, rfl, rfl⟩
  | settled => exact ⟨rfl, rfl, rfl, rfl⟩
  | undecided =>
      rw [process, scheduleChase]
      split
      · exact ⟨rfl, rfl, rfl, rfl⟩
      · exact ⟨rfl, rfl, rfl, rfl⟩

theorem proceed_effect (manager : Manager) (index : Nat) : Effect manager (proceed manager index) := by
  have still : ∀ next : Manager, next.queue = manager.queue → next.capacity = manager.capacity →
      next.now = manager.now → next.cancelled = manager.cancelled → Effect manager next :=
    fun next queue capacity now cancelled => Still.effect ⟨queue, capacity, now, cancelled⟩
  rw [proceed]
  split
  · rename_i here
    split
    · exact still _ rfl rfl rfl rfl
    · rename_i head others stored
      exact ⟨⟨rfl, Nat.le_refl _, id⟩, Or.inr ⟨index, head, others, stored, here, rfl⟩⟩
  · rw [rateLimitPause]
    split
    · exact still _ rfl rfl rfl rfl
    · rename_i limited
      rw [if_neg limited]
      exact still _ rfl rfl rfl rfl
  · exact still _ rfl rfl rfl rfl
  · exact still _ rfl rfl rfl rfl
  · rw [finish]
    split
    · exact still _ rfl rfl rfl rfl
    · exact still _ rfl rfl rfl rfl
  · rename_i worker address here
    rw [send]
    split
    · exact ⟨⟨rfl, Nat.le_refl _, id⟩, Or.inl ⟨[address], rfl⟩⟩
    · exact still _ rfl rfl rfl rfl
  · exact still _ rfl rfl rfl rfl
  · split
    · exact still _ rfl rfl rfl rfl
    · split
      · exact still _ rfl rfl rfl rfl
      · exact still _ rfl rfl rfl rfl
  · rename_i due address here
    split
    · exact still _ rfl rfl rfl rfl
    · split
      · exact still _ rfl rfl rfl rfl
      · obtain ⟨queue, capacity, now, cancelled⟩ := enqueue_still manager address
        exact still _ queue capacity now cancelled
  · exact still _ rfl rfl rfl rfl

theorem step_effect (manager : Manager) (action : Action) : Effect manager (step manager action) := by
  have same : Effect manager manager := Still.effect ⟨rfl, rfl, rfl, rfl⟩
  cases action with
  | enqueue address =>
      obtain ⟨queue, capacity, now, cancelled⟩ := enqueue_still manager address
      exact Still.effect ⟨queue, capacity, now, cancelled⟩
  | proceed index => exact proceed_effect manager index
  | stop index =>
      rw [step]
      split
      · split
        · exact Still.effect ⟨rfl, rfl, rfl, rfl⟩
        · exact same
      · exact same
  | wake index =>
      rw [step]
      split
      · split
        · exact Still.effect ⟨rfl, rfl, rfl, rfl⟩
        · exact same
      · exact same
  | respond index outcome =>
      rw [step]
      split
      · rename_i address here
        obtain ⟨queue, capacity, now, cancelled⟩ := process_still manager address outcome
        exact Still.effect ⟨queue, capacity, now, cancelled⟩
      · exact same
  | tick seconds => exact ⟨⟨rfl, Nat.le_add_right _ _, id⟩, Or.inl ⟨[], (List.append_nil _).symm⟩⟩
  | cancel => exact ⟨⟨rfl, Nat.le_refl _, fun _ => rfl⟩, Or.inl ⟨[], (List.append_nil _).symm⟩⟩

end Steps

end MulticaOS.Snapshots
