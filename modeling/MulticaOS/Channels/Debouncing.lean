import Mathlib
import MulticaOS.Lib.Caches
import MulticaOS.Lib.Lists
import MulticaOS.Lib.Runs
import MulticaOS.Lib.Threads

/-!
The debouncer of the runs that inbound messages trigger: `Schedule` calls, timer callbacks and one
`FlushAll`, with every critical section one step and every call of a flush closure two.
-/

namespace MulticaOS.Channels.Debouncing

open CacheLib ThreadLib

variable {Key : Type} [DecidableEq Key]

/-- Timers and closures are numbered: the closure that a `Schedule` call passes has the number of the
call, and a timer the number of timers before it. -/
structure PendingEntry where
  timer : Nat
  flush : Nat
  gen : Nat
  deriving DecidableEq

structure PendingBatcher (Key : Type) where
  pending : Cache Key PendingEntry
  seq : Nat
  stopped : Bool
  inflight : Nat

structure Timer (Key : Type) where
  key : Key
  gen : Nat
  stopped : Bool
  fired : Bool

def Timer.stop (timer : Timer Key) : Timer Key := { timer with stopped := true }

def Timer.fire (timer : Timer Key) : Timer Key := { timer with fired := true }

inductive Operation
  | start (call : Nat)
  | finish (call : Nat)
  | done
  | wait
  deriving DecidableEq

/-- The goroutines that run closures: callers of `Schedule`, timer callbacks, the caller of `FlushAll`. -/
inductive Owner
  | delivery
  | timer
  | shutdown
  deriving DecidableEq

/-- `calls` lists the keys of the `Schedule` calls so far; `started` and `finished` the closures that have
been called and that have returned; `drained` is the number of calls before the critical section of
`FlushAll`, and `returned` tells that it has returned. -/
structure State (Key : Type) where
  batcher : PendingBatcher Key
  timers : List (Timer Key)
  threads : List (Thread Owner Operation)
  calls : List Key
  started : List Nat
  finished : List Nat
  drained : Option Nat
  returned : Bool

def initial : State Key :=
  { batcher := ⟨UpsertLib.Table.empty, 0, false, 0⟩, timers := [], threads := [], calls := [],
    started := [], finished := [], drained := none, returned := false }

def stopReplaced (found : Option PendingEntry) (timers : List (Timer Key)) : List (Timer Key) :=
  match found with
  | some entry => timers.modify entry.timer Timer.stop
  | none => timers

def schedule (state : State Key) (key : Key) : State Key :=
  let call := state.calls.length
  if state.batcher.stopped then
    { state with
      calls := state.calls ++ [key]
      threads := spawn .delivery [.start call] state.threads }
  else
    let gen := (state.batcher.seq + 1) % 2 ^ 64
    { state with
      calls := state.calls ++ [key]
      timers := stopReplaced (get state.batcher.pending key) state.timers ++ [⟨key, gen, false, false⟩]
      batcher :=
        { state.batcher with
          seq := gen
          pending := set state.batcher.pending key ⟨state.timers.length, call, gen⟩ } }

def onFire (state : State Key) (key : Key) (gen : Nat) : State Key :=
  match get state.batcher.pending key with
  | none => state
  | some entry =>
      if state.batcher.stopped || entry.gen ≠ gen then state
      else
        { state with
          batcher :=
            { state.batcher with
              pending := remove state.batcher.pending key
              inflight := state.batcher.inflight + 1 }
          threads := spawn .timer [.start entry.flush, .done] state.threads }

def fire (state : State Key) (index : Nat) : State Key :=
  match state.timers[index]? with
  | none => state
  | some timer =>
      if timer.fired then state
      else onFire { state with timers := state.timers.modify index Timer.fire } timer.key timer.gen

/-- The critical section of `FlushAll`, which walks the map in some order. -/
def flushAll (state : State Key) (entries : List PendingEntry) : State Key :=
  if state.drained = none ∧ entries.Perm (state.batcher.pending.rows.map Prod.snd) then
    { state with
      batcher := { state.batcher with stopped := true, pending := UpsertLib.Table.empty }
      timers := entries.foldl (fun timers entry => timers.modify entry.timer Timer.stop) state.timers
      threads := spawn .shutdown (entries.map (fun entry => .start entry.flush) ++ [.wait]) state.threads
      drained := some state.calls.length }
  else state

/-- A step of a goroutine outside the critical sections. `inflight.Wait` blocks until the count is zero. -/
def advance (state : State Key) (index : Nat) : State Key :=
  match current state.threads index with
  | none => state
  | some (.start call) =>
      { state with
        threads := proceed state.threads index [.finish call]
        started := state.started ++ [call] }
  | some (.finish call) =>
      { state with
        threads := proceed state.threads index []
        finished := state.finished ++ [call] }
  | some .done =>
      { state with
        threads := proceed state.threads index []
        batcher := { state.batcher with inflight := state.batcher.inflight - 1 } }
  | some .wait =>
      if state.batcher.inflight = 0 then
        { state with threads := proceed state.threads index [], returned := true }
      else state

inductive Action (Key : Type)
  | schedule (key : Key)
  | fire (timer : Nat)
  | flushAll (entries : List PendingEntry)
  | advance (goroutine : Nat)

def step (state : State Key) : Action Key → State Key
  | .schedule key => schedule state key
  | .fire timer => fire state timer
  | .flushAll entries => flushAll state entries
  | .advance goroutine => advance state goroutine

def Numbered (timers : List (Timer Key)) : Prop :=
  ∀ index timer, timers[index]? = some timer → timer.gen = (index + 1) % 2 ^ 64

/-- Where a goroutine can stand: the caller of a stopped batcher runs its own closure, a callback still
has to count itself out, and `FlushAll` still has to wait. -/
def Owned (drained : Option Nat) (thread : Thread Owner Operation) : Prop :=
  match thread.owner with
  | .delivery =>
      ∃ call limit, drained = some limit ∧ limit ≤ call ∧
        (thread.todo = [.start call] ∨ thread.todo = [.finish call])
  | .timer => thread.todo.getLast? = some .done ∧ .wait ∉ thread.todo
  | .shutdown => drained.isSome = true ∧ thread.todo.getLast? = some .wait

def Placed (state : State Key) (key : Key) (flush : Nat) : Prop :=
  flush ∈ state.started ∨ .start flush ∈ operations state.threads ∨
    ∃ entry, get state.batcher.pending key = some entry ∧ entry.flush = flush

structure Sound (state : State Key) : Prop where
  single : ∀ call, (operations state.threads).count (.start call) + state.started.count call ≤ 1
  scheduled : ∀ call, .start call ∈ operations state.threads ∨ call ∈ state.started →
    call < state.calls.length
  armed : ∀ key entry, get state.batcher.pending key = some entry →
    state.calls[entry.flush]? = some key ∧ .start entry.flush ∉ operations state.threads ∧
      entry.flush ∉ state.started ∧ state.timers[entry.timer]? = some ⟨key, entry.gen, false, false⟩
  covered : ∀ call key, state.calls[call]? = some key → ∃ flush, call ≤ flush ∧
    state.calls[flush]? = some key ∧ Placed state key flush ∧
      ∀ limit, state.drained = some limit → call < limit → flush < limit
  running : ∀ call ∈ state.started, call ∈ state.finished ∨ .finish call ∈ operations state.threads
  inflight : state.batcher.inflight = (operations state.threads).count .done
  owned : ∀ thread ∈ state.threads, Owned state.drained thread
  waiting : (operations state.threads).count .wait =
    if state.drained.isSome && !state.returned then 1 else 0
  stops : state.batcher.stopped = state.drained.isSome
  emptied : state.drained.isSome = true → ∀ key, get state.batcher.pending key = none
  limited : ∀ limit, state.drained = some limit → limit ≤ state.calls.length
  settled : state.returned = true → state.drained.isSome = true ∧ state.batcher.inflight = 0
  numbered : Numbered state.timers
  seq : state.batcher.seq = state.timers.length % 2 ^ 64

section Numbering

omit [DecidableEq Key]

theorem numbered_modify {timers : List (Timer Key)} (change : Timer Key → Timer Key)
    (keeps : ∀ timer, (change timer).gen = timer.gen) (numbered : Numbered timers) (index : Nat) :
    Numbered (timers.modify index change) := by
  intro place timer found
  rw [List.getElem?_modify, Option.map_eq_map, Option.map_eq_some_iff] at found
  obtain ⟨old, listed, rfl⟩ := found
  rw [← numbered place old listed]
  split
  · exact keeps old
  · rfl

theorem numbered_stopped {timers : List (Timer Key)} (numbered : Numbered timers)
    (entries : List PendingEntry) :
    Numbered (entries.foldl (fun timers entry => timers.modify entry.timer Timer.stop) timers) := by
  induction entries generalizing timers with
  | nil => exact numbered
  | cons entry rest ih => exact ih (numbered_modify Timer.stop (fun _ => rfl) numbered entry.timer)

theorem length_stopped (timers : List (Timer Key)) (entries : List PendingEntry) :
    (entries.foldl (fun timers entry => timers.modify entry.timer Timer.stop) timers).length =
      timers.length := by
  induction entries generalizing timers with
  | nil => rfl
  | cons entry rest ih =>
      rw [List.foldl_cons, ih]
      exact List.length_modify ..

@[simp] theorem length_stopReplaced (found : Option PendingEntry) (timers : List (Timer Key)) :
    (stopReplaced found timers).length = timers.length := by
  cases found with
  | none => rfl
  | some entry => exact List.length_modify ..

theorem numbered_stopReplaced {timers : List (Timer Key)} (numbered : Numbered timers)
    (found : Option PendingEntry) : Numbered (stopReplaced found timers) := by
  cases found with
  | none => exact numbered
  | some entry => exact numbered_modify Timer.stop (fun _ => rfl) numbered entry.timer

end Numbering

theorem initial_sound : Sound (initial : State Key) where
  single call := by simp [initial]
  scheduled call placed := by simp [initial] at placed
  armed key entry found := by simp [initial] at found
  covered call key called := by simp [initial] at called
  running call started := by simp [initial] at started
  inflight := rfl
  owned thread member := by simp [initial] at member
  waiting := rfl
  stops := rfl
  emptied drained := by simp [initial] at drained
  limited limit drained := by simp [initial] at drained
  settled returned := by simp [initial] at returned
  numbered index timer found := by simp [initial] at found
  seq := rfl

section Scheduling

variable {state : State Key} {key : Key}

theorem single_spawn (sound : Sound state) (owner : Owner) (begun : List Operation)
    (once : ∀ call, begun.count (.start call) ≤ 1)
    (fresh : ∀ call, .start call ∈ begun → .start call ∉ operations state.threads ∧ call ∉ state.started)
    (call : Nat) :
    (operations (spawn owner begun state.threads)).count (.start call) + state.started.count call ≤ 1 := by
  have before := sound.single call
  have own := once call
  rw [operations_spawn, List.count_append]
  by_cases new : .start call ∈ begun
  · rw [List.count_eq_zero.mpr (fresh call new).1, List.count_eq_zero.mpr (fresh call new).2]
    exact own
  · rw [List.count_eq_zero.mpr new]
    omega

theorem scheduled_spawn (sound : Sound state) (owner : Owner) (begun : List Operation) {bound call : Nat}
    (grows : state.calls.length ≤ bound) (below : ∀ call, .start call ∈ begun → call < bound)
    (placed : .start call ∈ operations (spawn owner begun state.threads) ∨ call ∈ state.started) :
    call < bound := by
  rcases placed with listed | started
  · rw [operations_spawn] at listed
    rcases List.mem_append.mp listed with own | old
    · exact below call own
    · exact Nat.lt_of_lt_of_le (sound.scheduled call (Or.inl old)) grows
  · exact Nat.lt_of_lt_of_le (sound.scheduled call (Or.inr started)) grows

theorem running_spawn (sound : Sound state) (owner : Owner) (begun : List Operation) :
    ∀ call ∈ state.started,
      call ∈ state.finished ∨ .finish call ∈ operations (spawn owner begun state.threads) := by
  intro call started
  rw [operations_spawn]
  exact (sound.running call started).imp_right (List.mem_append_right begun)

theorem sound_schedule_inline (sound : Sound state) (stopped : state.batcher.stopped = true) :
    Sound (schedule state key) := by
  have drained : state.drained.isSome = true := sound.stops.symm.trans stopped
  rw [schedule, if_pos stopped]
  refine
    { sound with single := ?_, scheduled := ?_, armed := ?_, covered := ?_, running := ?_, inflight := ?_
                 owned := ?_, waiting := ?_, limited := ?_ }
  · refine single_spawn sound .delivery [.start state.calls.length] (fun call => ?_) fun call new => ?_
    · exact List.count_le_length
    · obtain rfl := Operation.start.inj (List.mem_singleton.mp new)
      exact ⟨fun listed => Nat.lt_irrefl _ (sound.scheduled _ (Or.inl listed)),
        fun started => Nat.lt_irrefl _ (sound.scheduled _ (Or.inr started))⟩
  · intro call placed
    simp only [List.length_append, List.length_singleton]
    refine scheduled_spawn sound .delivery [.start state.calls.length] (Nat.le_succ _) (fun other new => ?_) placed
    exact Operation.start.inj (List.mem_singleton.mp new) ▸ Nat.lt_succ_self _
  · intro other entry found
    rw [sound.emptied drained other] at found
    contradiction
  · intro call wanted called
    rcases ListLib.getElem?_concat_some called with before | ⟨rfl, rfl⟩
    · obtain ⟨flush, later, same, placed, within⟩ := sound.covered call wanted before
      refine ⟨flush, later, ListLib.getElem?_append_of_some same, ?_, within⟩
      rcases placed with started | listed | pending
      · exact Or.inl started
      · refine Or.inr (Or.inl ?_)
        rw [operations_spawn]
        exact List.mem_append_right _ listed
      · exact Or.inr (Or.inr pending)
    · refine ⟨state.calls.length, Nat.le_refl _, called, Or.inr (Or.inl ?_), fun limit _ below => below⟩
      rw [operations_spawn]
      exact List.mem_append_left _ List.mem_cons_self
  · exact running_spawn sound .delivery [.start state.calls.length]
  · simpa [operations_spawn] using sound.inflight
  · intro thread member
    have listed : thread ∈ spawn .delivery [.start state.calls.length] state.threads := member
    rcases mem_spawn listed with rfl | old
    · obtain ⟨limit, found⟩ := Option.isSome_iff_exists.mp drained
      exact ⟨state.calls.length, limit, found, sound.limited limit found, Or.inl rfl⟩
    · exact sound.owned thread old
  · simpa [operations_spawn] using sound.waiting
  · intro limit found
    have before := sound.limited limit found
    simp only [List.length_append]
    omega

theorem sound_schedule_armed (sound : Sound state) (live : state.batcher.stopped = false) :
    Sound (schedule state key) := by
  have running : state.drained = none := by
    rw [← Option.not_isSome_iff_eq_none, ← sound.stops, live]
    simp
  rw [schedule, if_neg (by simp [live])]
  refine
    { sound with scheduled := ?_, armed := ?_, covered := ?_, emptied := ?_, limited := ?_
                 numbered := ?_, seq := ?_ }
  · intro call placed
    have before := sound.scheduled call placed
    simp only [List.length_append]
    omega
  · intro other entry found
    by_cases same : other = key
    · subst same
      rw [get_set_self, Option.some.injEq] at found
      subst found
      refine ⟨by simp, fun listed => ?_, fun started => ?_, ?_⟩
      · exact Nat.lt_irrefl _ (sound.scheduled _ (Or.inl listed))
      · exact Nat.lt_irrefl _ (sound.scheduled _ (Or.inr started))
      · simp
    · rw [get_set_ne same] at found
      obtain ⟨called, unlisted, unstarted, timer⟩ := sound.armed other entry found
      refine ⟨ListLib.getElem?_append_of_some called, unlisted, unstarted,
        ListLib.getElem?_append_of_some ?_⟩
      cases replaced : get state.batcher.pending key with
      | none => exact timer
      | some old =>
          have oldTimer := (sound.armed key old replaced).2.2.2
          have apart : old.timer ≠ entry.timer := by
            intro clash
            rw [clash, timer, Option.some.injEq, Timer.mk.injEq] at oldTimer
            exact same oldTimer.1
          simp only [stopReplaced]
          rw [List.getElem?_modify_ne _ _ apart]
          exact timer
  · intro call wanted called
    have unlimited : ∀ flush limit, state.drained = some limit → call < limit → flush < limit := by
      simp [running]
    rcases ListLib.getElem?_concat_some called with before | ⟨rfl, rfl⟩
    · obtain ⟨flush, later, same, placed, -⟩ := sound.covered call wanted before
      have renewed := sound.scheduled
      rcases placed with started | listed | ⟨entry, found, rfl⟩
      · exact ⟨flush, later, ListLib.getElem?_append_of_some same, Or.inl started, unlimited flush⟩
      · exact ⟨flush, later, ListLib.getElem?_append_of_some same, Or.inr (Or.inl listed), unlimited flush⟩
      · by_cases replaced : wanted = key
        · subst replaced
          have below := (List.getElem?_eq_some_iff.mp before).1
          refine ⟨state.calls.length, Nat.le_of_lt below, by simp, ?_, unlimited _⟩
          exact Or.inr (Or.inr ⟨_, get_set_self, rfl⟩)
        · refine ⟨entry.flush, later, ListLib.getElem?_append_of_some same, ?_, unlimited _⟩
          exact Or.inr (Or.inr ⟨entry, (get_set_ne replaced).trans found, rfl⟩)
    · exact ⟨state.calls.length, Nat.le_refl _, called, Or.inr (Or.inr ⟨_, get_set_self, rfl⟩),
        unlimited _⟩
  · simp [running]
  · simp [running]
  · intro index timer found
    rw [List.getElem?_append] at found
    split at found
    · exact numbered_stopReplaced sound.numbered _ index timer found
    · rw [List.getElem?_singleton] at found
      split at found
      · rw [Option.some.injEq] at found
        rw [← found]
        rename_i position
        simp only [length_stopReplaced] at *
        have place : index = state.timers.length := by omega
        rw [place, sound.seq]
        omega
      · contradiction
  · simp only [List.length_append, length_stopReplaced, List.length_singleton, sound.seq]
    omega

theorem sound_schedule (sound : Sound state) (key : Key) : Sound (schedule state key) := by
  cases stopped : state.batcher.stopped with
  | true => exact sound_schedule_inline sound stopped
  | false => exact sound_schedule_armed sound stopped

end Scheduling

section Firing

variable {state : State Key} {index : Nat} {timer : Timer Key} {entry : PendingEntry}

def marked (state : State Key) (index : Nat) : State Key :=
  { state with timers := state.timers.modify index Timer.fire }

def handed (state : State Key) (index : Nat) (key : Key) (entry : PendingEntry) : State Key :=
  { marked state index with
    batcher :=
      { state.batcher with
        pending := remove state.batcher.pending key
        inflight := state.batcher.inflight + 1 }
    threads := spawn .timer [.start entry.flush, .done] state.threads }

theorem fire_stale (found : state.timers[index]? = some timer) (unfired : timer.fired = false)
    (stale : ∀ entry, get state.batcher.pending timer.key = some entry → entry.gen ≠ timer.gen) :
    fire state index = marked state index := by
  simp only [fire, found, unfired, onFire, Bool.false_eq_true, if_false]
  cases pending : get state.batcher.pending timer.key with
  | none => rfl
  | some entry => simp [stale entry pending, marked]

theorem fire_live (sound : Sound state) (found : state.timers[index]? = some timer)
    (unfired : timer.fired = false) (pending : get state.batcher.pending timer.key = some entry)
    (same : entry.gen = timer.gen) : fire state index = handed state index timer.key entry := by
  have live : state.batcher.stopped = false := by
    by_contra stopped
    rw [sound.emptied (sound.stops ▸ by simpa using stopped)] at pending
    contradiction
  simp only [fire, found, unfired, onFire, pending, Bool.false_eq_true, if_false]
  simp [live, same, handed, marked]

theorem fire_cases (sound : Sound state) (index : Nat) :
    fire state index = state ∨
    (fire state index = marked state index ∧
      ∀ key entry, get state.batcher.pending key = some entry → entry.timer ≠ index) ∨
    ∃ timer entry, state.timers[index]? = some timer ∧
      get state.batcher.pending timer.key = some entry ∧ entry.gen = timer.gen ∧
      fire state index = handed state index timer.key entry := by
  cases found : state.timers[index]? with
  | none => exact Or.inl (by rw [fire, found])
  | some timer =>
      cases fired : timer.fired with
      | true => exact Or.inl (by simp [fire, found, fired])
      | false =>
          by_cases live : ∃ entry, get state.batcher.pending timer.key = some entry ∧
              entry.gen = timer.gen
          · obtain ⟨entry, pending, same⟩ := live
            exact Or.inr (Or.inr ⟨timer, entry, rfl, pending, same,
              fire_live sound found fired pending same⟩)
          · have stale : ∀ entry, get state.batcher.pending timer.key = some entry →
                entry.gen ≠ timer.gen := fun entry pending same => live ⟨entry, pending, same⟩
            refine Or.inr (Or.inl ⟨fire_stale found fired stale, ?_⟩)
            rintro key entry pending rfl
            have own := (sound.armed key entry pending).2.2.2
            rw [own, Option.some.injEq] at found
            subst found
            exact stale entry pending rfl

theorem sound_marked (sound : Sound state)
    (free : ∀ key entry, get state.batcher.pending key = some entry → entry.timer ≠ index) :
    Sound (marked state index) := by
  refine { sound with armed := ?_, numbered := ?_, seq := ?_ }
  · intro key entry pending
    obtain ⟨called, unlisted, unstarted, timer⟩ := sound.armed key entry pending
    refine ⟨called, unlisted, unstarted, ?_⟩
    simp only [marked]
    rw [List.getElem?_modify_ne _ _ (free key entry pending).symm]
    exact timer
  · exact numbered_modify Timer.fire (fun _ => rfl) sound.numbered index
  · simpa [marked] using sound.seq

theorem sound_handed (sound : Sound state) (found : state.timers[index]? = some timer)
    (pending : get state.batcher.pending timer.key = some entry) :
    Sound (handed state index timer.key entry) := by
  obtain ⟨called, unlisted, unstarted, -⟩ := sound.armed timer.key entry pending
  have running : ¬state.drained.isSome = true := by
    intro drained
    rw [sound.emptied drained] at pending
    contradiction
  refine
    { sound with single := ?_, scheduled := ?_, armed := ?_, covered := ?_, running := ?_, inflight := ?_
                 owned := ?_, waiting := ?_, emptied := ?_, settled := ?_, numbered := ?_, seq := ?_ }
  · refine single_spawn sound .timer [.start entry.flush, .done] (fun call => ?_) fun call new => ?_
    · by_cases own : entry.flush = call <;> simp [own]
    · obtain rfl : call = entry.flush := by simpa using new
      exact ⟨unlisted, unstarted⟩
  · intro call placed
    refine scheduled_spawn sound .timer [.start entry.flush, .done] (Nat.le_refl _) (fun other new => ?_) placed
    obtain rfl : other = entry.flush := by simpa using new
    exact (List.getElem?_eq_some_iff.mp called).1
  · intro key other kept
    by_cases same : key = timer.key
    · rw [same] at kept
      simp [handed, get_remove_self] at kept
    · have before : get state.batcher.pending key = some other := (get_remove_ne same).symm.trans kept
      obtain ⟨otherCalled, otherUnlisted, otherUnstarted, otherTimer⟩ := sound.armed key other before
      refine ⟨otherCalled, ?_, otherUnstarted, ?_⟩
      · simp only [handed, operations_spawn, List.mem_append, not_or]
        refine ⟨?_, otherUnlisted⟩
        have apart : other.flush ≠ entry.flush := by
          intro clash
          rw [clash, called, Option.some.injEq] at otherCalled
          exact same otherCalled.symm
        simp [apart]
      · have apart : index ≠ other.timer := by
          intro clash
          rw [clash, otherTimer, Option.some.injEq] at found
          exact same (congrArg Timer.key found)
        simp only [handed, marked]
        rw [List.getElem?_modify_ne _ _ apart]
        exact otherTimer
  · intro call key wanted
    obtain ⟨flush, later, same, placed, within⟩ := sound.covered call key wanted
    refine ⟨flush, later, same, ?_, within⟩
    simp only [Placed, handed, operations_spawn, List.mem_append]
    rcases placed with started | listed | ⟨other, kept, rfl⟩
    · exact Or.inl started
    · exact Or.inr (Or.inl (Or.inr listed))
    · by_cases own : key = timer.key
      · rw [own, pending, Option.some.injEq] at kept
        subst kept
        exact Or.inr (Or.inl (Or.inl List.mem_cons_self))
      · exact Or.inr (Or.inr ⟨other, (get_remove_ne own).trans kept, rfl⟩)
  · exact running_spawn sound .timer [.start entry.flush, .done]
  · have before := sound.inflight
    simp only [handed, operations_spawn, List.count_append]
    have own : [Operation.start entry.flush, .done].count .done = 1 := by simp
    omega
  · intro thread member
    have listed : thread ∈ spawn .timer [.start entry.flush, .done] state.threads := member
    rcases mem_spawn listed with rfl | old
    · exact ⟨rfl, by simp⟩
    · exact sound.owned thread old
  · simpa [handed, marked] using sound.waiting
  · exact fun drained => absurd drained running
  · exact fun returned => absurd (sound.settled returned).1 running
  · exact numbered_modify Timer.fire (fun _ => rfl) sound.numbered index
  · simpa [handed, marked] using sound.seq

theorem sound_fire (sound : Sound state) (index : Nat) : Sound (fire state index) := by
  rcases fire_cases sound index with same | ⟨same, free⟩ | ⟨timer, entry, found, pending, -, same⟩
  · rw [same]
    exact sound
  · rw [same]
    exact sound_marked sound free
  · rw [same]
    exact sound_handed sound found pending

end Firing

section Flushing

variable {state : State Key} {entries : List PendingEntry}

theorem flushes_nodup (sound : Sound state) :
    (state.batcher.pending.rows.map fun row => row.2.flush).Nodup := by
  have keyed : (state.batcher.pending.rows.map fun row => row.2.flush).map (fun call => state.calls[call]?) =
      (state.batcher.pending.rows.map Prod.fst).map some := by
    rw [List.map_map, List.map_map]
    refine List.map_congr_left fun row listed => ?_
    exact (sound.armed row.1 row.2 (mem_rows.mp listed)).1
  have unique : ((state.batcher.pending.rows.map Prod.fst).map some).Nodup :=
    state.batcher.pending.unique.map (Option.some_injective Key)
  rw [← keyed] at unique
  exact unique.of_map _

theorem count_entries (call : Nat) :
    (entries.map fun entry => Operation.start entry.flush).count (.start call) =
      (entries.map PendingEntry.flush).count call := by
  have starts : (entries.map fun entry => Operation.start entry.flush) =
      (entries.map PendingEntry.flush).map Operation.start := by
    rw [List.map_map]
    rfl
  rw [starts]
  exact List.count_map_of_injective _ _ (fun _ _ same => Operation.start.inj same) call

theorem sound_flushAll (sound : Sound state) (entries : List PendingEntry) :
    Sound (flushAll state entries) := by
  rw [flushAll]
  split
  · rename_i first
    obtain ⟨undrained, listing⟩ := first
    have flushes : (entries.map PendingEntry.flush).Nodup := by
      refine ((listing.map PendingEntry.flush).nodup_iff).mpr ?_
      rw [List.map_map]
      exact flushes_nodup sound
    have pendingOf : ∀ entry ∈ entries, ∃ key, get state.batcher.pending key = some entry := by
      intro entry listed
      obtain ⟨⟨key, _⟩, member, rfl⟩ := List.mem_map.mp (listing.mem_iff.mp listed)
      exact ⟨key, mem_rows.mp member⟩
    have noWait : (entries.map fun entry => Operation.start entry.flush).count .wait = 0 :=
      List.count_eq_zero.mpr (by simp)
    have noDone : (entries.map fun entry => Operation.start entry.flush).count .done = 0 :=
      List.count_eq_zero.mpr (by simp)
    refine
      { sound with single := ?_, scheduled := ?_, armed := ?_, covered := ?_, running := ?_
                   inflight := ?_, owned := ?_, waiting := ?_, stops := ?_, emptied := ?_, limited := ?_
                   settled := ?_, numbered := ?_, seq := ?_ }
    · refine single_spawn sound .shutdown (entries.map (fun entry => .start entry.flush) ++ [.wait]) (fun call => ?_) fun call new => ?_
      · simpa [List.count_append, count_entries] using List.nodup_iff_count_le_one.mp flushes call
      · obtain ⟨entry, listed, rfl⟩ : ∃ entry ∈ entries, entry.flush = call := by simpa using new
        obtain ⟨key, found⟩ := pendingOf entry listed
        exact ⟨(sound.armed key entry found).2.1, (sound.armed key entry found).2.2.1⟩
    · intro call placed
      refine scheduled_spawn sound .shutdown (entries.map (fun entry => .start entry.flush) ++ [.wait]) (Nat.le_refl _) (fun other new => ?_) placed
      obtain ⟨entry, listed, rfl⟩ : ∃ entry ∈ entries, entry.flush = other := by simpa using new
      obtain ⟨key, found⟩ := pendingOf entry listed
      exact (List.getElem?_eq_some_iff.mp (sound.armed key entry found).1).1
    · intro key entry found
      simp at found
    · intro call key called
      obtain ⟨flush, later, same, placed, -⟩ := sound.covered call key called
      refine ⟨flush, later, same, ?_, ?_⟩
      · simp only [Placed, operations_spawn, List.mem_append]
        rcases placed with started | listed | ⟨entry, found, rfl⟩
        · exact Or.inl started
        · exact Or.inr (Or.inl (Or.inr listed))
        · have member : entry ∈ entries :=
            listing.mem_iff.mpr (List.mem_map_of_mem (mem_rows.mpr found))
          exact Or.inr (Or.inl (Or.inl (Or.inl (List.mem_map_of_mem member))))
      · intro limit drained _
        rw [Option.some.injEq] at drained
        rw [← drained]
        exact (List.getElem?_eq_some_iff.mp same).1
    · exact running_spawn sound .shutdown (entries.map (fun entry => .start entry.flush) ++ [.wait])
    · simpa [operations_spawn, List.count_append, noDone] using sound.inflight
    · intro thread member
      have listed : thread ∈ spawn .shutdown
          (entries.map (fun entry => .start entry.flush) ++ [.wait]) state.threads := member
      rcases mem_spawn listed with rfl | old
      · exact ⟨rfl, by simp⟩
      · have before := sound.owned thread old
        rw [undrained] at before
        unfold Owned at before ⊢
        cases owner : thread.owner with
        | delivery => simp [owner] at before
        | timer => simpa only [owner] using before
        | shutdown => simp [owner] at before
    · have before := sound.waiting
      have unreturned : state.returned = false := by
        by_contra returned
        have drained := (sound.settled (by simpa using returned)).1
        rw [undrained] at drained
        contradiction
      rw [undrained] at before
      simpa [operations_spawn, List.count_append, noWait, unreturned] using before
    · rfl
    · exact fun _ _ => rfl
    · intro limit drained
      rw [Option.some.injEq] at drained
      exact Nat.le_of_eq drained.symm
    · intro returned
      have drained := (sound.settled returned).1
      rw [undrained] at drained
      contradiction
    · exact numbered_stopped sound.numbered entries
    · simpa [length_stopped] using sound.seq
  · exact sound

end Flushing

section Advancing

variable {state : State Key} {index : Nat} {operation : Operation}

omit [DecidableEq Key] in
theorem last_of_next {next rest : List Operation} {last : Operation}
    (ends : (operation :: rest).getLast? = some last) (more : next ++ rest ≠ [])
    (through : operation = last → next = []) : (next ++ rest).getLast? = some last := by
  cases rest with
  | nil =>
      have same : operation = last := by simpa using ends
      rw [through same] at more
      contradiction
  | cons first rest =>
      rw [List.getLast?_cons_cons] at ends
      rw [List.getLast?_append, ends]
      rfl

theorem owned_proceed (sound : Sound state) (doing : current state.threads index = some operation)
    {next : List Operation}
    (leads : (∃ call, operation = .start call ∧ next = [.finish call]) ∨
      ((∀ call, operation ≠ .start call) ∧ next = [])) :
    ∀ thread ∈ proceed state.threads index next, Owned state.drained thread := by
  intro thread member
  rcases thread_of_proceed doing member with kept | ⟨old, listed, rest, todo, more, rfl⟩
  · exact sound.owned thread kept
  · have before := sound.owned old listed
    have through : ∀ last, (∀ call, last ≠ Operation.start call) → operation = last → next = [] := by
      intro last ends same
      rcases leads with ⟨call, start, -⟩ | ⟨-, none⟩
      · exact absurd (same.symm.trans start) (ends call)
      · exact none
    unfold Owned at before ⊢
    cases owner : old.owner with
    | delivery =>
        simp only [owner, todo] at before ⊢
        obtain ⟨call, limit, drained, below, stands⟩ := before
        rcases leads with ⟨started, rfl, rfl⟩ | ⟨other, rfl⟩
        · have standing : Operation.start started = .start call ∧ rest = [] := by simpa using stands
          rw [Operation.start.injEq] at standing
          obtain ⟨rfl, rfl⟩ := standing
          exact ⟨started, limit, drained, below, Or.inr rfl⟩
        · rcases stands with stands | stands
          · rw [List.cons.injEq] at stands
            exact absurd stands.1 (other call)
          · rw [List.cons.injEq] at stands
            rw [stands.2] at more
            contradiction
    | timer =>
        simp only [owner, todo] at before ⊢
        refine ⟨last_of_next before.1 more (through _ (by simp)), fun waits => ?_⟩
        rcases List.mem_append.mp waits with fresh | kept
        · rcases leads with ⟨call, -, rfl⟩ | ⟨-, rfl⟩
          · simp at fresh
          · contradiction
        · exact before.2 (List.mem_cons_of_mem _ kept)
    | shutdown =>
        simp only [owner, todo] at before ⊢
        exact ⟨before.1, last_of_next before.2 more (through _ (by simp))⟩

theorem sound_start (sound : Sound state) {call : Nat}
    (doing : current state.threads index = some (.start call)) :
    Sound { state with
      threads := proceed state.threads index [.finish call]
      started := state.started ++ [call] } := by
  have here := mem_of_current doing
  have counts := fun counted => count_proceed [.finish call] counted doing
  have listed : ∀ other, .start other ∈ operations (proceed state.threads index [.finish call]) →
      .start other ∈ operations state.threads := by
    intro other member
    rcases mem_of_proceed doing member with fresh | kept
    · simp at fresh
    · exact kept
  refine
    { sound with single := ?_, scheduled := ?_, armed := ?_, covered := ?_, running := ?_, inflight := ?_
                 owned := ?_, waiting := ?_ }
  · intro other
    have counted := counts (.start other)
    have before := sound.single other
    dsimp only
    rw [List.count_append]
    by_cases own : other = call
    · subst own
      simp only [List.count_singleton_self] at counted ⊢
      have fresh : [Operation.finish other].count (.start other) = 0 := by simp
      omega
    · have fresh : [Operation.finish call].count (.start other) = 0 := by simp
      have apart : [Operation.start call].count (.start other) = 0 := by simp [Ne.symm own]
      have unstarted : [call].count other = 0 := by simp [Ne.symm own]
      omega
  · intro other placed
    simp only [List.mem_append, List.mem_singleton] at placed
    rcases placed with member | started | rfl
    · exact sound.scheduled other (Or.inl (listed other member))
    · exact sound.scheduled other (Or.inr started)
    · exact sound.scheduled other (Or.inl here)
  · intro key entry found
    obtain ⟨called, unlisted, unstarted, timer⟩ := sound.armed key entry found
    refine ⟨called, fun member => unlisted (listed _ member), ?_, timer⟩
    simp only [List.mem_append, List.mem_singleton, not_or]
    refine ⟨unstarted, ?_⟩
    rintro rfl
    exact unlisted here
  · intro other key called
    obtain ⟨flush, later, same, placed, within⟩ := sound.covered other key called
    refine ⟨flush, later, same, ?_, within⟩
    simp only [Placed, List.mem_append, List.mem_singleton]
    rcases placed with started | member | pending
    · exact Or.inl (Or.inl started)
    · by_cases own : flush = call
      · exact Or.inl (Or.inr own)
      · exact Or.inr (Or.inl (mem_proceed_of_ne doing (by simpa using own) member))
    · exact Or.inr (Or.inr pending)
  · intro other started
    rcases List.mem_append.mp started with before | own
    · exact (sound.running other before).imp_right (mem_proceed_of_ne doing (by simp))
    · rw [List.mem_singleton.mp own]
      exact Or.inr (mem_proceed doing (by simp))
  · simpa using sound.inflight.trans (counts .done).symm
  · exact owned_proceed sound doing (Or.inl ⟨call, rfl, rfl⟩)
  · simpa using (counts .wait).trans sound.waiting

theorem sound_settle (sound : Sound state) (doing : current state.threads index = some operation)
    (other : ∀ call, operation ≠ .start call) {finished : List Nat} {inflight : Nat} {returned : Bool}
    (running : ∀ call ∈ state.started,
      call ∈ finished ∨ .finish call ∈ operations (proceed state.threads index []))
    (counted : inflight = (operations (proceed state.threads index [])).count .done)
    (waiting : (operations (proceed state.threads index [])).count .wait =
      if state.drained.isSome && !returned then 1 else 0)
    (settled : returned = true → state.drained.isSome = true ∧ inflight = 0) :
    Sound { state with
      threads := proceed state.threads index []
      batcher := { state.batcher with inflight := inflight }
      finished := finished
      returned := returned } := by
  have counts : ∀ call, (operations (proceed state.threads index [])).count (.start call) =
      (operations state.threads).count (.start call) := by
    intro call
    have counted := count_proceed [] (.start call) doing
    have apart : [operation].count (.start call) = 0 := by simp [other call]
    simpa [apart] using counted
  have listed : ∀ call, .start call ∈ operations (proceed state.threads index []) →
      .start call ∈ operations state.threads := by
    intro call member
    rcases mem_of_proceed doing member with fresh | kept
    · contradiction
    · exact kept
  refine
    { sound with single := ?_, scheduled := ?_, armed := ?_, covered := ?_, running := running
                 inflight := counted, owned := ?_, waiting := waiting, settled := settled }
  · intro call
    rw [counts]
    exact sound.single call
  · intro call placed
    exact sound.scheduled call (placed.imp_left (listed call))
  · intro key entry found
    obtain ⟨called, unlisted, unstarted, timer⟩ := sound.armed key entry found
    exact ⟨called, fun member => unlisted (listed _ member), unstarted, timer⟩
  · intro call key called
    obtain ⟨flush, later, same, placed, within⟩ := sound.covered call key called
    refine ⟨flush, later, same, ?_, within⟩
    rcases placed with started | member | pending
    · exact Or.inl started
    · exact Or.inr (Or.inl (mem_proceed_of_ne doing (other flush).symm member))
    · exact Or.inr (Or.inr pending)
  · exact owned_proceed sound doing (Or.inr ⟨other, rfl⟩)

theorem sound_advance (sound : Sound state) (index : Nat) : Sound (advance state index) := by
  rw [advance]
  cases doing : current state.threads index with
  | none => exact sound
  | some operation =>
      have counts := fun counted => count_proceed [] counted doing
      cases operation with
      | start call => exact sound_start sound doing
      | finish call =>
          refine sound_settle sound doing (by simp) ?_ ?_ ?_ sound.settled
          · intro other started
            rcases sound.running other started with done | member
            · exact Or.inl (List.mem_append_left _ done)
            · by_cases own : other = call
              · exact Or.inl (by simp [own])
              · exact Or.inr (mem_proceed_of_ne doing (by simpa using own) member)
          · simpa using sound.inflight.trans (counts .done).symm
          · simpa using (counts .wait).trans sound.waiting
      | done =>
          have counted := counts .done
          have before := sound.inflight
          simp only [List.count_singleton_self, List.count_nil] at counted
          refine sound_settle sound doing (by simp) ?_ (by omega) ?_ ?_
          · intro other started
            exact (sound.running other started).imp_right (mem_proceed_of_ne doing (by simp))
          · simpa using (counts .wait).trans sound.waiting
          · intro returned
            obtain ⟨drained, none⟩ := sound.settled returned
            exact ⟨drained, by omega⟩
      | wait =>
          dsimp only
          split
          · rename_i free
            have counted := counts .wait
            have before := sound.waiting
            simp only [List.count_singleton_self, List.count_nil] at counted
            have drained : state.drained.isSome = true := by
              by_contra undrained
              simp only [Bool.not_eq_true] at undrained
              rw [undrained] at before
              simp only [Bool.false_and, Bool.false_eq_true, if_false] at before
              omega
            have once : (if state.drained.isSome && !state.returned then 1 else 0) ≤ 1 := by
              split <;> omega
            refine sound_settle sound doing (by simp) ?_ ?_ ?_ fun _ => ⟨drained, free⟩
            · intro other started
              exact (sound.running other started).imp_right (mem_proceed_of_ne doing (by simp))
            · simpa using sound.inflight.trans (counts .done).symm
            · simp only [Bool.not_true, Bool.and_false, Bool.false_eq_true, if_false]
              omega
          · exact sound

end Advancing

theorem sound_step (sound : Sound (state : State Key)) (action : Action Key) : Sound (step state action) := by
  cases action with
  | schedule key => exact sound_schedule sound key
  | fire timer => exact sound_fire sound timer
  | flushAll entries => exact sound_flushAll sound entries
  | advance goroutine => exact sound_advance sound goroutine

theorem run_sound (actions : List (Action Key)) : Sound (RunLib.run step initial actions) :=
  RunLib.run_invariant initial_sound (fun _ action sound => sound_step sound action) actions

def Armed (state : State Key) (key : Key) (flush timer : Nat) : Prop :=
  ∃ gen, get state.batcher.pending key = some ⟨timer, flush, gen⟩ ∧
    state.timers[timer]? = some ⟨key, gen, false, false⟩

def Takes (state : State Key) (timer : Nat) : Prop := (fire state timer).threads ≠ state.threads

structure Debounces (state : State Key) : Prop where
  once : ∀ call, state.started.count call ≤ 1
  followed : ∀ call key, state.calls[call]? = some key → ∃ flush, call ≤ flush ∧
    state.calls[flush]? = some key ∧
    (flush ∈ state.started ∨ .start flush ∈ operations state.threads ∨ ∃ timer, Armed state key flush timer)
  fires : ∀ key flush timer, Armed state key flush timer →
    ∃ goroutine, current (fire state timer).threads goroutine = some (.start flush)
  starts : ∀ flush, .start flush ∈ operations state.threads → ∃ goroutine count,
    flush ∈ (RunLib.run step state (List.replicate count (.advance goroutine))).started
  oneGeneration : ∀ first second left right, state.timers[first]? = some left →
    state.timers[second]? = some right → left.key = right.key → Takes state first → Takes state second →
    left.gen = right.gen
  superseded : ∀ timer, ¬Takes state timer → fire state timer = state ∨ fire state timer = marked state timer
  own : state.timers.length < 2 ^ 64 → ∀ timer, Takes state timer →
    ∃ key flush, Armed state key flush timer
  drained : state.drained.isSome = true → ∀ key flush timer, ¬Armed state key flush timer
  flushed : state.returned = true → ∃ limit, state.drained = some limit ∧
    ∀ call key, state.calls[call]? = some key → call < limit →
      .start call ∉ operations state.threads ∧ (call ∈ state.started → call ∈ state.finished) ∧
      ∃ flush, call ≤ flush ∧ flush < limit ∧ state.calls[flush]? = some key ∧ flush ∈ state.finished

section Results

variable {state : State Key}

theorem armed_of_pending (sound : Sound state) {key : Key} {entry : PendingEntry}
    (pending : get state.batcher.pending key = some entry) : Armed state key entry.flush entry.timer :=
  ⟨entry.gen, pending, (sound.armed key entry pending).2.2.2⟩

theorem takes_entry (sound : Sound state) {index : Nat} (takes : Takes state index) :
    ∃ timer entry, state.timers[index]? = some timer ∧
      get state.batcher.pending timer.key = some entry ∧ entry.gen = timer.gen := by
  rcases fire_cases sound index with same | ⟨same, -⟩ | ⟨timer, entry, found, pending, gen, -⟩
  · exact absurd (congrArg State.threads same) takes
  · exact absurd (congrArg State.threads same) takes
  · exact ⟨timer, entry, found, pending, gen⟩

theorem takes_own (sound : Sound state) (few : state.timers.length < 2 ^ 64) {index : Nat}
    (takes : Takes state index) : ∃ key flush, Armed state key flush index := by
  obtain ⟨timer, entry, found, pending, same⟩ := takes_entry sound takes
  have armed := (sound.armed timer.key entry pending).2.2.2
  have mine := sound.numbered index timer found
  have its := sound.numbered entry.timer _ armed
  have below := (List.getElem?_eq_some_iff.mp found).1
  have under := (List.getElem?_eq_some_iff.mp armed).1
  have place : entry.timer = index := by
    simp only [same] at its
    omega
  exact ⟨timer.key, entry.flush, place ▸ armed_of_pending sound pending⟩

theorem fire_starts (sound : Sound state) {key : Key} {flush timer : Nat}
    (armed : Armed state key flush timer) :
    ∃ goroutine, current (fire state timer).threads goroutine = some (.start flush) := by
  obtain ⟨gen, pending, found⟩ := armed
  refine ⟨0, ?_⟩
  rw [fire_live sound found rfl pending rfl]
  rfl

theorem advance_starts {owner : Owner} {flush index : Nat} {front back : List Operation}
    (found : state.threads[index]? = some ⟨owner, front ++ .start flush :: back⟩)
    (unblocked : .wait ∉ front) :
    ∃ count, flush ∈ (RunLib.run step state (List.replicate count (.advance index))).started := by
  induction front generalizing state with
  | nil =>
      refine ⟨1, ?_⟩
      have doing : current state.threads index = some (.start flush) := by simp [current, found]
      show flush ∈ (advance state index).started
      rw [advance, doing]
      exact List.mem_append_right _ List.mem_cons_self
  | cons first rest ih =>
      have others : .wait ∉ rest := fun member => unblocked (List.mem_cons_of_mem _ member)
      have doing : current state.threads index = some first := by simp [current, found]
      have more : rest ++ .start flush :: back ≠ [] := by simp
      cases first with
      | start call =>
          have next : (advance state index).threads[index]? =
              some ⟨owner, .finish call :: (rest ++ .start flush :: back)⟩ := by
            rw [advance, doing]
            exact getElem?_proceed found (by simp)
          have returning : current (advance state index).threads index = some (.finish call) := by
            simp [current, next]
          have later : (advance (advance state index) index).threads[index]? =
              some ⟨owner, rest ++ .start flush :: back⟩ := by
            rw [advance, returning]
            exact getElem?_proceed next more
          obtain ⟨count, started⟩ := ih later others
          exact ⟨count + 2, started⟩
      | finish call =>
          have later : (advance state index).threads[index]? = some ⟨owner, rest ++ .start flush :: back⟩ := by
            rw [advance, doing]
            exact getElem?_proceed found more
          obtain ⟨count, started⟩ := ih later others
          exact ⟨count + 1, started⟩
      | done =>
          have later : (advance state index).threads[index]? = some ⟨owner, rest ++ .start flush :: back⟩ := by
            rw [advance, doing]
            exact getElem?_proceed found more
          obtain ⟨count, started⟩ := ih later others
          exact ⟨count + 1, started⟩
      | wait => exact absurd List.mem_cons_self unblocked

theorem wait_last (sound : Sound state) {thread : Thread Owner Operation} (member : thread ∈ state.threads)
    {front back : List Operation} {flush : Nat} (todo : thread.todo = front ++ .start flush :: back) :
    .wait ∉ front := by
  intro waits
  have owned := sound.owned thread member
  unfold Owned at owned
  cases owner : thread.owner with
  | delivery =>
      simp only [owner, todo] at owned
      obtain ⟨call, -, -, -, stands | stands⟩ := owned
      all_goals
        cases front with
        | nil => contradiction
        | cons first rest => simp at stands
  | timer =>
      simp only [owner, todo] at owned
      exact owned.2 (List.mem_append_left _ waits)
  | shutdown =>
      simp only [owner, todo] at owned
      have last : (.start flush :: back : List Operation).getLast? = some .wait := by
        simpa [List.getLast?_append] using owned.2
      have after : .wait ∈ back := by
        simpa using List.mem_of_getLast? last
      have once : (operations state.threads).count .wait ≤ 1 := by
        rw [sound.waiting]
        split <;> omega
      have within : thread.todo.count .wait ≤ (operations state.threads).count .wait :=
        (List.sublist_flatten_of_mem (List.mem_map_of_mem member)).count_le _
      have before : 1 ≤ front.count .wait := List.count_pos_iff.mpr waits
      have behind : 1 ≤ back.count .wait := List.count_pos_iff.mpr after
      have both : thread.todo.count .wait = front.count .wait + back.count .wait := by
        simp [todo, List.count_append]
      omega

theorem starting_starts (sound : Sound state) {flush : Nat}
    (listed : .start flush ∈ operations state.threads) : ∃ goroutine count,
      flush ∈ (RunLib.run step state (List.replicate count (.advance goroutine))).started := by
  obtain ⟨thread, member, held⟩ := List.mem_flatMap.mp listed
  obtain ⟨front, back, todo⟩ := List.append_of_mem held
  obtain ⟨index, found⟩ := List.mem_iff_getElem?.mp member
  have stands : state.threads[index]? = some ⟨thread.owner, front ++ .start flush :: back⟩ := by
    rw [found, ← todo]
  exact ⟨index, advance_starts stands (wait_last sound member todo)⟩

theorem not_armed (sound : Sound state) (drained : state.drained.isSome = true) (key : Key)
    (flush timer : Nat) : ¬Armed state key flush timer := by
  rintro ⟨gen, pending, -⟩
  rw [sound.emptied drained key] at pending
  contradiction

theorem late_of_returned (sound : Sound state) (returned : state.returned = true) {limit : Nat}
    (drained : state.drained = some limit) {call : Nat} {operation : Operation}
    (runs : operation = .start call ∨ operation = .finish call)
    (listed : operation ∈ operations state.threads) : limit ≤ call := by
  obtain ⟨thread, member, held⟩ := List.mem_flatMap.mp listed
  have owned := sound.owned thread member
  have listedAll : ∀ other, other ∈ thread.todo → other ∈ operations state.threads :=
    fun other => mem_operations member
  have noDone : .done ∉ operations state.threads := by
    rw [← List.count_eq_zero, ← sound.inflight]
    exact (sound.settled returned).2
  have noWait : .wait ∉ operations state.threads := by
    rw [← List.count_eq_zero, sound.waiting, returned]
    simp
  unfold Owned at owned
  cases owner : thread.owner with
  | delivery =>
      simp only [owner] at owned
      obtain ⟨own, bound, is, below, stands⟩ := owned
      rw [drained, Option.some.injEq] at is
      rcases stands with stands | stands <;>
        rcases runs with rfl | rfl <;>
        simp only [stands, List.mem_singleton, Operation.start.injEq, Operation.finish.injEq,
          reduceCtorEq] at held <;>
        omega
  | timer =>
      simp only [owner] at owned
      exact absurd (listedAll _ (List.mem_of_getLast? owned.1)) noDone
  | shutdown =>
      simp only [owner] at owned
      exact absurd (listedAll _ (List.mem_of_getLast? owned.2)) noWait

theorem returned_flushed (sound : Sound state) (returned : state.returned = true) :
    ∃ limit, state.drained = some limit ∧
      ∀ call key, state.calls[call]? = some key → call < limit →
        .start call ∉ operations state.threads ∧ (call ∈ state.started → call ∈ state.finished) ∧
        ∃ flush, call ≤ flush ∧ flush < limit ∧ state.calls[flush]? = some key ∧
          flush ∈ state.finished := by
  have isDrained := (sound.settled returned).1
  obtain ⟨limit, drained⟩ := Option.isSome_iff_exists.mp isDrained
  have unstarting : ∀ call, call < limit → .start call ∉ operations state.threads :=
    fun call early listed =>
      Nat.not_lt.mpr (late_of_returned sound returned drained (Or.inl rfl) listed) early
  have finishes : ∀ call, call < limit → call ∈ state.started → call ∈ state.finished := by
    intro call early started
    rcases sound.running call started with done | listed
    · exact done
    · exact absurd early
        (Nat.not_lt.mpr (late_of_returned sound returned drained (Or.inr rfl) listed))
  refine ⟨limit, drained, fun call key called early => ⟨unstarting call early, finishes call early, ?_⟩⟩
  obtain ⟨flush, later, same, placed, within⟩ := sound.covered call key called
  have before := within limit drained early
  refine ⟨flush, later, before, same, finishes flush before ?_⟩
  rcases placed with started | listed | ⟨entry, pending, -⟩
  · exact started
  · exact absurd listed (unstarting flush before)
  · rw [sound.emptied isDrained key] at pending
    contradiction

end Results

end MulticaOS.Channels.Debouncing
