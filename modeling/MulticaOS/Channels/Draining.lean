import MulticaOS.Channels.Debouncing

/-! A shutdown comes to an end: `FlushAll` is never stuck, and each step of a goroutine leaves less to do. -/

namespace MulticaOS.Channels.Debouncing

open CacheLib ThreadLib

variable {Key : Type}

def Operation.cost : Operation → Nat
  | .start _ => 2
  | _ => 1

def work (state : State Key) : Nat := ((operations state.threads).map Operation.cost).sum

def Acts (state : State Key) (index : Nat) : Prop :=
  ∃ operation, current state.threads index = some operation ∧
    (operation = .wait → state.batcher.inflight = 0)

section Draining

variable {state : State Key} {index : Nat}

theorem work_advance (acts : Acts state index) : work (advance state index) < work state := by
  obtain ⟨operation, doing, free⟩ := acts
  have spent : ∀ next : List Operation, (next.map Operation.cost).sum < operation.cost →
      ((operations (proceed state.threads index next)).map Operation.cost).sum < work state := by
    intro next less
    obtain ⟨others, before, after⟩ := operations_proceed next doing
    rw [work, (before.map _).sum_eq, (after.map _).sum_eq, List.map_append, List.sum_append, List.map_cons,
      List.sum_cons]
    omega
  rw [advance, doing]
  cases operation with
  | start call => exact spent [.finish call] (Nat.lt_succ_self 1)
  | wait =>
      simp only [free rfl, if_true]
      exact spent [] Nat.one_pos
  | _ => exact spent [] Nat.one_pos

theorem acts_of_head {thread : Thread Owner Operation} (member : thread ∈ state.threads)
    {first : Operation} (head : thread.todo.head? = some first)
    (free : first = .wait → state.batcher.inflight = 0) : ∃ index, Acts state index := by
  obtain ⟨index, found⟩ := List.mem_iff_getElem?.mp member
  exact ⟨index, first, by simp [current, found, head], free⟩

variable [DecidableEq Key]

/-- Only the caller of `FlushAll` waits, and it has nothing else left to do. -/
theorem wait_alone (sound : Sound state) {thread : Thread Owner Operation} (member : thread ∈ state.threads)
    {rest : List Operation} (todo : thread.todo = .wait :: rest) : rest = [] := by
  have owned := sound.owned thread member
  unfold Owned at owned
  cases owner : thread.owner with
  | delivery => simp [owner, todo] at owned
  | timer => simp [owner, todo] at owned
  | shutdown =>
      simp only [owner, todo] at owned
      cases rest with
      | nil => rfl
      | cons second later =>
          have again : .wait ∈ second :: later := List.mem_of_getLast? (by simpa using owned.2)
          have within : thread.todo.count .wait ≤ (operations state.threads).count .wait :=
            (List.sublist_flatten_of_mem (List.mem_map_of_mem member)).count_le _
          have waits := sound.waiting
          rw [todo, List.count_cons_self] at within
          have more := List.count_pos_iff.mpr again
          split at waits <;> omega

theorem some_acts (sound : Sound state) (drained : state.drained.isSome = true)
    (waiting : state.returned = false) : ∃ index, Acts state index := by
  by_cases idle : state.batcher.inflight = 0
  · have waits : .wait ∈ operations state.threads := by
      rw [← List.count_pos_iff, sound.waiting, drained, waiting]
      decide
    obtain ⟨thread, member, held⟩ := List.mem_flatMap.mp waits
    cases todo : thread.todo with
    | nil => simp [todo] at held
    | cons first rest => exact acts_of_head member (by rw [todo]; rfl) fun _ => idle
  · have running : .done ∈ operations state.threads := by
      rw [← List.count_pos_iff, ← sound.inflight]
      omega
    obtain ⟨thread, member, held⟩ := List.mem_flatMap.mp running
    cases todo : thread.todo with
    | nil => simp [todo] at held
    | cons first rest =>
        refine acts_of_head member (by rw [todo]; rfl) fun waits => ?_
        subst waits
        simp [todo, wait_alone sound member todo] at held

end Draining

structure Drains (state : State Key) : Prop where
  goes : state.drained.isSome = true → state.returned = false → ∃ goroutine, Acts state goroutine
  ends : ∀ goroutines : List Nat, RunLib.Every advance Acts state goroutines → goroutines.length ≤ work state

theorem run_drains [DecidableEq Key] (actions : List (Action Key)) : Drains (RunLib.run step initial actions) where
  goes := some_acts (run_sound actions)
  ends _ := RunLib.length_le_of_spends fun _ _ => work_advance

end MulticaOS.Channels.Debouncing
