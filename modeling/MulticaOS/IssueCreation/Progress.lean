import MulticaOS.IssueCreation.Consistency

/-! No interleaving of creates deadlocks: of the transactions that are not over, one can go on. -/

namespace MulticaOS.IssueCreation

variable {Id Columns : Type} [DecidableEq Id]

def Stage.isOver : Stage Id Columns → Bool
  | .created _ | .refused _ => true
  | _ => false

/-- The next statement of the transaction does not wait. -/
def Ready (text : Option Id → String) (hash : String → Int) (state : State Id Columns) (index : Nat) : Prop :=
  ∃ process, state.processes[index]? = some process ∧ process.stage.isOver = false ∧
    blocked text hash state index process = false

section Waiting

variable {text : Option Id → String} {hash : String → Int} {state : State Id Columns} {index : Nat}
variable {process : Process Id Columns}

omit [DecidableEq Id] in
theorem holder {Lock : Type} [DecidableEq Lock] {held : Process Id Columns → Option Lock} {lock : Lock}
    (taken : heldByOther held state.processes index lock = true) :
    ∃ (other : Nat) (process : Process Id Columns), state.processes[other]? = some process ∧
      held process = some lock := by
  obtain ⟨⟨process, other⟩, listed, holds⟩ := List.any_eq_true.mp taken
  rw [Bool.and_eq_true] at holds
  exact ⟨other, process, List.mk_mem_zipIdx_iff_getElem?.mp listed, of_decide_eq_true holds.2⟩

/-- The holder of a row lock waits for nothing. -/
theorem ready_of_row (found : state.processes[index]? = some process) {row : Id}
    (holds : process.row = some row) : Ready text hash state index := by
  obtain ⟨resolved, statement, inside, counted, -⟩ := inside_of_row holds
  refine ⟨process, found, by rw [inside]; rfl, ?_⟩
  rw [blocked, inside]
  cases statement with
  | count => exact absurd rfl counted
  | _ => rfl

theorem ready_of_free (found : state.processes[index]? = some process) (going : process.stage.isOver = false)
    (waits : blocked text hash state index process = true → ∃ other, Ready text hash state other) :
    ∃ other, Ready text hash state other := by
  cases free : blocked text hash state index process with
  | false => exact ⟨index, process, found, going, free⟩
  | true => exact waits free

/-- The holder of an advisory lock waits for a row lock at most. -/
theorem ready_of_key (found : state.processes[index]? = some process) {key : Int}
    (holds : process.key text hash = some key) : ∃ other, Ready text hash state other := by
  obtain ⟨resolved, statement, inside, -, -⟩ := inside_of_key holds
  refine ready_of_free found (by rw [inside]; rfl) fun waits => ?_
  rw [blocked, inside] at waits
  cases statement with
  | count =>
      obtain ⟨other, owner, listed, row⟩ := holder waits
      exact ⟨other, ready_of_row listed row⟩
  | _ => contradiction

end Waiting

theorem creates_never_deadlock (text : Option Id → String) (hash : String → Int) (state : State Id Columns) :
    (∀ process ∈ state.processes, process.stage.isOver = true) ∨ ∃ index, Ready text hash state index := by
  refine or_iff_not_imp_left.mpr fun unfinished => ?_
  obtain ⟨process, unfinished⟩ := not_forall.mp unfinished
  obtain ⟨listed, going⟩ := Classical.not_imp.mp unfinished
  obtain ⟨index, found⟩ := List.mem_iff_getElem?.mp listed
  refine ready_of_free found (Bool.eq_false_iff.mpr going) fun waits => ?_
  rw [blocked] at waits
  split at waits
  · obtain ⟨other, owner, listed, key⟩ := holder waits
    exact ready_of_key listed key
  · obtain ⟨other, owner, listed, row⟩ := holder waits
    exact ⟨other, ready_of_row listed row⟩
  · contradiction

end MulticaOS.IssueCreation
