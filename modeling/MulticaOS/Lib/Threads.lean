import Mathlib.Data.List.Basic

/-!
Pools of threads. Every thread has a stack of operations to do. A step of a thread takes
its first operation off and puts the operations that it leads to in its place.
-/

namespace ThreadLib

structure Thread (Owner Operation : Type) where
  owner : Owner
  todo : List Operation

variable {Owner Operation : Type}

def current (threads : List (Thread Owner Operation)) (index : Nat) : Option Operation :=
  match threads[index]? with
  | some thread => thread.todo.head?
  | none => none

def spawn (owner : Owner) (todo : List Operation) (threads : List (Thread Owner Operation)) :
    List (Thread Owner Operation) :=
  if todo.isEmpty then threads else ⟨owner, todo⟩ :: threads

/-- The pool after the first operation of the thread at `index` has led to `next`. A thread with
nothing left to do is gone. -/
def proceed (threads : List (Thread Owner Operation)) (index : Nat) (next : List Operation) :
    List (Thread Owner Operation) :=
  match threads[index]? with
  | some thread =>
      if (next ++ thread.todo.tail).isEmpty then threads.eraseIdx index
      else threads.set index ⟨thread.owner, next ++ thread.todo.tail⟩
  | none => threads

def idle [DecidableEq Owner] (threads : List (Thread Owner Operation)) (owner : Owner) : Bool :=
  threads.all fun thread => thread.owner ≠ owner

def operations (threads : List (Thread Owner Operation)) : List Operation :=
  threads.flatMap Thread.todo

variable {threads : List (Thread Owner Operation)} {index : Nat} {operation : Operation}

@[simp] theorem operations_nil : operations ([] : List (Thread Owner Operation)) = [] := rfl

@[simp] theorem operations_spawn (owner : Owner) (todo : List Operation) :
    operations (spawn owner todo threads) = todo ++ operations threads := by
  cases todo with
  | nil => rfl
  | cons first rest => rfl

theorem operations_proceed (next : List Operation) (doing : current threads index = some operation) :
    ∃ others, (operations threads).Perm (operation :: others) ∧
      (operations (proceed threads index next)).Perm (next ++ others) := by
  induction threads generalizing index with
  | nil => simp [current] at doing
  | cons thread rest ih =>
      cases index with
      | zero =>
          obtain ⟨owner, todo⟩ := thread
          cases todo with
          | nil => simp [current] at doing
          | cons first later =>
              obtain rfl : first = operation := by simpa [current] using doing
              refine ⟨later ++ operations rest, List.Perm.refl _, ?_⟩
              by_cases finished : (next ++ later).isEmpty
              · obtain ⟨rfl, rfl⟩ := List.append_eq_nil_iff.mp (List.isEmpty_iff.mp finished)
                exact List.Perm.refl _
              · simp [proceed, finished, operations]
      | succ index =>
          have later : current rest index = some operation := by simpa [current] using doing
          obtain ⟨others, before, after⟩ := ih later
          refine ⟨thread.todo ++ others, ?_, ?_⟩
          · exact (List.Perm.append_left thread.todo before).trans List.perm_middle
          · have unfolded : operations (proceed (thread :: rest) (index + 1) next) =
                thread.todo ++ operations (proceed rest index next) := by
              simp only [proceed, List.getElem?_cons_succ]
              cases rest[index]? with
              | none => rfl
              | some found =>
                  by_cases finished : (next ++ found.todo.tail).isEmpty
                  · simp only [finished]
                    rfl
                  · simp only [finished]
                    rfl
            rw [unfolded]
            refine (List.Perm.append_left thread.todo after).trans ?_
            rw [← List.append_assoc, ← List.append_assoc]
            exact List.Perm.append_right others List.perm_append_comm

theorem mem_of_current (doing : current threads index = some operation) :
    operation ∈ operations threads := by
  obtain ⟨others, before, -⟩ := operations_proceed [] doing
  exact before.mem_iff.mpr List.mem_cons_self

theorem mem_of_proceed {next : List Operation} {other : Operation}
    (doing : current threads index = some operation)
    (member : other ∈ operations (proceed threads index next)) :
    other ∈ next ∨ other ∈ operations threads := by
  obtain ⟨others, before, after⟩ := operations_proceed next doing
  rcases List.mem_append.mp (after.mem_iff.mp member) with fresh | kept
  · exact Or.inl fresh
  · exact Or.inr (before.mem_iff.mpr (List.mem_cons_of_mem _ kept))

theorem countP_proceed (next : List Operation) (holds : Operation → Bool)
    (doing : current threads index = some operation) :
    (operations (proceed threads index next)).countP holds + [operation].countP holds =
      (operations threads).countP holds + next.countP holds := by
  obtain ⟨others, before, after⟩ := operations_proceed next doing
  have counted := before.countP_eq holds
  have remaining := after.countP_eq holds
  rw [List.countP_cons] at counted
  rw [List.countP_append] at remaining
  have single : [operation].countP holds = if holds operation = true then 1 else 0 := by
    simp [List.countP_cons]
  omega

theorem count_proceed [DecidableEq Operation] (next : List Operation) (counted : Operation)
    (doing : current threads index = some operation) :
    (operations (proceed threads index next)).count counted + [operation].count counted =
      (operations threads).count counted + next.count counted :=
  countP_proceed next (· == counted) doing

theorem mem_proceed {next : List Operation} {other : Operation}
    (doing : current threads index = some operation) (listed : other ∈ next) :
    other ∈ operations (proceed threads index next) := by
  obtain ⟨others, -, after⟩ := operations_proceed next doing
  exact after.mem_iff.mpr (List.mem_append_left _ listed)

theorem mem_proceed_of_ne {next : List Operation} {other : Operation}
    (doing : current threads index = some operation) (apart : other ≠ operation)
    (listed : other ∈ operations threads) : other ∈ operations (proceed threads index next) := by
  obtain ⟨others, before, after⟩ := operations_proceed next doing
  have kept := List.mem_of_ne_of_mem apart (before.mem_iff.mp listed)
  exact after.mem_iff.mpr (List.mem_append_right _ kept)

theorem mem_spawn {thread : Thread Owner Operation} {owner : Owner} {todo : List Operation}
    (member : thread ∈ spawn owner todo threads) : thread = ⟨owner, todo⟩ ∨ thread ∈ threads := by
  rw [spawn] at member
  split at member
  · exact Or.inr member
  · exact List.mem_cons.mp member

theorem thread_of_proceed {thread : Thread Owner Operation} {next : List Operation}
    (doing : current threads index = some operation) (member : thread ∈ proceed threads index next) :
    thread ∈ threads ∨ ∃ old ∈ threads, ∃ rest, old.todo = operation :: rest ∧ next ++ rest ≠ [] ∧
      thread = ⟨old.owner, next ++ rest⟩ := by
  rw [current] at doing
  rw [proceed] at member
  cases found : threads[index]? with
  | none => simp [found] at doing
  | some old =>
      obtain ⟨owner, todo⟩ := old
      simp only [found] at doing member
      cases todo with
      | nil => simp at doing
      | cons first rest =>
          obtain rfl : first = operation := by simpa using doing
          rw [List.tail_cons] at member
          split at member
          · exact Or.inl (List.mem_of_mem_eraseIdx member)
          · rename_i unfinished
            rcases List.mem_or_eq_of_mem_set member with kept | rfl
            · exact Or.inl kept
            · refine Or.inr ⟨_, List.mem_of_getElem? found, rest, rfl, ?_, rfl⟩
              simpa using unfinished

theorem getElem?_proceed {owner : Owner} {rest next : List Operation}
    (found : threads[index]? = some ⟨owner, operation :: rest⟩) (more : next ++ rest ≠ []) :
    (proceed threads index next)[index]? = some ⟨owner, next ++ rest⟩ := by
  have bound := (List.getElem?_eq_some_iff.mp found).1
  have unfinished : ¬(next ++ rest).isEmpty = true := by simpa using more
  have stepped : proceed threads index next = threads.set index ⟨owner, next ++ rest⟩ := by
    simp only [proceed, found, List.tail_cons]
    exact if_neg unfinished
  rw [stepped, List.getElem?_set_self bound]

theorem mem_operations {thread : Thread Owner Operation} (member : thread ∈ threads)
    (listed : operation ∈ thread.todo) : operation ∈ operations threads :=
  List.mem_flatMap.mpr ⟨thread, member, listed⟩

end ThreadLib
