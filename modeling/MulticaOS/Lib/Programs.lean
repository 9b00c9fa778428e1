import Mathlib.Tactic.Common

/-!
Programs as trees: a program is done, or makes a call and goes on with the answer. The
environment that answers the calls is a parameter, so that one program can be run against
fixed answers and step by step against a shared state.
-/

namespace ProgramLib

inductive Program (Call : Type) (Answer : Call → Type) (Result : Type) : Type
  | done (result : Result)
  | call (request : Call) (next : Answer request → Program Call Answer Result)

variable {Call : Type} {Answer : Call → Type} {Result Final : Type}

namespace Program

def bind : Program Call Answer Result → (Result → Program Call Answer Final) →
    Program Call Answer Final
  | .done result, next => next result
  | .call request later, next => .call request fun answer => (later answer).bind next

instance : Monad (Program Call Answer) where
  pure := .done
  bind := bind

def ask (request : Call) : Program Call Answer (Answer request) := .call request .done

def run (answer : (request : Call) → Answer request) : Program Call Answer Result → List Call × Result
  | .done result => ([], result)
  | .call request next =>
      let later := (next (answer request)).run answer
      (request :: later.1, later.2)

/-- Whatever it is answered, the program makes calls that move its phase on, and ends as the phase
that it has reached asks for. -/
def Obeys {Phase : Type} (moves : Phase → (request : Call) → Answer request → Phase → Prop)
    (ends : Phase → Result → Prop) : Phase → Program Call Answer Result → Prop
  | phase, .done result => ends phase result
  | phase, .call request next =>
      ∀ answer, ∃ later, moves phase request answer later ∧ (next answer).Obeys moves ends later

@[simp] theorem ask_bind (request : Call) (next : Answer request → Program Call Answer Final) :
    (ask request >>= next) = .call request next := rfl

section Run

variable (answer : (request : Call) → Answer request)

@[simp] theorem run_pure (result : Result) :
    (pure result : Program Call Answer Result).run answer = ([], result) := rfl

@[simp] theorem run_call (request : Call) (next : Answer request → Program Call Answer Result) :
    (Program.call request next).run answer =
      (request :: ((next (answer request)).run answer).1, ((next (answer request)).run answer).2) := rfl

@[simp] theorem run_bind (program : Program Call Answer Result)
    (next : Result → Program Call Answer Final) :
    (program >>= next).run answer =
      ((program.run answer).1 ++ ((next (program.run answer).2).run answer).1,
        ((next (program.run answer).2).run answer).2) := by
  induction program with
  | done result => rfl
  | call request later ih =>
      have rest := ih (answer request)
      change (request :: ((later (answer request) >>= next).run answer).1,
        ((later (answer request) >>= next).run answer).2) = _
      rw [rest]
      rfl

end Run

section Obeying

variable {Phase : Type} {moves : Phase → (request : Call) → Answer request → Phase → Prop}

theorem Obeys.mono {weak strong : Phase → Result → Prop}
    (implies : ∀ phase result, strong phase result → weak phase result)
    {program : Program Call Answer Result} {phase : Phase} (obeys : program.Obeys moves strong phase) :
    program.Obeys moves weak phase := by
  induction program generalizing phase with
  | done result => exact implies phase result obeys
  | call request next ih =>
      intro answer
      obtain ⟨later, moved, rest⟩ := obeys answer
      exact ⟨later, moved, ih answer rest⟩

theorem Obeys.bind {ends : Phase → Final → Prop} {program : Program Call Answer Result}
    {next : Result → Program Call Answer Final} {phase : Phase}
    (obeys : program.Obeys moves (fun reached result => (next result).Obeys moves ends reached) phase) :
    (program >>= next).Obeys moves ends phase := by
  induction program generalizing phase with
  | done result => exact obeys
  | call request later ih =>
      intro answer
      obtain ⟨reached, moved, rest⟩ := obeys answer
      exact ⟨reached, moved, ih answer rest⟩

end Obeying

end Program

end ProgramLib
