import Mathlib.Tactic.Common

/-!
Runs of a step function over a list of actions, properties of every state a run
passes through, and conditions on every step it takes.
-/

namespace RunLib

section Runs

variable {State Action : Type} (step : State → Action → State)

def run (start : State) (actions : List Action) : State := actions.foldl step start

def Always (holds : State → Prop) : State → List Action → Prop
  | state, [] => holds state
  | state, action :: rest => holds state ∧ Always holds (step state action) rest

def Every (allowed : State → Action → Prop) : State → List Action → Prop
  | _, [] => True
  | state, action :: rest => allowed state action ∧ Every allowed (step state action) rest

def entries (holds : State → Bool) : State → List Action → Nat
  | _, [] => 0
  | state, action :: rest =>
      (if !holds state && holds (step state action) then 1 else 0) +
        entries holds (step state action) rest

def occurrences (counted : State → Action → Bool) : State → List Action → Nat
  | _, [] => 0
  | state, action :: rest =>
      (if counted state action then 1 else 0) + occurrences counted (step state action) rest

instance decidableAlways (holds : State → Prop) [DecidablePred holds] :
    (start : State) → (actions : List Action) → Decidable (Always step holds start actions)
  | start, [] => inferInstanceAs (Decidable (holds start))
  | start, action :: rest =>
      have := decidableAlways holds (step start action) rest
      inferInstanceAs (Decidable (holds start ∧ Always step holds (step start action) rest))

instance decidableEvery (allowed : State → Action → Prop)
    [∀ state action, Decidable (allowed state action)] :
    (start : State) → (actions : List Action) → Decidable (Every step allowed start actions)
  | _, [] => inferInstanceAs (Decidable True)
  | start, action :: rest =>
      have := decidableEvery allowed (step start action) rest
      inferInstanceAs (Decidable (allowed start action ∧ Every step allowed (step start action) rest))

variable {step}

@[simp] theorem run_nil (start : State) : run step start [] = start := rfl

@[simp] theorem run_cons (start : State) (action : Action) (rest : List Action) :
    run step start (action :: rest) = run step (step start action) rest := rfl

theorem run_append (start : State) (front back : List Action) :
    run step start (front ++ back) = run step (run step start front) back := by
  simp [run]

theorem run_invariant {invariant : State → Prop} {start : State} (initial : invariant start)
    (preserved : ∀ state action, invariant state → invariant (step state action))
    (actions : List Action) : invariant (run step start actions) := by
  induction actions generalizing start with
  | nil => exact initial
  | cons action rest ih => exact ih (preserved start action initial)

theorem always_of_invariant {invariant : State → Prop} {allowed : State → Action → Prop}
    {start : State} {actions : List Action} (initial : invariant start)
    (preserved : ∀ state action, invariant state → allowed state action →
      invariant (step state action))
    (every : Every step allowed start actions) : Always step invariant start actions := by
  induction actions generalizing start with
  | nil => exact initial
  | cons action rest ih => exact ⟨initial, ih (preserved start action initial every.1) every.2⟩

theorem every_of_invariant {invariant : State → Prop} {allowed guaranteed : State → Action → Prop}
    {start : State} {actions : List Action} (initial : invariant start)
    (preserved : ∀ state action, invariant state → invariant (step state action))
    (each : ∀ state action, invariant state → allowed state action → guaranteed state action)
    (every : Every step allowed start actions) : Every step guaranteed start actions := by
  induction actions generalizing start with
  | nil => trivial
  | cons action rest ih =>
      exact ⟨each start action initial every.1, ih (preserved start action initial) every.2⟩

theorem every_of_allowed {invariant : State → Prop} {allowed guaranteed : State → Action → Prop}
    {start : State} {actions : List Action} (initial : invariant start)
    (preserved : ∀ state action, invariant state → allowed state action →
      invariant (step state action))
    (each : ∀ state action, invariant state → allowed state action → guaranteed state action)
    (every : Every step allowed start actions) : Every step guaranteed start actions := by
  induction actions generalizing start with
  | nil => trivial
  | cons action rest ih =>
      exact ⟨each start action initial every.1, ih (preserved start action initial every.1) every.2⟩

theorem every_of_preserved {invariant : State → Prop} {allowed : State → Action → Prop} {start : State}
    (initial : invariant start)
    (preserved : ∀ state action, invariant state → invariant (step state action))
    (each : ∀ state action, invariant state → allowed state action) (actions : List Action) :
    Every step allowed start actions := by
  induction actions generalizing start with
  | nil => trivial
  | cons action rest ih => exact ⟨each start action initial, ih (preserved start action initial)⟩

theorem always_of_preserved {invariant : State → Prop} {start : State} (initial : invariant start)
    (preserved : ∀ state action, invariant state → invariant (step state action))
    (actions : List Action) : Always step invariant start actions := by
  induction actions generalizing start with
  | nil => exact initial
  | cons action rest ih => exact ⟨initial, ih (preserved start action initial)⟩

theorem run_exhausts {invariant : State → Prop} {weight : State → Nat}
    (each : ∀ state action, invariant state →
      invariant (step state action) ∧ weight (step state action) ≤ weight state - 1)
    {start : State} (initial : invariant start) {actions : List Action}
    (enough : weight start ≤ actions.length) :
    invariant (run step start actions) ∧ weight (run step start actions) = 0 := by
  induction actions generalizing start with
  | nil => exact ⟨initial, Nat.le_zero.mp enough⟩
  | cons action rest ih =>
      obtain ⟨kept, lowered⟩ := each start action initial
      rw [List.length_cons] at enough
      exact ih kept (by omega)

theorem length_le_of_spends {weight : State → Nat} {allowed : State → Action → Prop}
    (spends : ∀ state action, allowed state action → weight (step state action) < weight state)
    {start : State} {actions : List Action} (every : Every step allowed start actions) :
    actions.length ≤ weight start := by
  induction actions generalizing start with
  | nil => exact Nat.zero_le _
  | cons action rest ih =>
      have lowered := spends start action every.1
      have later := ih every.2
      rw [List.length_cons]
      omega

theorem entries_eq_zero {invariant : State → Prop} {holds : State → Bool}
    (preserved : ∀ state action, invariant state → invariant (step state action))
    (keeps : ∀ state action, invariant state → holds state = true → holds (step state action) = true)
    {start : State} (initial : invariant start) (entered : holds start = true)
    (actions : List Action) : entries step holds start actions = 0 := by
  induction actions generalizing start with
  | nil => rfl
  | cons action rest ih =>
      have later := ih (preserved start action initial) (keeps start action initial entered)
      simp only [entries, entered, later]
      simp

theorem entries_le_one {invariant : State → Prop} {holds : State → Bool}
    (preserved : ∀ state action, invariant state → invariant (step state action))
    (keeps : ∀ state action, invariant state → holds state = true → holds (step state action) = true)
    {start : State} (initial : invariant start) (actions : List Action) :
    entries step holds start actions ≤ 1 := by
  induction actions generalizing start with
  | nil => simp [entries]
  | cons action rest ih =>
      have kept := preserved start action initial
      simp only [entries]
      split
      · rename_i enters
        simp only [Bool.and_eq_true] at enters
        have later := entries_eq_zero preserved keeps kept enters.2 rest
        omega
      · have later := ih kept
        omega

theorem always_iff_every_among {invariant holds : State → Prop} {allowed : State → Action → Prop}
    {admitted : Action → Prop} {start : State} {actions : List Action} (initial : invariant start)
    (begins : holds start) (among : ∀ action ∈ actions, admitted action)
    (preserved : ∀ state action, admitted action → invariant state → invariant (step state action))
    (each : ∀ state action, admitted action → invariant state → holds state →
      (holds (step state action) ↔ allowed state action)) :
    Always step holds start actions ↔ Every step allowed start actions := by
  induction actions generalizing start with
  | nil => exact iff_of_true begins trivial
  | cons action rest ih =>
      have admits := among action (by simp)
      have kept := preserved start action admits initial
      have exactly := each start action admits initial begins
      have others : ∀ later ∈ rest, admitted later := fun later member => among later (by simp [member])
      constructor
      · rintro ⟨-, later⟩
        have next : holds (step start action) := by
          cases rest with
          | nil => exact later
          | cons _ _ => exact later.1
        exact ⟨exactly.mp next, (ih kept next others).mp later⟩
      · rintro ⟨allows, later⟩
        exact ⟨begins, (ih kept (exactly.mpr allows) others).mpr later⟩

theorem always_iff_every {invariant holds : State → Prop} {allowed : State → Action → Prop}
    {start : State} {actions : List Action} (initial : invariant start) (begins : holds start)
    (preserved : ∀ state action, invariant state → invariant (step state action))
    (each : ∀ state action, invariant state → holds state →
      (holds (step state action) ↔ allowed state action)) :
    Always step holds start actions ↔ Every step allowed start actions :=
  have among : ∀ action ∈ actions, True := fun _ _ => trivial
  always_iff_every_among initial begins among (fun state action _ => preserved state action)
    fun state action _ => each state action

theorem always_and_every_iff {invariant holds : State → Prop} {allowed promised : State → Action → Prop}
    {start : State} {actions : List Action} (initial : invariant start) (begins : holds start)
    (preserved : ∀ state action, invariant state → invariant (step state action))
    (each : ∀ state action, invariant state → holds state →
      ((holds (step state action) ∧ promised state action) ↔ allowed state action)) :
    (Always step holds start actions ∧ Every step promised start actions) ↔
      Every step allowed start actions := by
  induction actions generalizing start with
  | nil => exact iff_of_true ⟨begins, trivial⟩ trivial
  | cons action rest ih =>
      have kept := preserved start action initial
      have exactly := each start action initial begins
      constructor
      · rintro ⟨⟨-, later⟩, keeps, others⟩
        have next : holds (step start action) := by
          cases rest with
          | nil => exact later
          | cons _ _ => exact later.1
        exact ⟨exactly.mp ⟨next, keeps⟩, (ih kept next).mp ⟨later, others⟩⟩
      · rintro ⟨allows, later⟩
        obtain ⟨next, keeps⟩ := exactly.mpr allows
        obtain ⟨always, others⟩ := (ih kept next).mpr later
        exact ⟨⟨begins, always⟩, keeps, others⟩

theorem occurrences_le_one {invariant spent : State → Prop} {allowed : State → Action → Prop}
    {counted : State → Action → Bool}
    (preserved : ∀ state action, invariant state → allowed state action →
      invariant (step state action))
    (spends : ∀ state action, invariant state → allowed state action → counted state action = true →
      spent (step state action))
    (stays : ∀ state action, invariant state → allowed state action → spent state →
      counted state action = false ∧ spent (step state action))
    {start : State} (initial : invariant start) {actions : List Action}
    (every : Every step allowed start actions) :
    occurrences step counted start actions ≤ 1 ∧
      (spent start → occurrences step counted start actions = 0) := by
  induction actions generalizing start with
  | nil => exact ⟨Nat.zero_le 1, fun _ => rfl⟩
  | cons action rest ih =>
      have kept := preserved start action initial every.1
      obtain ⟨atMost, none⟩ := ih kept every.2
      simp only [occurrences]
      constructor
      · split
        · rename_i counts
          have later := none (spends start action initial every.1 counts)
          omega
        · omega
      · intro wasSpent
        obtain ⟨uncounted, still⟩ := stays start action initial every.1 wasSpent
        have later := none still
        rw [uncounted, later]
        rfl

theorem Always.mono {weak strong : State → Prop} (implies : ∀ state, strong state → weak state)
    {start : State} {actions : List Action} (always : Always step strong start actions) :
    Always step weak start actions := by
  induction actions generalizing start with
  | nil => exact implies start always
  | cons action rest ih => exact ⟨implies start always.1, ih always.2⟩

theorem Always.last {holds : State → Prop} {start : State} {actions : List Action}
    (always : Always step holds start actions) : holds (run step start actions) := by
  induction actions generalizing start with
  | nil => exact always
  | cons action rest ih => exact ih always.2

theorem Every.mono {weak strong : State → Action → Prop}
    (implies : ∀ state action, strong state action → weak state action)
    {start : State} {actions : List Action} (every : Every step strong start actions) :
    Every step weak start actions := by
  induction actions generalizing start with
  | nil => trivial
  | cons action rest ih => exact ⟨implies start action every.1, ih every.2⟩

theorem Every.among {allowed : State → Action → Prop} {admitted : Action → Prop} {start : State}
    {actions : List Action} (every : Every step allowed start actions)
    (among : ∀ action ∈ actions, admitted action) :
    Every step (fun state action => allowed state action ∧ admitted action) start actions := by
  induction actions generalizing start with
  | nil => trivial
  | cons action rest ih =>
      have others : ∀ later ∈ rest, admitted later := fun later member => among later (by simp [member])
      exact ⟨⟨every.1, among action (by simp)⟩, ih every.2 others⟩

theorem Every.and {left right : State → Action → Prop} {start : State} {actions : List Action}
    (first : Every step left start actions) (second : Every step right start actions) :
    Every step (fun state action => left state action ∧ right state action) start actions := by
  induction actions generalizing start with
  | nil => trivial
  | cons action rest ih => exact ⟨⟨first.1, second.1⟩, ih first.2 second.2⟩

theorem every_append {allowed : State → Action → Prop} {start : State} {front back : List Action} :
    Every step allowed start (front ++ back) ↔
      Every step allowed start front ∧ Every step allowed (run step start front) back := by
  induction front generalizing start with
  | nil => simp [Every]
  | cons action rest ih => simp [Every, ih, and_assoc]

end Runs

end RunLib
