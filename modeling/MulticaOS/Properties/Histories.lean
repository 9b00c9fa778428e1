import MulticaOS.Lib.Lists
import MulticaOS.Properties.Fitting

/-!
Runs of the requests of one workspace: what holds in every state between their statements,
and that a request that is rejected has changed nothing.
-/

namespace MulticaOS.Properties

open LockLib RunLib

def Process.Holds (locks : List (LockKey × Nat)) (index : Nat) (process : Process) : Prop :=
  (∀ key, process.property = some key → (.prop key, index) ∈ locks) ∧
    (process.inWorkspace = true → ∃ workspaceID, (.props workspaceID, index) ∈ locks)

structure Sound (library : Library) (state : State) : Prop where
  exclusive : Exclusive state.locks
  oneSpelling : ∀ left right owner other, (.props left, owner) ∈ state.locks →
    (.props right, other) ∈ state.locks → left = right
  holds : ∀ (index : Nat) (process : Process), state.processes[index]? = some process →
    process.Holds state.locks index
  consistent : Consistent library state.tables
  relies : ∀ (index : Nat) (process : Process), state.processes[index]? = some process →
    process.Relies library state.tables

/-- No lock of the workspace is held under another spelling of its id. -/
def oneSpelling (locks : List (LockKey × Nat)) (workspaceID : String) : Bool :=
  locks.all fun lock =>
    match lock.1 with
    | .props other => other = workspaceID
    | .prop _ => true

/-- The workspace lock excludes the others that hold it, and the text to be stored is not lost. -/
def orderly (state : State) : Action → Bool
  | .advance index _ =>
      match state.processes[index]? with
      | some process =>
          storesText state.tables process &&
            match process.wants with
            | some (.props workspaceID) => oneSpelling state.locks workspaceID
            | _ => true
      | none => true
  | _ => true

section Steps

variable {library : Library} {state : State} {index : Nat} {process next : Process} {after : Tables}

theorem finished_spec (library : Library) (finished : process.finished = true) (tables : Tables) :
    process.Relies library tables ∧ process.property = none ∧ process.inWorkspace = false := by
  cases process with
  | succeeded => exact ⟨trivial, rfl, rfl⟩
  | rejected status message => exact ⟨trivial, rfl, rfl⟩
  | _ => contradiction

theorem failure_finished (process : Process) : process.failure.finished = true := by
  cases process <;> rfl

theorem Sound.apart (sound : Sound library state) {other : Nat} {left right : Process}
    (leftHere : state.processes[index]? = some left) (rightHere : state.processes[other]? = some right)
    (different : index ≠ other) :
    (∀ key, right.property = some key → left.property ≠ some key) ∧
      (right.inWorkspace = true → left.inWorkspace = false) := by
  have leftHolds := sound.holds index left leftHere
  have rightHolds := sound.holds other right rightHere
  constructor
  · intro key rightKey leftKey
    exact different (sound.exclusive _ _ _ (leftHolds.1 key leftKey) (rightHolds.1 key rightKey))
  · intro rightIn
    by_contra leftIn
    obtain ⟨spelling, rightLock⟩ := rightHolds.2 rightIn
    obtain ⟨same, leftLock⟩ := leftHolds.2 (by simpa using leftIn)
    obtain rfl := sound.oneSpelling _ _ _ _ leftLock rightLock
    exact different (sound.exclusive _ _ _ leftLock rightLock)

theorem Sound.settle (sound : Sound library state) (here : state.processes[index]? = some process)
    (executes : Executes library process next state.tables after) :
    Sound library (settle state index after next) := by
  have fewer : ∀ lock ∈ (Properties.settle state index after next).locks, lock ∈ state.locks := by
    intro lock member
    simp only [Properties.settle] at member
    split at member
    · exact (mem_release.mp member).1
    · exact member
  have others : ∀ lock ∈ state.locks, lock.2 ≠ index →
      lock ∈ (Properties.settle state index after next).locks := by
    intro lock member different
    simp only [Properties.settle]
    split
    · exact mem_release.mpr ⟨member, different⟩
    · exact member
  refine ⟨?_, ?_, ?_, executes.consistent, ?_⟩
  · intro key left right leftMember rightMember
    exact sound.exclusive key left right (fewer _ leftMember) (fewer _ rightMember)
  · intro left right owner other leftMember rightMember
    exact sound.oneSpelling left right owner other (fewer _ leftMember) (fewer _ rightMember)
  · intro position row listed
    rcases ListLib.getElem?_set_some listed with ⟨rfl, rfl⟩ | ⟨different, listed⟩
    · rcases executes.continues.2 with finished | ⟨sameProperty, sameWorkspace, -⟩
      · obtain ⟨-, noProperty, outside⟩ := finished_spec library finished after
        simp [Process.Holds, noProperty, outside]
      · have held := sound.holds _ process here
        by_cases finished : row.finished = true
        · obtain ⟨-, noProperty, outside⟩ := finished_spec library finished after
          simp [Process.Holds, noProperty, outside]
        · simpa [Process.Holds, Properties.settle, finished, sameProperty, sameWorkspace] using held
    · have held := sound.holds position row listed
      refine ⟨fun key property => others _ (held.1 key property) different, fun inside => ?_⟩
      obtain ⟨workspaceID, lock⟩ := held.2 inside
      exact ⟨workspaceID, others _ lock different⟩
  · intro position row listed
    rcases ListLib.getElem?_set_some listed with ⟨rfl, rfl⟩ | ⟨different, listed⟩
    · exact executes.continues.1
    · obtain ⟨property, workspace⟩ := sound.apart here listed (Ne.symm different)
      exact (sound.relies position row listed).frame executes.kept property workspace

theorem Sound.fails (sound : Sound library state) (here : state.processes[index]? = some process) :
    Sound library (Properties.settle state index state.tables process.failure) := by
  have finished := failure_finished process
  have relies := (finished_spec library finished state.tables).1
  exact sound.settle here (Executes.unchanged sound.consistent ⟨relies, Or.inl finished⟩)

theorem oneSpelling_spec {locks : List (LockKey × Nat)} {workspaceID other : String} {owner : Nat}
    (same : oneSpelling locks workspaceID = true) (member : (.props other, owner) ∈ locks) :
    other = workspaceID := by
  simpa using List.all_eq_true.mp same _ member

theorem locked_spec (library : Library) {key : LockKey} (wants : process.wants = some key) (tables : Tables) :
    process.locked.Relies library tables ∧
      (∀ property, process.locked.property = some property →
        key = .prop property ∨ process.property = some property) ∧
      (process.locked.inWorkspace = true →
        (∃ workspaceID, key = .props workspaceID) ∨ process.inWorkspace = true) := by
  cases process with
  | createLock workspaceID draft =>
      obtain rfl := Option.some.inj wants
      exact ⟨trivial, by simp [Process.locked, Process.property], fun _ => Or.inl ⟨_, rfl⟩⟩
  | updateLockWorkspace workspaceID id request =>
      obtain rfl := Option.some.inj wants
      exact ⟨trivial, by simp [Process.locked, Process.property], fun _ => Or.inl ⟨_, rfl⟩⟩
  | updateLockProperty id request =>
      obtain rfl := Option.some.inj wants
      exact ⟨trivial, by simp [Process.locked, Process.property], fun _ => Or.inr rfl⟩
  | setLock issue property raw =>
      obtain rfl := Option.some.inj wants
      exact ⟨trivial, by simp [Process.locked, Process.property],
        by simp [Process.locked, Process.inWorkspace]⟩
  | _ => contradiction

theorem Sound.locks {key : LockKey} {locks : List (LockKey × Nat)} (sound : Sound library state)
    (here : state.processes[index]? = some process) (wants : process.wants = some key)
    (took : acquire state.locks key index = some locks)
    (spelled : ∀ workspaceID, key = .props workspaceID →
      Properties.oneSpelling state.locks workspaceID = true) :
    Sound library
      { state with locks := locks, processes := state.processes.set index process.locked } := by
  obtain ⟨relies, property, workspace⟩ := locked_spec library wants state.tables
  have exclusive := sound.exclusive.acquire took
  obtain ⟨rfl, -⟩ := acquire_spec took
  refine ⟨exclusive, ?_, ?_, sound.consistent, ?_⟩
  · intro left right owner other leftMember rightMember
    rcases List.mem_cons.mp leftMember with leftNew | leftOld
    · have leftKey := (Prod.mk.inj leftNew).1
      rcases List.mem_cons.mp rightMember with rightNew | rightOld
      · have sameKey := leftKey.trans (Prod.mk.inj rightNew).1.symm
        simpa using sameKey
      · exact (oneSpelling_spec (spelled left leftKey.symm) rightOld).symm
    · rcases List.mem_cons.mp rightMember with rightNew | rightOld
      · exact oneSpelling_spec (spelled right (Prod.mk.inj rightNew).1.symm) leftOld
      · exact sound.oneSpelling left right owner other leftOld rightOld
  · intro position row listed
    rcases ListLib.getElem?_set_some listed with ⟨rfl, rfl⟩ | ⟨-, listed⟩
    · have held := sound.holds _ process here
      refine ⟨fun wanted isWanted => ?_, fun inside => ?_⟩
      · rcases property wanted isWanted with rfl | before
        · exact List.mem_cons_self
        · exact List.mem_cons_of_mem _ (held.1 wanted before)
      · rcases workspace inside with ⟨workspaceID, rfl⟩ | before
        · exact ⟨workspaceID, List.mem_cons_self⟩
        · obtain ⟨workspaceID, lock⟩ := held.2 before
          exact ⟨workspaceID, List.mem_cons_of_mem _ lock⟩
    · have held := sound.holds position row listed
      refine ⟨fun wanted isWanted => List.mem_cons_of_mem _ (held.1 wanted isWanted), fun inside => ?_⟩
      obtain ⟨workspaceID, lock⟩ := held.2 inside
      exact ⟨workspaceID, List.mem_cons_of_mem _ lock⟩
  · intro position row listed
    rcases ListLib.getElem?_set_some listed with ⟨rfl, rfl⟩ | ⟨-, listed⟩
    · exact relies
    · exact sound.relies position row listed

theorem Sound.issues (sound : Sound library state) {issues : List Issue} {next : Nat}
    (each : ∀ issue ∈ issues, ∀ key value, issue.properties key = some value →
      ∃ old ∈ state.tables.issues, old.properties key = some value) :
    Sound library
      { state with tables := { state.tables with issues := issues, nextIssue := next } } where
  exclusive := sound.exclusive
  oneSpelling := sound.oneSpelling
  holds := sound.holds
  consistent := sound.consistent.issues fun issue member key value held =>
    Or.inl (each issue member key value held)
  relies := by
    intro position row listed
    have kept : Kept .succeeded state.tables
        { state.tables with issues := issues, nextIssue := next } := {
      definitions := fun _ _ _ found => found
      values := fun key _ issue member value held => each issue member key value held
      count := fun _ => le_refl _ }
    exact (sound.relies position row listed).frame kept (by simp [Process.property])
      (by simp [Process.inWorkspace])

theorem start_spec (library : Library) (newIDs : Nat → String) (call : Call) (tables : Tables) :
    (call.start library newIDs).Relies library tables ∧
      (call.start library newIDs).property = none ∧
      (call.start library newIDs).inWorkspace = false := by
  cases call with
  | create workspaceID request =>
      simp only [Call.start]
      split <;> exact ⟨trivial, rfl, rfl⟩
  | _ => exact ⟨trivial, rfl, rfl⟩

theorem Sound.calls (sound : Sound library state) (call : Call) (newIDs : Nat → String) :
    Sound library { state with processes := state.processes ++ [call.start library newIDs] } where
  exclusive := sound.exclusive
  oneSpelling := sound.oneSpelling
  holds := by
    intro position row listed
    rcases ListLib.getElem?_append_some listed with old | rfl
    · exact sound.holds position row old
    · obtain ⟨-, property, workspace⟩ := start_spec library newIDs call state.tables
      simp [Process.Holds, property, workspace]
  consistent := sound.consistent
  relies := by
    intro position row listed
    rcases ListLib.getElem?_append_some listed with old | rfl
    · exact sound.relies position row old
    · exact (start_spec library newIDs call state.tables).1

theorem sound_step (action : Action) (sound : Sound library state)
    (isOrderly : orderly state action = true) : Sound library (step library state action) := by
  cases action with
  | call call newIDs => exact sound.calls call newIDs
  | advance index outside =>
      simp only [step]
      split
      · exact sound
      · rename_i process here
        simp only [orderly, here, Bool.and_eq_true] at isOrderly
        split
        · exact sound.fails here
        · split
          · rename_i key wants
            split
            · exact sound
            · rename_i locks took
              refine sound.locks here wants took fun workspaceID isProps => ?_
              subst isProps
              simpa [wants] using isOrderly.2
          · rename_i running
            cases executed : process.execute library state.tables outside with
            | mk after next =>
                exact sound.settle here (executes sound.consistent (sound.relies index process here)
                  isOrderly.1 running executed)
  | crash index =>
      simp only [step]
      split
      · exact sound
      · rename_i process here
        exact sound.fails here
  | createIssue =>
      refine sound.issues fun issue member key value held => ?_
      rcases List.mem_append.mp member with old | new
      · exact ⟨issue, old, held⟩
      · rw [List.mem_singleton.mp new] at held
        contradiction
  | deleteIssue id =>
      exact sound.issues fun issue member _ _ held => ⟨issue, (List.mem_filter.mp member).1, held⟩

end Steps

def Action.request : Action → Option Nat
  | .advance index _ => some index
  | .crash index => some index
  | _ => none

section Rejections

variable {library : Library} {state : State} {index : Nat} {action : Action}

theorem succeeded_step (done : state.processes[index]? = some .succeeded) (action : Action) :
    (step library state action).processes[index]? = some .succeeded := by
  obtain ⟨bound, -⟩ := List.getElem?_eq_some_iff.mp done
  cases action with
  | call call newIDs => rw [step, List.getElem?_append_left bound, done]
  | advance other outside =>
      simp only [step]
      by_cases same : other = index
      · subst same
        simp only [done, Process.wants, Process.execute, Process.failure]
        split <;> simp [settle, bound]
      · repeat' split
        all_goals simp only [settle, List.getElem?_set_ne same, done]
  | crash other =>
      simp only [step]
      by_cases same : other = index
      · subst same
        simp only [done, Process.failure]
        simp [settle, bound]
      · split <;> simp only [settle, List.getElem?_set_ne same, done]
  | createIssue => exact done
  | deleteIssue id => exact done

theorem step_tables (isRequest : action.request = some index) :
    (step library state action).tables = state.tables ∨
      (step library state action).processes[index]? = some .succeeded := by
  cases action with
  | advance other outside =>
      obtain rfl := Option.some.inj isRequest
      simp only [step]
      split
      · exact Or.inl rfl
      · rename_i process here
        obtain ⟨bound, -⟩ := List.getElem?_eq_some_iff.mp here
        split
        · exact Or.inl rfl
        · split
          · split <;> exact Or.inl rfl
          · cases executed : process.execute library state.tables outside with
            | mk after next =>
                rcases execute_tables executed with same | rfl
                · exact Or.inl same
                · exact Or.inr (by simp [settle, bound])
  | crash other =>
      simp only [step]
      split <;> exact Or.inl rfl
  | _ => contradiction

theorem rejected_changes_nothing {actions : List Action} {status : Nat} {message : String}
    (rejected : (run (step library) state actions).processes[index]? = some (.rejected status message)) :
    Every (step library) (fun before action => action.request = some index →
      (step library before action).tables = before.tables) state actions := by
  induction actions generalizing state with
  | nil => trivial
  | cons action rest ih =>
      refine ⟨fun isRequest => (step_tables isRequest).resolve_right fun done => ?_, ih rejected⟩
      have still := @run_invariant _ _ (step library)
        (fun state => state.processes[index]? = some .succeeded) _ done
        (fun _ action before => succeeded_step before action) rest
      rw [run_cons] at rejected
      rw [rejected] at still
      simp at still

end Rejections

theorem sound_initial (library : Library) : Sound library initial where
  exclusive := by simp [Exclusive, initial]
  oneSpelling := by simp [initial]
  holds := by simp [initial]
  consistent := ⟨by simp [initial], by simp [initial], by simp [ValuesFit, initial], by
    simp [countActiveIssueProperties, initial]⟩
  relies := by simp [initial]

/-- Stored values fit and the cap holds in every state, and a rejected request has changed
nothing. -/
def KeepsProperties (library : Library) (actions : List Action) : Prop :=
  Always (step library) (fun state => ValuesFit library state.tables ∧
      countActiveIssueProperties state.tables ≤ maxActivePropertiesPerWorkspace) initial actions ∧
    ∀ index status message,
      (run (step library) initial actions).processes[index]? = some (.rejected status message) →
        Every (step library) (fun state action => action.request = some index →
          (step library state action).tables = state.tables) initial actions

theorem values_fit_in_orderly_runs (library : Library) (actions : List Action)
    (isOrderly : Every (step library) (fun state action => orderly state action = true) initial
      actions) : KeepsProperties library actions := by
  refine ⟨?_, fun _ _ _ rejected => rejected_changes_nothing rejected⟩
  have sound := always_of_invariant (sound_initial library)
    (fun _ action before allowed => sound_step action before allowed) isOrderly
  exact sound.mono fun state sound => ⟨sound.consistent.fits, sound.consistent.capped⟩

def sampleLibrary : Library where
  parseURL _ := none
  parseUUID _ := true
  toLower text := text
  lower text := text
  quote text := "\"" ++ text ++ "\""
  columnSize _ := 64

def sampleOutside : Outside := {}

def blankRun : List Action :=
  [.call (.create "w" ⟨"notes", "text", "", "", none⟩) fun _ => "",
    .advance 0 sampleOutside, .advance 0 sampleOutside, .advance 0 sampleOutside, .createIssue,
    .call (.set 0 0 (.value (.string (String.singleton (Char.ofNat 0))))) fun _ => "",
    .advance 1 sampleOutside, .advance 1 sampleOutside, .advance 1 sampleOutside]

theorem blank_text_is_stored : ¬ ∀ library actions, KeepsProperties library actions := by
  intro keeps
  have last := (keeps sampleLibrary blankRun).1.last.1
  have current : getIssueProperty (run (step sampleLibrary) initial blankRun).tables 0 =
      some ⟨0, "notes", .text, "", "", [], 1, none⟩ := by decide
  obtain ⟨definition, found, fits⟩ := last _ (List.Mem.head _) 0 (.string "") rfl
  obtain rfl := Option.some.inj (current.symm.trans found)
  exact absurd fits (by decide)

def selectRun : List Action :=
  [.call (.create "w" ⟨"size", "select", "", "",
      some [⟨"a", "small", "#000000"⟩, ⟨"b", "large", "#ffffff"⟩]⟩) fun _ => "",
    .advance 0 sampleOutside, .advance 0 sampleOutside, .advance 0 sampleOutside, .createIssue,
    .call (.set 0 0 (.value (.string "a"))) fun _ => "",
    .call (.update "w" 0 ⟨none, none, none, some [⟨"a", "tiny", "#000000"⟩], none⟩) fun _ => "",
    .advance 1 sampleOutside, .advance 2 sampleOutside, .advance 1 sampleOutside,
    .advance 2 sampleOutside, .advance 1 sampleOutside, .advance 2 sampleOutside,
    .advance 2 sampleOutside, .advance 2 sampleOutside, .advance 2 sampleOutside]

theorem values_fit_in_select_run :
    (run (step sampleLibrary) initial selectRun).processes.all Process.finished = true ∧
      KeepsProperties sampleLibrary selectRun :=
  ⟨by decide, values_fit_in_orderly_runs sampleLibrary selectRun (by decide)⟩

end MulticaOS.Properties
