import MulticaOS.IssueCreation.Transactions

/-!
What concurrent creates leave behind: distinct numbers, positions on top of everything committed before,
no second active issue for one title, and nothing of a create that is refused.
-/

namespace MulticaOS.IssueCreation

variable {Id Columns : Type} [DecidableEq Id]

def Duplicate (earlier later : Issue Id Columns) : Prop :=
  earlier.workspaceID = later.workspaceID ∧ isActive earlier = true ∧ earlier.projectID = later.projectID ∧
    earlier.parentIssueID = later.parentIssueID ∧ normalizeTitle earlier.title = normalizeTitle later.title

/-- An issue and one that was committed before it; `params` is what the later one was created with. -/
structure Follows (params : IssueCreateParams Id Columns) (earlier later : Issue Id Columns) : Prop where
  position : earlier.workspaceID = later.workspaceID → earlier.status = later.status →
    later.position < earlier.position
  unique : params.allowDuplicate = false → normalizeTitle later.title ≠ [] → ¬Duplicate earlier later

def DistinctNumbers (issues : List (Issue Id Columns)) : Prop :=
  issues.Pairwise fun earlier later => earlier.workspaceID = later.workspaceID → earlier.number ≠ later.number

structure Start (tables : Tables Id Columns) : Prop where
  numbers : DistinctNumbers tables.issues
  bounded : ∀ issue ∈ tables.issues, issue.number ≤ tables.counter issue.workspaceID
  ascii : ∀ issue ∈ tables.issues, Ascii issue.title

section Steps

variable {text : Option Id → String} {hash : String → Int}
variable {tables : Tables Id Columns} {params : IssueCreateParams Id Columns} {choice : Choice Id}

theorem origin_of_execute {stage : Stage Id Columns} {resolved : Resolved Id}
    {statement : Statement Id Columns}
    (next : execute tables params choice stage = .inside resolved statement) :
    (normalizeTitle params.title = [] ∧ statement.number = none) ∨
      (stage = .lock resolved ∧ statement.number = none) ∨
      ∃ current, stage = .inside resolved current ∧
        (statement.number ≠ none → current = .count ∨ current.number ≠ none) := by
  have unguarded : Unguarded params (execute tables params choice stage) →
      normalizeTitle params.title = [] ∧ statement.number = none := by
    intro unguarded
    obtain ⟨rfl, blank⟩ := unguarded resolved statement next
    exact ⟨blank, rfl⟩
  cases stage with
  | begin => exact Or.inl (unguarded unguarded_resolveParent)
  | parent parentID =>
      refine Or.inl (unguarded ?_)
      rw [execute]
      split
      · exact fun _ _ same => by cases same
      · exact unguarded_resolveProject _
  | project projectID | label projectID labelID todo found =>
      refine Or.inl (unguarded ?_)
      rw [execute]
      split
      · exact unguarded_validate _ _ _
      · exact fun _ _ same => by cases same
  | lock other =>
      rw [execute, Stage.inside.injEq] at next
      obtain ⟨rfl, rfl⟩ := next
      refine Or.inr (Or.inl ⟨rfl, ?_⟩)
      split <;> rfl
  | inside other current =>
      refine Or.inr (Or.inr ?_)
      cases current with
      | find =>
          rw [execute] at next
          split at next
          · cases next
          · cases next
            exact ⟨.find, rfl, fun counted => absurd rfl counted⟩
      | count =>
          cases next
          exact ⟨.count, rfl, fun _ => Or.inl rfl⟩
      | top number =>
          cases next
          exact ⟨.top number, rfl, fun _ => Or.inr (by rintro ⟨⟩)⟩
      | insert number position =>
          cases labels : other.labels <;>
            · rw [execute, labels] at next
              cases next
              exact ⟨_, rfl, fun _ => Or.inr (by rintro ⟨⟩)⟩
      | attach issue label todo attached =>
          cases todo <;>
            · cases next
              exact ⟨_, rfl, fun _ => Or.inr (by rintro ⟨⟩)⟩
      | commit issue attached => cases next
  | created issue => cases next
  | refused refusal => cases next

section Held

omit [DecidableEq Id]

variable {process : Process Id Columns} {resolved : Resolved Id} {statement : Statement Id Columns}

theorem row_inside (inside : process.stage = .inside resolved statement) :
    process.row = statement.number.map fun _ => process.params.workspaceID := by
  rw [Process.row, inside]
  cases statement <;> rfl

theorem key_inside (inside : process.stage = .inside resolved statement)
    (guarded : normalizeTitle process.params.title ≠ []) :
    process.key text hash = some (wantedKey text hash process.params resolved) := by
  rw [Process.key, inside]
  exact if_neg guarded

theorem inside_of_key {lock : Int} (holds : process.key text hash = some lock) :
    ∃ resolved statement, process.stage = .inside resolved statement ∧
      normalizeTitle process.params.title ≠ [] ∧ lock = wantedKey text hash process.params resolved := by
  rw [Process.key] at holds
  split at holds
  · rename_i resolved statement inside
    split at holds
    · cases holds
    · rename_i guarded
      exact ⟨resolved, statement, inside, guarded, (Option.some.inj holds).symm⟩
  · cases holds

theorem inside_of_row {workspaceID : Id} (holds : process.row = some workspaceID) :
    ∃ resolved statement, process.stage = .inside resolved statement ∧ statement.number ≠ none ∧
      workspaceID = process.params.workspaceID := by
  cases stage : process.stage with
  | inside resolved statement =>
      rw [row_inside stage, Option.map_eq_some_iff] at holds
      obtain ⟨number, counted, rfl⟩ := holds
      exact ⟨resolved, statement, rfl, by simp [counted], rfl⟩
  | _ => simp [Process.row, stage] at holds

end Held

theorem key_execute {stage : Stage Id Columns} {lock : Int}
    (holds : Process.key text hash ⟨params, execute tables params choice stage⟩ = some lock) :
    Process.key text hash ⟨params, stage⟩ = some lock ∨
      ∃ resolved, stage = .lock resolved ∧ lock = wantedKey text hash params resolved := by
  obtain ⟨resolved, statement, next, guarded, rfl⟩ := inside_of_key holds
  rcases origin_of_execute next with ⟨blank, -⟩ | ⟨atLock, -⟩ | ⟨current, rfl, -⟩
  · exact absurd blank guarded
  · exact Or.inr ⟨resolved, atLock, rfl⟩
  · exact Or.inl (key_inside rfl guarded)

theorem row_execute {stage : Stage Id Columns} {workspaceID : Id}
    (holds : Process.row ⟨params, execute tables params choice stage⟩ = some workspaceID) :
    Process.row ⟨params, stage⟩ = some workspaceID ∨
      ∃ resolved, stage = .inside resolved .count ∧ workspaceID = params.workspaceID := by
  obtain ⟨resolved, statement, next, counted, rfl⟩ := inside_of_row holds
  rcases origin_of_execute next with ⟨-, none⟩ | ⟨-, none⟩ | ⟨current, rfl, before⟩
  · exact absurd none counted
  · exact absurd none counted
  · rcases before counted with rfl | numbered
    · exact Or.inr ⟨resolved, rfl, rfl⟩
    · obtain ⟨number, found⟩ := Option.ne_none_iff_exists'.mp numbered
      exact Or.inl (by rw [row_inside rfl, found]; rfl)

omit [DecidableEq Id] in
theorem failure_ended (stage : Stage Id Columns) :
    (∃ refusal, stage.failure = .refused refusal) ∨ ∃ issue, stage = .created issue ∧ stage.failure = stage := by
  cases stage with
  | inside resolved statement => cases statement <;> exact Or.inl ⟨_, rfl⟩
  | created issue => exact Or.inr ⟨issue, rfl, rfl⟩
  | _ => exact Or.inl ⟨_, rfl⟩

theorem step_cases (text : Option Id → String) (hash : String → Int) (state : State Id Columns)
    (action : Action Id) :
    step text hash state action = state ∨
    (∃ process stage, state.processes[action.index]? = some process ∧
      step text hash state action = state.move action.index process stage ∧
      (stage = process.stage.failure ∨
        (blocked text hash state action.index process = false ∧
          stage = execute state.tables process.params action.choice process.stage))) ∨
    ∃ process resolved issue attached, state.processes[action.index]? = some process ∧
      process.stage = .inside resolved (.commit issue attached) ∧
      step text hash state action =
        { state.move action.index process (.created issue) with
          tables := state.tables.commit issue attached
          log := state.log ++ [(action.index, issue)] } := by
  rw [step]
  split
  · exact Or.inl rfl
  · rename_i process found
    split
    · exact Or.inr (Or.inl ⟨process, _, found, rfl, Or.inl rfl⟩)
    · split
      · exact Or.inl rfl
      · rename_i free
        dsimp only
        split
        · rename_i resolved issue attached committing
          refine Or.inr (Or.inr ⟨process, resolved, issue, attached, found, committing, ?_⟩)
          rw [committing]
          rfl
        · exact Or.inr (Or.inl ⟨process, _, found, rfl, Or.inr ⟨by simpa using free, rfl⟩⟩)

end Steps

section Runs

variable {text : Option Id → String} {hash : String → Int} {start : Tables Id Columns}
variable {requests : List (IssueCreateParams Id Columns)} {state : State Id Columns}
variable {index : Nat} {process : Process Id Columns}

def Ordered (start : Tables Id Columns) (requests : List (IssueCreateParams Id Columns))
    (log : List (Nat × Issue Id Columns)) : Prop :=
  ∀ front entry back, log = front ++ entry :: back → ∀ params, requests[entry.1]? = some params →
    ∀ earlier ∈ start.issues ++ front.map Prod.snd, Follows params earlier entry.2

structure Sound (text : Option Id → String) (hash : String → Int) (start : Tables Id Columns)
    (requests : List (IssueCreateParams Id Columns)) (state : State Id Columns) : Prop where
  tables : Start state.tables
  issues : state.tables.issues = start.issues ++ state.log.map Prod.snd
  asked : ∀ (index : Nat) process, state.processes[index]? = some process →
    requests[index]? = some process.params
  rows : Exclusive Process.row state.processes
  keys : Exclusive (Process.key text hash) state.processes
  inside : ∀ (index : Nat) process, state.processes[index]? = some process → ∀ resolved statement,
    process.stage = .inside resolved statement → Inside state.tables process.params resolved statement
  ordered : Ordered start requests state.log
  logged : ∀ entry ∈ state.log, ∃ process, state.processes[entry.1]? = some process ∧
    process.stage = .created entry.2

theorem initial_sound (tables : Start start) : Sound text hash start requests (initial start requests) := by
  have begun : ∀ (index : Nat) process, (initial start requests).processes[index]? = some process →
      requests[index]? = some process.params ∧ process.stage = .begin := by
    intro index process found
    rw [initial, List.getElem?_map, Option.map_eq_some_iff] at found
    obtain ⟨params, asked, rfl⟩ := found
    exact ⟨asked, rfl⟩
  refine
    { tables := tables, issues := by simp [initial], asked := fun index process found => (begun index process found).1
      rows := ?_, keys := ?_, inside := ?_, ordered := ?_, logged := by simp [initial] }
  · intro first second left right lock isLeft _ holds
    simp [Process.row, (begun first left isLeft).2] at holds
  · intro first second left right lock isLeft _ holds
    simp [Process.key, (begun first left isLeft).2] at holds
  · intro index process found resolved statement inside
    rw [(begun index process found).2] at inside
    cases inside
  · intro front entry back same
    simp [initial] at same

theorem sound_move (sound : Sound text hash start requests state) (found : state.processes[index]? = some process)
    {stage : Stage Id Columns}
    (inside : ∀ resolved statement, stage = .inside resolved statement →
      Inside state.tables process.params resolved statement)
    (takesRow : ∀ lock, Process.row ⟨process.params, stage⟩ = some lock →
      process.row = some lock ∨ heldByOther Process.row state.processes index lock = false)
    (takesKey : ∀ lock, Process.key text hash ⟨process.params, stage⟩ = some lock →
      process.key text hash = some lock ∨
        heldByOther (Process.key text hash) state.processes index lock = false)
    (keeps : ∀ issue, process.stage = .created issue → stage = .created issue) :
    Sound text hash start requests (state.move index process stage) := by
  refine
    { tables := sound.tables, issues := sound.issues, asked := ?_, rows := sound.rows.set found takesRow
      keys := sound.keys.set found takesKey, inside := ?_, ordered := sound.ordered, logged := ?_ }
  · intro other moved isMoved
    rcases ListLib.getElem?_set_some isMoved with ⟨rfl, rfl⟩ | ⟨-, before⟩
    · exact sound.asked _ process found
    · exact sound.asked other moved before
  · intro other moved isMoved
    rcases ListLib.getElem?_set_some isMoved with ⟨rfl, rfl⟩ | ⟨-, before⟩
    · exact inside
    · exact sound.inside other moved before
  · intro entry listed
    obtain ⟨creator, isCreator, created⟩ := sound.logged entry listed
    by_cases own : entry.1 = index
    · rw [own, found, Option.some.injEq] at isCreator
      refine ⟨⟨process.params, stage⟩, ?_, keeps entry.2 (isCreator ▸ created)⟩
      simp [State.move, own, (List.getElem?_eq_some_iff.mp found).1]
    · exact ⟨creator, by simpa [State.move, List.getElem?_set_ne (Ne.symm own)] using isCreator, created⟩

theorem inside_commit (sound : Sound text hash start requests state)
    (found : state.processes[index]? = some process) {resolved otherResolved : Resolved Id}
    {issue : Issue Id Columns} {attached : List (Id × Id)} {statement : Statement Id Columns}
    (committing : process.stage = .inside resolved (.commit issue attached)) {other : Nat}
    {waiting : Process Id Columns} (isOther : state.processes[other]? = some waiting) (apart : other ≠ index)
    (inside : waiting.stage = .inside otherResolved statement) :
    Inside (state.tables.commit issue attached) waiting.params otherResolved statement := by
  have before := sound.inside other waiting isOther otherResolved statement inside
  obtain ⟨number, position, choice, rfl⟩ :=
    (sound.inside index process found resolved _ committing).issue issue rfl
  have elsewhere : statement.number ≠ none → process.params.workspaceID ≠ waiting.params.workspaceID := by
    intro counted same
    obtain ⟨number, isNumber⟩ := Option.ne_none_iff_exists'.mp counted
    have row : waiting.row = some waiting.params.workspaceID := by rw [row_inside inside, isNumber]; rfl
    exact apart (sound.rows other index waiting process _ isOther found row
      ((row_inside committing).trans (congrArg some same)))
  refine ⟨?_, ?_, ?_, before.issue⟩
  · intro past alone guarded earlier listed duplicates
    rcases List.mem_append.mp listed with old | new
    · exact before.clear past alone guarded earlier old duplicates
    · obtain ⟨workspace, -, project, parent, title⟩ := List.mem_singleton.mp new ▸ duplicates
      have same : wantedKey text hash process.params resolved =
          wantedKey text hash waiting.params otherResolved := by
        simp only [newIssue] at workspace project parent title
        simp only [wantedKey, workspace, project, parent, title]
      have held : process.key text hash = some (wantedKey text hash process.params resolved) :=
        key_inside committing (by rwa [← title] at guarded)
      exact apart (sound.keys other index waiting process _ isOther found (key_inside inside guarded)
        (held.trans (congrArg some same)))
  · intro number counted
    rw [before.number number counted]
    exact congrArg (· + 1) (Function.update_of_ne (elsewhere (by simp [counted])).symm _ _).symm
  · intro position isPosition earlier listed column
    rcases List.mem_append.mp listed with old | new
    · exact before.position position isPosition earlier old column
    · have counted : statement.number ≠ none := by
        cases statement <;> simp [Statement.position, Statement.number] at isPosition ⊢
      rw [List.mem_singleton.mp new] at column
      simp only [inColumn, newIssue, Bool.and_eq_true] at column
      exact absurd (of_decide_eq_true column.1) (elsewhere counted)

theorem start_commit (tables : Start state.tables) {issue : Issue Id Columns} (attached : List (Id × Id))
    (number : issue.number = state.tables.counter issue.workspaceID + 1) (ascii : Ascii issue.title) :
    Start (state.tables.commit issue attached) where
  numbers := by
    refine List.pairwise_append.mpr ⟨tables.numbers, List.pairwise_singleton _ _, ?_⟩
    intro earlier listed later new workspace
    rw [List.mem_singleton.mp new] at workspace ⊢
    have below := tables.bounded earlier listed
    rw [workspace] at below
    omega
  bounded := by
    intro other listed
    simp only [Tables.commit]
    rcases List.mem_append.mp listed with old | new
    · have below := tables.bounded other old
      by_cases same : other.workspaceID = issue.workspaceID
      · rw [same, Function.update_self]
        rw [same] at below
        omega
      · rw [Function.update_of_ne same]
        exact below
    · rw [List.mem_singleton.mp new, Function.update_self]
  ascii := by
    intro other listed
    rcases List.mem_append.mp listed with old | new
    · exact tables.ascii other old
    · exact List.mem_singleton.mp new ▸ ascii

theorem follows_of_inside {params : IssueCreateParams Id Columns} {tables : Tables Id Columns}
    {resolved : Resolved Id} {issue : Issue Id Columns} {attached : List (Id × Id)}
    (inside : Inside tables params resolved (.commit issue attached)) {earlier : Issue Id Columns}
    (listed : earlier ∈ tables.issues) : Follows params earlier issue := by
  obtain ⟨number, position, choice, rfl⟩ := inside.issue issue rfl
  refine ⟨fun workspace status => ?_, fun alone guarded => inside.clear nofun alone guarded earlier listed⟩
  refine inside.position _ rfl earlier listed ?_
  simp only [newIssue] at workspace status
  simp [inColumn, workspace, status]

theorem sound_commit (asks : ∀ params ∈ requests, Ascii params.title)
    (sound : Sound text hash start requests state) (found : state.processes[index]? = some process)
    {resolved : Resolved Id} {issue : Issue Id Columns} {attached : List (Id × Id)}
    (committing : process.stage = .inside resolved (.commit issue attached)) :
    Sound text hash start requests
      { state.move index process (.created issue) with
        tables := state.tables.commit issue attached
        log := state.log ++ [(index, issue)] } := by
  have inside := sound.inside index process found resolved _ committing
  have asked := sound.asked index process found
  have moved : Sound text hash start requests (state.move index process (.created issue)) :=
    sound_move sound found nofun nofun nofun fun other created => by rw [committing] at created; cases created
  refine
    { tables := ?_, issues := ?_, asked := moved.asked, rows := moved.rows, keys := moved.keys
      inside := ?_, ordered := ?_, logged := ?_ }
  · obtain ⟨number, position, choice, rfl⟩ := inside.issue issue rfl
    exact start_commit sound.tables attached (inside.number _ rfl) (asks _ (List.mem_of_getElem? asked))
  · simp [Tables.commit, sound.issues]
  · intro other waiting isOther otherResolved statement waits
    rcases ListLib.getElem?_set_some isOther with ⟨rfl, rfl⟩ | ⟨apart, before⟩
    · cases waits
    · exact inside_commit sound found committing before apart waits
  · intro front entry back same params isParams earlier listed
    rcases List.eq_nil_or_concat back with rfl | ⟨rest, last, rfl⟩
    · obtain ⟨rfl, new⟩ := List.append_inj' same rfl
      obtain rfl := List.singleton_inj.mp new
      rw [asked, Option.some.injEq] at isParams
      rw [← sound.issues] at listed
      exact isParams ▸ follows_of_inside inside listed
    · rw [List.concat_eq_append, ← List.cons_append, ← List.append_assoc] at same
      exact sound.ordered front entry rest (List.append_inj' same rfl).1 params isParams earlier listed
  · intro entry listed
    rcases List.mem_append.mp listed with old | new
    · exact moved.logged entry old
    · rw [List.mem_singleton.mp new]
      refine ⟨⟨process.params, .created issue⟩, ?_, rfl⟩
      simp [State.move, (List.getElem?_eq_some_iff.mp found).1]

theorem sound_step (asks : ∀ params ∈ requests, Ascii params.title)
    (sound : Sound text hash start requests state) (action : Action Id) :
    Sound text hash start requests (step text hash state action) := by
  rcases step_cases text hash state action with
    same | ⟨process, stage, found, same, next⟩ | ⟨process, resolved, issue, attached, found, committing, same⟩
  · rw [same]
    exact sound
  · rw [same]
    rcases next with rfl | ⟨free, rfl⟩
    · rcases failure_ended process.stage with ⟨refusal, ended⟩ | ⟨issue, created, stays⟩
      · rw [ended]
        refine sound_move sound found nofun nofun nofun fun issue created => ?_
        rw [created] at ended
        cases ended
      · rw [stays, created]
        exact sound_move sound found nofun nofun nofun fun other same => created.symm.trans same
    · refine sound_move sound found ?_ ?_ ?_ ?_
      · intro resolved statement inside
        exact inside_execute sound.tables.ascii (sound.inside _ process found) inside
      · intro lock holds
        refine (row_execute holds).imp_right ?_
        rintro ⟨resolved, atCount, rfl⟩
        simpa only [blocked, atCount] using free
      · intro lock holds
        refine (key_execute holds).imp_right ?_
        rintro ⟨resolved, atLock, rfl⟩
        simpa only [blocked, atLock] using free
      · intro issue created
        rw [created, execute]
  · rw [same]
    exact sound_commit asks sound found committing

theorem run_sound (tables : Start start) (asks : ∀ params ∈ requests, Ascii params.title)
    (actions : List (Action Id)) :
    Sound text hash start requests (RunLib.run (step text hash) (initial start requests) actions) :=
  RunLib.run_invariant (initial_sound tables) (fun _ action sound => sound_step asks sound action) actions

theorem step_log (text : Option Id → String) (hash : String → Int) (state : State Id Columns)
    (action : Action Id) :
    ((step text hash state action).tables = state.tables ∧ (step text hash state action).log = state.log) ∨
      ∃ issue, (step text hash state action).log = state.log ++ [(action.index, issue)] := by
  rcases step_cases text hash state action with
    same | ⟨process, stage, -, same, -⟩ | ⟨process, resolved, issue, attached, -, -, same⟩
  · exact Or.inl ⟨by rw [same], by rw [same]⟩
  · exact Or.inl ⟨by rw [same]; rfl, by rw [same]; rfl⟩
  · exact Or.inr ⟨issue, by rw [same]⟩

theorem run_log {entry : Nat × Issue Id Columns} (listed : entry ∈ state.log) (actions : List (Action Id)) :
    entry ∈ (RunLib.run (step text hash) state actions).log := by
  induction actions generalizing state with
  | nil => exact listed
  | cons action rest ih =>
      refine ih ?_
      rcases step_log text hash state action with ⟨-, same⟩ | ⟨issue, more⟩
      · exact same ▸ listed
      · exact more ▸ List.mem_append_left _ listed

theorem refused_idle {actions front back : List (Action Id)} {action : Action Id}
    (sound : Sound text hash start requests (RunLib.run (step text hash) state actions))
    (split : actions = front ++ action :: back) {refusal : Refusal Id Columns}
    (found : (RunLib.run (step text hash) state actions).processes[action.index]? = some process)
    (refused : process.stage = .refused refusal) :
    (step text hash (RunLib.run (step text hash) state front) action).tables =
      (RunLib.run (step text hash) state front).tables := by
  rcases step_log text hash (RunLib.run (step text hash) state front) action with
    ⟨same, -⟩ | ⟨issue, more⟩
  · exact same
  · have listed : (action.index, issue) ∈ (RunLib.run (step text hash) state actions).log := by
      rw [split, RunLib.run_append, RunLib.run_cons]
      exact run_log (more ▸ List.mem_append_right _ List.mem_cons_self) back
    obtain ⟨creator, isCreator, created⟩ := sound.logged _ listed
    rw [found, Option.some.injEq] at isCreator
    rw [isCreator, created] at refused
    cases refused

end Runs

structure Consistent (text : Option Id → String) (hash : String → Int) (start : Tables Id Columns)
    (requests : List (IssueCreateParams Id Columns)) (actions : List (Action Id)) : Prop where
  tables : Start (RunLib.run (step text hash) (initial start requests) actions).tables
  issues : (RunLib.run (step text hash) (initial start requests) actions).tables.issues =
    start.issues ++ (RunLib.run (step text hash) (initial start requests) actions).log.map Prod.snd
  ordered : Ordered start requests (RunLib.run (step text hash) (initial start requests) actions).log
  normalized : ∀ title, Ascii title → storedNormalization title = normalizeTitle title
  idle : ∀ front action back, actions = front ++ action :: back → ∀ process refusal,
    (RunLib.run (step text hash) (initial start requests) actions).processes[action.index]? = some process →
    process.stage = .refused refusal →
    (step text hash (RunLib.run (step text hash) (initial start requests) front) action).tables =
      (RunLib.run (step text hash) (initial start requests) front).tables

theorem creates_consistent (text : Option Id → String) (hash : String → Int) {start : Tables Id Columns}
    {requests : List (IssueCreateParams Id Columns)} (tables : Start start)
    (asks : ∀ params ∈ requests, Ascii params.title) (actions : List (Action Id)) :
    Consistent text hash start requests actions := by
  have sound : Sound text hash start requests _ := run_sound tables asks actions
  refine ⟨sound.tables, sound.issues, sound.ordered, fun title ascii => storedNormalization_eq ascii, ?_⟩
  intro front action back split process refusal found refused
  exact refused_idle sound split found refused

def untitled : Tables Nat Unit := { issues := [], counter := fun _ => 0, labels := [] }

def request (title : Text) : IssueCreateParams Nat Unit :=
  { workspaceID := 0, title := title, status := .todo, parentIssueID := none, projectID := none
    labelIDs := [], allowDuplicate := false, columns := () }

def statements (index : Nat) (count : Nat) : List (Action Nat) :=
  List.replicate count ⟨index, { fails := false, projectExists := false, labelResourceType := none, id := index, now := 0 }⟩

theorem creates_consistent_twice :
    Consistent (fun _ => "") (fun _ => 0) untitled [request "Fix login".toList, request "Fix login".toList]
      (statements 0 7 ++ statements 1 4) := by
  have tables : Start untitled := ⟨List.Pairwise.nil, by simp [untitled], by simp [untitled]⟩
  exact creates_consistent _ _ tables (by simp [request, Ascii]) _

/-- A title of spaces is stored as often as it is asked for. -/
theorem blank_title_repeated :
    ¬∀ front entry back,
      (RunLib.run (step (fun _ => "") fun _ => 0) (initial untitled [request [' '], request [' ']])
        (statements 0 5 ++ statements 1 5)).log = front ++ entry :: back →
      ∀ params, [request [' '], request [' ']][entry.1]? = some params → params.allowDuplicate = false →
        ∀ earlier ∈ front.map Prod.snd, ¬Duplicate earlier entry.2 := by
  intro unique
  exact unique [_] _ [] rfl _ rfl rfl _ List.mem_cons_self ⟨rfl, rfl, rfl, rfl, rfl⟩

end MulticaOS.IssueCreation
