import MulticaOS.Issues.Updates
import MulticaOS.Lib.Runs

/-!
Requests that update the same issues at the same time.  Each one reads a row and writes it in
a later statement, with anything in between; a write that carries an outdated copy of a
nullable column undoes what another request has written there.
-/

namespace MulticaOS.Issues

inductive Field where
  | title
  | description
  | status
  | priority
  | position
  | assigneeType
  | assigneeId
  | startDate
  | dueDate
  | parentIssueId
  | projectId
  | stage
  deriving DecidableEq

inductive Value where
  | text (text : String)
  | optionalText (text : Option String)
  | position (bits : UInt64)
  | id (id : Option Nat)
  | date (days : Option Int)
  | number (number : Option Int)
  deriving DecidableEq

def Field.nullable : Field → Bool
  | .title | .description | .status | .priority | .position => false
  | _ => true

def Issue.read (issue : Issue) : Field → Value
  | .title => .text issue.title
  | .description => .optionalText issue.description
  | .status => .text issue.status
  | .priority => .text issue.priority
  | .position => .position issue.position
  | .assigneeType => .optionalText issue.assigneeType
  | .assigneeId => .id issue.assigneeId
  | .startDate => .date issue.startDate
  | .dueDate => .date issue.dueDate
  | .parentIssueId => .id issue.parentIssueId
  | .projectId => .id issue.projectId
  | .stage => .number issue.stage

def UpdateIssueRequest.given (parsers : Parsers) (body : UpdateIssueRequest) : Field → Option Value
  | .title => body.title.map .text
  | .description => body.description.map fun text => .optionalText (some text)
  | .status => body.status.map .text
  | .priority => body.priority.map .text
  | .position => body.position.map .position
  | .assigneeType => body.assigneeType.map .optionalText
  | .assigneeId => (givenValue body.assigneeId (decodeUUID parsers "assignee_id")).map .id
  | .startDate => (givenValue body.startDate (decodeDate parsers "start_date")).map .date
  | .dueDate => (givenValue body.dueDate (decodeDate parsers "due_date")).map .date
  | .parentIssueId =>
      (givenValue body.parentIssueId (decodeUUID parsers "parent_issue_id")).map .id
  | .projectId => (givenValue body.projectId (decodeUUID parsers "project_id")).map .id
  | .stage => (givenValue body.stage decodeStage).map .number

/-- A request with the issues it has left, the row it has read for the next write, and the
issues it has updated.  `UpdateIssue` has one issue, a batch any number. -/
structure Request where
  workspaceId : Nat
  body : UpdateIssueRequest
  pending : List Nat
  loaded : Option (Nat × Issue)
  updated : List Nat

structure State where
  table : Table
  requests : Nat → Request

/-- The parent checks read the rows as they `saw` them, at whatever time between the two
statements. -/
inductive Event where
  | load (index : Nat)
  | write (index : Nat) (directory : Directory) (saw : Table) (fails : Bool)

def State.setRequest (state : State) (index : Nat) (request : Request) : State :=
  { state with requests := Function.update state.requests index request }

def load (state : State) (index : Nat) : State :=
  let request := state.requests index
  match request.loaded, request.pending with
  | none, id :: rest =>
      match getIssueInWorkspace state.table id request.workspaceId with
      | none => state.setRequest index { request with pending := rest }
      | some issue =>
          state.setRequest index { request with pending := rest, loaded := some (id, issue) }
  | _, _ => state

def checkedParams (parsers : Parsers) (directory : Directory) (saw : Table) (id : Nat) (prev : Issue)
    (body : UpdateIssueRequest) : Except Refusal UpdateIssueParams := do
  validateEnums body
  updateParams parsers directory saw id prev body

def write (parsers : Parsers) (state : State) (index : Nat) (directory : Directory) (saw : Table)
    (fails : Bool) : State :=
  let request := state.requests index
  match request.loaded with
  | none => state
  | some (id, prev) =>
      match checkedParams parsers directory saw id prev request.body with
      | .error _ => state.setRequest index { request with loaded := none }
      | .ok params =>
          if fails then state.setRequest index { request with loaded := none }
          else
            { state with table := store state.table id params }.setRequest index
              { request with loaded := none, updated := id :: request.updated }

def step (parsers : Parsers) (state : State) : Event → State
  | .load index => load state index
  | .write index directory saw fails => write parsers state index directory saw fails

section Writes

variable {parsers : Parsers} {table : Table} {id : Nat} {prev row : Issue} {body : UpdateIssueRequest}
  {params : UpdateIssueParams}

theorem overlay_read {Raw Plain : Type} {given : Option (Option Raw)} {copy value : Option Plain}
    {decode plain : Raw → Except Refusal (Option Plain)} (wrap : Option Plain → Value)
    (checks : ∀ raw value, decode raw = .ok value → plain raw = .ok value)
    (decoded : overlay given copy decode = .ok value) :
    wrap value = ((givenValue given plain).map wrap).getD (wrap copy) := by
  rw [(overlay_ok checks decoded).1, Option.getD_map]

theorem update_read (made : Made parsers table id prev body params) (field : Field) :
    (row.update params).read field = (body.given parsers field).getD
      (if field.nullable then prev.read field else row.read field) := by
  obtain ⟨title, description, status, priority, position⟩ := made.coalesced
  cases field with
  | title =>
      simp only [Issue.read, Issue.update, title]
      exact (Option.getD_map _ _ _).symm
  | description =>
      simp only [Issue.read, Issue.update, description]
      cases given : body.description with
      | none => simp [UpdateIssueRequest.given, Field.nullable, given]
      | some text => simp [UpdateIssueRequest.given, given]
  | status =>
      simp only [Issue.read, Issue.update, status]
      exact (Option.getD_map _ _ _).symm
  | priority =>
      simp only [Issue.read, Issue.update, priority]
      exact (Option.getD_map _ _ _).symm
  | position =>
      simp only [Issue.read, Issue.update, position]
      exact (Option.getD_map _ _ _).symm
  | assigneeType =>
      simp only [Issue.read, Issue.update, made.assigneeType]
      exact (Option.getD_map _ _ _).symm
  | assigneeId => exact overlay_read .id (fun _ _ decoded => decoded) made.assigneeId
  | startDate => exact overlay_read .date (fun _ _ decoded => decoded) made.startDate
  | dueDate => exact overlay_read .date (fun _ _ decoded => decoded) made.dueDate
  | parentIssueId =>
      exact overlay_read .id (fun _ _ decoded => (decodeParent_ok decoded).1) made.parentIssueId
  | projectId => exact overlay_read .id (fun _ _ decoded => decoded) made.projectId
  | stage => exact overlay_read .number (fun _ _ decoded => decoded) made.stage

end Writes

def Request.targets (request : Request) (id : Nat) : Prop :=
  id ∈ request.pending ∨ (∃ issue, request.loaded = some (id, issue)) ∨ id ∈ request.updated

structure SameRequest (old new : Request) : Prop where
  body : new.body = old.body
  updated : new.updated = old.updated
  targets : ∀ id, new.targets id → old.targets id

theorem SameRequest.refl (request : Request) : SameRequest request request :=
  ⟨rfl, rfl, fun _ targeted => targeted⟩

structure Quiet (state next : State) : Prop where
  table : next.table = state.table
  requests : ∀ index, SameRequest (state.requests index) (next.requests index)

theorem quiet_refl (state : State) : Quiet state state := ⟨rfl, fun _ => .refl _⟩

theorem quiet_setRequest {state : State} {index : Nat} {request : Request}
    (same : SameRequest (state.requests index) request) : Quiet state (state.setRequest index request) := by
  refine ⟨rfl, fun other => ?_⟩
  by_cases here : other = index
  · subst here
    simpa [State.setRequest] using same
  · simpa [State.setRequest, Function.update_of_ne here] using SameRequest.refl _

theorem load_quiet (state : State) (index : Nat) : Quiet state (load state index) := by
  unfold load
  dsimp only
  split
  · rename_i idle pending
    split
    · apply quiet_setRequest
      refine ⟨rfl, rfl, fun other targeted => ?_⟩
      rcases targeted with later | ⟨issue, loaded⟩ | updated
      · exact Or.inl (by simp [pending, later])
      · exact Or.inr (Or.inl ⟨issue, loaded⟩)
      · exact Or.inr (Or.inr updated)
    · apply quiet_setRequest
      refine ⟨rfl, rfl, fun other targeted => ?_⟩
      rcases targeted with later | ⟨issue, loaded⟩ | updated
      · exact Or.inl (by simp [pending, later])
      · cases loaded
        exact Or.inl (by simp [pending])
      · exact Or.inr (Or.inr updated)
  · exact quiet_refl state

structure Wrote (parsers : Parsers) (state next : State) (index id : Nat) (prev : Issue) : Prop where
  loaded : (state.requests index).loaded = some (id, prev)
  table : ∃ saw params, Made parsers saw id prev (state.requests index).body params ∧
    next.table = store state.table id params
  request : next.requests = Function.update state.requests index
    { state.requests index with loaded := none, updated := id :: (state.requests index).updated }

theorem step_cases (parsers : Parsers) (state : State) (event : Event) :
    Quiet state (step parsers state event) ∨
      ∃ index directory saw id prev, event = .write index directory saw false ∧
        Wrote parsers state (step parsers state event) index id prev := by
  cases event with
  | load index => exact Or.inl (load_quiet state index)
  | write index directory saw fails =>
      simp only [step, write]
      split
      · exact Or.inl (quiet_refl state)
      · rename_i id prev loaded
        have idle : SameRequest (state.requests index) { state.requests index with loaded := none } := by
          refine ⟨rfl, rfl, fun other targeted => ?_⟩
          rcases targeted with later | ⟨issue, none⟩ | updated
          · exact Or.inl later
          · cases none
          · exact Or.inr (Or.inr updated)
        split
        · exact Or.inl (quiet_setRequest idle)
        · rename_i params checked
          cases fails with
          | true => exact Or.inl (quiet_setRequest idle)
          | false =>
              obtain ⟨-, -, made⟩ := bind_ok checked
              refine Or.inr ⟨index, directory, saw, id, prev, rfl, loaded, ?_, rfl⟩
              exact ⟨saw, params, updateParams_ok made, rfl⟩

/-- The copy that a write carries still agrees with the row in every nullable column that the
request does not set. -/
def CopyCurrent (parsers : Parsers) (state : State) (event : Event) : Prop :=
  ∀ index directory saw fails, event = .write index directory saw fails →
    ∀ id prev row, (state.requests index).loaded = some (id, prev) → state.table id = some row →
      ∀ field, field.nullable = true → (state.requests index).body.given parsers field = none →
        row.read field = prev.read field

structure Kept (parsers : Parsers) (requests : Nat → Request) (among : Nat → Prop) (initial row : Issue) :
    Prop where
  given : ∀ index field value, among index →
    (requests index).body.given parsers field = some value → row.read field = value
  untouched : ∀ field, (∀ index, among index → (requests index).body.given parsers field = none) →
    row.read field = initial.read field

structure Applied (parsers : Parsers) (start : State) (id : Nat) (initial : Issue) (state : State) :
    Prop where
  bodies : ∀ index, (state.requests index).body = (start.requests index).body
  targets : ∀ index, (state.requests index).targets id → id ∈ (start.requests index).pending
  row : ∃ row, state.table id = some row ∧
    Kept parsers start.requests (fun index => id ∈ (state.requests index).updated) initial row

section Runs

variable {parsers : Parsers} {start state next : State} {id : Nat} {initial : Issue}

theorem Applied.quiet (applied : Applied parsers start id initial state) (quiet : Quiet state next) :
    Applied parsers start id initial next := by
  refine ⟨fun index => ?_, fun index targeted => ?_, ?_⟩
  · rw [(quiet.requests index).body, applied.bodies index]
  · exact applied.targets index ((quiet.requests index).targets id targeted)
  · obtain ⟨row, stored, kept⟩ := applied.row
    refine ⟨row, by rw [quiet.table, stored], ?_⟩
    have same : (fun index => id ∈ (next.requests index).updated) =
        fun index => id ∈ (state.requests index).updated := by
      funext index
      rw [(quiet.requests index).updated]
    rw [same]
    exact kept

def DisjointFields (parsers : Parsers) (requests : Nat → Request) (id : Nat) : Prop :=
  ∀ left right field, id ∈ (requests left).pending → id ∈ (requests right).pending → left ≠ right →
    (requests left).body.given parsers field = none ∨ (requests right).body.given parsers field = none

variable {index writing : Nat} {prev : Issue}

theorem Wrote.updated_iff (wrote : Wrote parsers state next writing id prev) (other index : Nat) :
    other ∈ (next.requests index).updated ↔
      (index = writing ∧ other = id) ∨ other ∈ (state.requests index).updated := by
  rw [wrote.request]
  by_cases here : index = writing
  · subst here
    simp
  · simp [here]

theorem Wrote.body (wrote : Wrote parsers state next writing id prev) (index : Nat) :
    (next.requests index).body = (state.requests index).body := by
  rw [wrote.request]
  by_cases here : index = writing
  · subst here
    simp
  · rw [Function.update_of_ne here]

theorem Wrote.targets (wrote : Wrote parsers state next writing id prev) {other index : Nat}
    (targeted : (next.requests index).targets other) : (state.requests index).targets other := by
  rw [wrote.request] at targeted
  by_cases here : index = writing
  · subst here
    rw [Function.update_self] at targeted
    rcases targeted with later | ⟨issue, none⟩ | updated
    · exact Or.inl later
    · cases none
    · rcases List.mem_cons.mp updated with rfl | earlier
      · exact Or.inr (Or.inl ⟨prev, wrote.loaded⟩)
      · exact Or.inr (Or.inr earlier)
  · rwa [Function.update_of_ne here] at targeted

theorem Applied.wrote (applied : Applied parsers start id initial state)
    (disjoint : DisjointFields parsers start.requests id)
    (wrote : Wrote parsers state next writing id prev)
    (current : ∀ row, state.table id = some row → ∀ field, field.nullable = true →
      (state.requests writing).body.given parsers field = none → row.read field = prev.read field) :
    Applied parsers start id initial next := by
  refine ⟨fun index => by rw [wrote.body, applied.bodies], fun index targeted => ?_, ?_⟩
  · exact applied.targets index (wrote.targets targeted)
  · obtain ⟨row, stored, kept⟩ := applied.row
    obtain ⟨saw, params, made, table⟩ := wrote.table
    refine ⟨row.update params, by simp [table, store, stored], ?_⟩
    have unset : ∀ field, (start.requests writing).body.given parsers field = none →
        (row.update params).read field = row.read field := by
      intro field none
      rw [← applied.bodies] at none
      rw [update_read made, none, Option.getD_none]
      split
      · rename_i nullable
        exact (current row stored field nullable none).symm
      · rfl
    have own : id ∈ (start.requests writing).pending :=
      applied.targets writing (Or.inr (Or.inl ⟨prev, wrote.loaded⟩))
    refine ⟨fun index field value updated given => ?_, fun field none => ?_⟩
    · by_cases here : index = writing
      · subst here
        rw [← applied.bodies] at given
        rw [update_read made, given, Option.getD_some]
      · have earlier : id ∈ (state.requests index).updated := by
          rcases (wrote.updated_iff id index).mp updated with ⟨same, -⟩ | earlier
          · exact absurd same here
          · exact earlier
        have theirs := applied.targets index (Or.inr (Or.inr earlier))
        have free : (start.requests writing).body.given parsers field = none := by
          rcases disjoint index writing field theirs own here with none | none
          · rw [none] at given
            cases given
          · exact none
        rw [unset field free]
        exact kept.given index field value earlier given
    · have free := none writing ((wrote.updated_iff id writing).mpr (Or.inl ⟨rfl, rfl⟩))
      rw [unset field free]
      apply kept.untouched field
      intro index updated
      exact none index ((wrote.updated_iff id index).mpr (Or.inr updated))

theorem Applied.elsewhere (applied : Applied parsers start id initial state) {other : Nat}
    (wrote : Wrote parsers state next writing other prev) (different : other ≠ id) :
    Applied parsers start id initial next := by
  refine ⟨fun index => by rw [wrote.body, applied.bodies], fun index targeted => ?_, ?_⟩
  · exact applied.targets index (wrote.targets targeted)
  · obtain ⟨row, stored, kept⟩ := applied.row
    obtain ⟨saw, params, made, table⟩ := wrote.table
    have same : (fun index => id ∈ (next.requests index).updated) =
        fun index => id ∈ (state.requests index).updated := by
      funext index
      simp [wrote.updated_iff, different.symm]
    refine ⟨row, ?_, by rw [same]; exact kept⟩
    rw [table, store, Function.update_of_ne different.symm, stored]

theorem Applied.step (applied : Applied parsers start id initial state)
    (disjoint : DisjointFields parsers start.requests id) {event : Event}
    (current : CopyCurrent parsers state event) :
    Applied parsers start id initial (Issues.step parsers state event) := by
  rcases step_cases parsers state event with quiet | ⟨index, directory, saw, target, prev, rfl, wrote⟩
  · exact applied.quiet quiet
  · by_cases here : target = id
    · subst here
      apply applied.wrote disjoint wrote
      intro row stored
      exact current index directory saw false rfl target prev row wrote.loaded stored
    · exact applied.elsewhere wrote here

end Runs

/-- In every run whose writes all carry current copies, once every request on the issue has
updated it, no update of it is lost and nothing else has changed. -/
theorem no_update_lost (parsers : Parsers) (start : State)
    (idle : ∀ index, (start.requests index).loaded = none ∧ (start.requests index).updated = [])
    (id : Nat) (initial : Issue) (stored : start.table id = some initial)
    (disjoint : DisjointFields parsers start.requests id) (events : List Event)
    (current : RunLib.Every (step parsers) (CopyCurrent parsers) start events)
    (succeeded : ∀ index, id ∈ (start.requests index).pending →
      id ∈ ((RunLib.run (step parsers) start events).requests index).updated) :
    ∃ row, (RunLib.run (step parsers) start events).table id = some row ∧
      Kept parsers start.requests (fun index => id ∈ (start.requests index).pending) initial row := by
  have fresh : Applied parsers start id initial start := by
    refine ⟨fun _ => rfl, fun index targeted => ?_, initial, stored, ?_, fun _ _ => rfl⟩
    · rcases targeted with pending | ⟨issue, loaded⟩ | updated
      · exact pending
      · rw [(idle index).1] at loaded
        cases loaded
      · rw [(idle index).2] at updated
        cases updated
    · intro index field value updated
      rw [(idle index).2] at updated
      cases updated
  have applied := (RunLib.always_of_invariant fresh
    (fun _ _ applied current => applied.step disjoint current) current).last
  obtain ⟨row, final, kept⟩ := applied.row
  refine ⟨row, final, fun index field value pending given => ?_, fun field none => ?_⟩
  · exact kept.given index field value (succeeded index pending) given
  · apply kept.untouched field
    intro index updated
    exact none index (applied.targets index (Or.inr (Or.inr updated)))

/-! Two requests on one issue: one sets the start date, the other the due date. -/

def calendar : Parsers where
  parseUUID _ := none
  parseCalendarDate text :=
    if text = "2026-03-01" then some 20513 else if text = "2026-03-15" then some 20527 else none

def twoDates : State where
  table id := if id = 7 then some plainIssue else none
  requests
    | 0 => ⟨0, { emptyBody with startDate := some (some "2026-03-01") }, [7], none, []⟩
    | 1 => ⟨0, { emptyBody with dueDate := some (some "2026-03-15") }, [7], none, []⟩
    | _ => ⟨0, emptyBody, [], none, []⟩

def dateWrite (index : Nat) : Event := .write index emptyDirectory twoDates.table false

def oneByOne : List Event := [.load 0, dateWrite 0, .load 1, dateWrite 1]

def bothRead : List Event := [.load 0, .load 1, dateWrite 0, dateWrite 1]

theorem twoDates_requests {index : Nat} (pending : 7 ∈ (twoDates.requests index).pending) :
    index = 0 ∨ index = 1 := by
  match index with
  | 0 => exact Or.inl rfl
  | 1 => exact Or.inr rfl
  | _ + 2 => cases pending

theorem twoDates_disjoint : DisjointFields calendar twoDates.requests 7 := by
  intro left right field leftPending rightPending different
  rcases twoDates_requests leftPending with rfl | rfl
  · rcases twoDates_requests rightPending with rfl | rfl
    · contradiction
    · cases field <;> decide
  · rcases twoDates_requests rightPending with rfl | rfl
    · cases field <;> decide
    · contradiction

theorem twoDates_succeeded (events : List Event)
    (first : 7 ∈ ((RunLib.run (step calendar) twoDates events).requests 0).updated)
    (second : 7 ∈ ((RunLib.run (step calendar) twoDates events).requests 1).updated) (index : Nat)
    (pending : 7 ∈ (twoDates.requests index).pending) :
    7 ∈ ((RunLib.run (step calendar) twoDates events).requests index).updated := by
  rcases twoDates_requests pending with rfl | rfl
  · exact first
  · exact second

theorem load_copyCurrent {parsers : Parsers} {state : State} {index : Nat} :
    CopyCurrent parsers state (.load index) := by
  intro _ _ _ _ same
  cases same

theorem write_copyCurrent {parsers : Parsers} {state : State} {index id : Nat} {issue : Issue}
    {directory : Directory} {saw : Table} {fails : Bool}
    (loaded : (state.requests index).loaded = some (id, issue)) (stored : state.table id = some issue) :
    CopyCurrent parsers state (.write index directory saw fails) := by
  intro _ _ _ _ same _ prev row copied present field _ _
  cases same
  rw [loaded] at copied
  cases copied
  rw [stored] at present
  cases present
  rfl

theorem no_update_lost_oneByOne :
    ∃ row, (RunLib.run (step calendar) twoDates oneByOne).table 7 = some row ∧
      Kept calendar twoDates.requests (fun index => 7 ∈ (twoDates.requests index).pending) plainIssue
        row := by
  apply no_update_lost calendar twoDates
  · intro index
    match index with
    | 0 => exact ⟨rfl, rfl⟩
    | 1 => exact ⟨rfl, rfl⟩
    | _ + 2 => exact ⟨rfl, rfl⟩
  · rfl
  · exact twoDates_disjoint
  · refine ⟨load_copyCurrent, ?_, load_copyCurrent, ?_, trivial⟩
    · exact @write_copyCurrent _ _ _ 7 plainIssue _ _ _ rfl rfl
    · exact @write_copyCurrent _ _ _ 7 { plainIssue with startDate := some 20513 } _ _ _ rfl rfl
  · exact twoDates_succeeded oneByOne (by decide) (by decide)

/-- Both have read the row before either writes: the second write clears the start date. -/
theorem update_lost :
    DisjointFields calendar twoDates.requests 7 ∧
      (∀ index, 7 ∈ (twoDates.requests index).pending →
        7 ∈ ((RunLib.run (step calendar) twoDates bothRead).requests index).updated) ∧
      ¬ ∃ row, (RunLib.run (step calendar) twoDates bothRead).table 7 = some row ∧
        Kept calendar twoDates.requests (fun index => 7 ∈ (twoDates.requests index).pending)
          plainIssue row := by
  refine ⟨twoDates_disjoint, twoDates_succeeded bothRead (by decide) (by decide), ?_⟩
  rintro ⟨row, stored, kept⟩
  have final : (RunLib.run (step calendar) twoDates bothRead).table 7 =
      some { plainIssue with dueDate := some 20527 } := rfl
  rw [final, Option.some.injEq] at stored
  have lost := kept.given 0 .startDate (.date (some 20513)) (by decide) (by decide)
  rw [← stored] at lost
  cases lost

end MulticaOS.Issues
