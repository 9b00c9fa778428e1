import MulticaOS.Issues.Parents

/-!
The workspaces that issues point into: which writes keep the parent and the project of an issue inside its
own workspace.
-/

namespace MulticaOS.Issues

abbrev Projects := Nat → Option Nat

/-- `issueMovePosition` on the bit patterns of floats; `none` is its error. -/
abbrev MovePosition := UInt64 → Option UInt64 → Option UInt64 → Option UInt64

/-- The body of a move, with the keys that it has. `others` are the keys outside `issueMoveFields`. -/
structure MoveIssueRequest where
  others : List String
  beforeId : Option (Option String)
  afterId : Option (Option String)
  status : Option String
  assigneeType : Option (Option String)
  assigneeId : Option (Option String)
  parentIssueId : Option (Option String)
  projectId : Option (Option String)

def requiredField (field : String) (given : Option (Option String)) : Except Refusal (Option String) :=
  match given with
  | none => .error (.badRequest (field ++ " is required"))
  | some value => .ok value

def decodeIssueMoveAnchor (parsers : Parsers) (field : String) (given : Option String) :
    Except Refusal (Option Nat) :=
  match given with
  | none => .ok none
  | some text =>
      if text = "" then .error (.badRequest (field ++ " must be a UUID or null"))
      else decodeUUID parsers field text

def checkMoveProject (parsers : Parsers) (projects : Projects) (workspaceId : Nat)
    (given : Option (Option String)) : Except Refusal Unit :=
  match given with
  | some (some text) => do
      let project ← decodeIssueMoveAnchor parsers "project_id" (some text)
      if project.all fun id => projects id = some workspaceId then .ok ()
      else .error (.badRequest "project not found in this workspace")
  | _ => .ok ()

def issueMoveAnchorPosition (table : Table) (workspaceId : Nat) (anchor : Option Nat) :
    Except Refusal (Option UInt64) :=
  match anchor with
  | none => .ok none
  | some id =>
      match getIssueInWorkspace table id workspaceId with
      | none => .error (.badRequest "move anchor not found in this workspace")
      | some issue => .ok (some issue.position)

def refuseIf (wrong : Bool) (message : String) : Except Refusal Unit :=
  if wrong then .error (.badRequest message) else .ok ()

/-- `MoveIssue` up to the body that it hands to `UpdateIssue`; `none` is the conflict of the position. -/
def moveIssue (movePosition : MovePosition) (parsers : Parsers) (projects : Projects) (table : Table)
    (workspaceId id : Nat) (request : MoveIssueRequest) : Except Refusal (Option UpdateIssueRequest) :=
  match getIssueInWorkspace table id workspaceId with
  | none => .error (.notFound "issue not found")
  | some current => do
      refuseIf (!request.others.isEmpty) ("unsupported move field: " ++ request.others.headD "")
      let before ← requiredField "before_id" request.beforeId
      let after ← requiredField "after_id" request.afterId
      checkMoveProject parsers projects current.workspaceId request.projectId
      let beforeId ← decodeIssueMoveAnchor parsers "before_id" before
      let afterId ← decodeIssueMoveAnchor parsers "after_id" after
      refuseIf (beforeId = some id) "before_id cannot be the moved issue"
      refuseIf (afterId = some id) "after_id cannot be the moved issue"
      refuseIf (beforeId.isSome && beforeId = afterId) "move anchors must be distinct"
      let beforePosition ← issueMoveAnchorPosition table current.workspaceId beforeId
      let afterPosition ← issueMoveAnchorPosition table current.workspaceId afterId
      .ok ((movePosition current.position beforePosition afterPosition).map fun position =>
        { emptyBody with
          status := request.status
          position := some position
          assigneeType := request.assigneeType
          assigneeId := request.assigneeId
          parentIssueId := request.parentIssueId
          projectId := request.projectId })

def Directory.among (projects : Projects) (directory : Directory) : Directory :=
  { directory with project := fun workspaceId id => projects id = some workspaceId }

def dangling (parsers : Parsers) (projects : Projects) (body : UpdateIssueRequest) : Bool :=
  match body.projectId with
  | some (some text) => (parsers.parseUUID text).any fun id => (projects id).isNone
  | _ => false

def Action.among (parsers : Parsers) (projects : Projects) : Action → Action
  | .create directory id issue fails => .create (directory.among projects) id issue fails
  | .update directory workspaceId id body fails =>
      .update (directory.among projects) workspaceId id body (fails || dangling parsers projects body)
  | .round directory workspaceId issueId body fails =>
      .round (directory.among projects) workspaceId issueId body (fails || dangling parsers projects body)

inductive Mutation
  | listed (command : Command)
  | move (directory : Directory) (workspaceId id : Nat) (request : MoveIssueRequest) (fails : Bool)

/-- A mutation issue by issue, as `Command.actions` has it. -/
inductive Write
  | action (action : Action)
  | move (directory : Directory) (workspaceId id : Nat) (request : MoveIssueRequest) (fails : Bool)

def Mutation.writes : Mutation → List Write
  | .listed command => command.actions.map .action
  | .move directory workspaceId id request fails => [.move directory workspaceId id request fails]

def perform (movePosition : MovePosition) (parsers : Parsers) (projects : Projects) (table : Table) :
    Write → Table
  | .action action => commit parsers table (action.among parsers projects)
  | .move directory workspaceId id request fails =>
      match moveIssue movePosition parsers projects table workspaceId id request with
      | .ok (some body) =>
          commit parsers table ((Action.update directory workspaceId id body fails).among parsers projects)
      | _ => table

/-- The parent and the project of every issue are there, in the workspace of the issue. -/
structure Internal (projects : Projects) (table : Table) : Prop where
  parent : ∀ id issue parent, table id = some issue → issue.parentIssueId = some parent →
    (getIssueInWorkspace table parent issue.workspaceId).isSome = true
  project : ∀ id issue project, table id = some issue → issue.projectId = some project →
    projects project = some issue.workspaceId

def NamesOwnProject (parsers : Parsers) (projects : Projects) (workspaceId : Nat)
    (body : UpdateIssueRequest) : Prop :=
  ∀ text project, body.projectId = some (some text) → parsers.parseUUID text = some project →
    projects project = some workspaceId

/-- An `UpdateIssue` or a round of `BatchUpdateIssues` that gets to its statement names no project of
another workspace. -/
def StaysInside (parsers : Parsers) (projects : Projects) (table : Table) : Write → Prop
  | .action action => ∀ workspaceId body, action.request = some (workspaceId, body) →
      (statement parsers table (action.among parsers projects)).isSome = true →
        NamesOwnProject parsers projects workspaceId body
  | .move _ _ _ _ _ => True

section References

variable {parsers : Parsers} {projects : Projects} {table : Table} {id : Nat}

theorem inWorkspace_update {written : Option Issue} {parent workspaceId : Nat}
    (keeps : ∀ issue, table id = some issue → ∃ later, written = some later ∧
      later.workspaceId = issue.workspaceId)
    (found : (getIssueInWorkspace table parent workspaceId).isSome = true) :
    (getIssueInWorkspace (Function.update table id written) parent workspaceId).isSome = true := by
  by_cases here : parent = id
  · subst here
    obtain ⟨issue, inside⟩ := Option.isSome_iff_exists.mp found
    obtain ⟨stored, same⟩ := Option.filter_eq_some_iff.mp inside
    obtain ⟨later, rewritten, kept⟩ := keeps issue stored
    rw [getIssueInWorkspace, Function.update_self, rewritten, Option.filter_some, if_pos]
    · rfl
    · rw [kept]
      exact same
  · rwa [getIssueInWorkspace, Function.update_of_ne here]

theorem Made.parent_inside {prev : Issue} {body : UpdateIssueRequest} {params : UpdateIssueParams}
    (made : Made parsers table id prev body params) (internal : Internal projects table)
    (stored : table id = some prev) {parent : Nat} (has : params.parentIssueId = some parent) :
    (getIssueInWorkspace table parent prev.workspaceId).isSome = true := by
  have decoded := made.parentIssueId
  rw [has] at decoded
  unfold overlay at decoded
  split at decoded
  · exact internal.parent id prev parent stored (Except.ok.inj decoded)
  · cases decoded
  · obtain ⟨-, named, same, -, found, -⟩ := decodeParent_ok decoded
    cases same
    exact found

theorem Made.project_inside_iff {prev : Issue} {body : UpdateIssueRequest} {params : UpdateIssueParams}
    (made : Made parsers table id prev body params) (internal : Internal projects table)
    (stored : table id = some prev) :
    (∀ project, params.projectId = some project → projects project = some prev.workspaceId) ↔
      NamesOwnProject parsers projects prev.workspaceId body := by
  have decoded := made.projectId
  unfold overlay at decoded
  split at decoded
  · rename_i absent
    refine iff_of_true (fun project has => ?_) fun text project named => ?_
    · exact internal.project id prev project stored ((Except.ok.inj decoded).trans has)
    · rw [absent] at named
      cases named
  · rename_i cleared
    refine iff_of_true (fun project has => ?_) fun text project named => ?_
    · rw [← Except.ok.inj decoded] at has
      cases has
    · rw [cleared] at named
      cases named
  · rename_i raw given
    rw [decodeUUID] at decoded
    split at decoded
    · cases decoded
    · rename_i read parsed
      rw [← Except.ok.inj decoded]
      constructor
      · intro inside text project named reads
        obtain rfl : raw = text := Option.some.inj (Option.some.inj (given.symm.trans named))
        exact inside project (parsed.symm.trans reads)
      · intro names project same
        exact names raw project given (parsed.trans same)

theorem store_internal_iff {prev : Issue} {body : UpdateIssueRequest} {params : UpdateIssueParams}
    (made : Made parsers table id prev body params) (internal : Internal projects table)
    (stored : table id = some prev) :
    Internal projects (store table id params) ↔ NamesOwnProject parsers projects prev.workspaceId body := by
  have here : store table id params id = some (prev.update params) := by
    rw [store, Function.update_self, stored]
    rfl
  have keeps : ∀ issue, table id = some issue → ∃ later, (table id).map (Issue.update params) = some later ∧
      later.workspaceId = issue.workspaceId := by
    intro issue found
    exact ⟨issue.update params, by rw [found]; rfl, rfl⟩
  rw [← made.project_inside_iff internal stored]
  constructor
  · intro after project has
    exact after.project id (prev.update params) project here has
  · intro own
    constructor
    · intro other issue parent found has
      refine inWorkspace_update keeps ?_
      by_cases same : other = id
      · subst same
        obtain rfl : prev.update params = issue := Option.some.inj (here.symm.trans found)
        exact made.parent_inside internal stored has
      · rw [store, Function.update_of_ne same] at found
        exact internal.parent other issue parent found has
    · intro other issue project found has
      by_cases same : other = id
      · subst same
        obtain rfl : prev.update params = issue := Option.some.inj (here.symm.trans found)
        exact own project has
      · rw [store, Function.update_of_ne same] at found
        exact internal.project other issue project found has

theorem createIssue_internal {directory : Directory} {issue : Issue} {fails : Bool} {next : Table}
    (internal : Internal projects table)
    (done : createIssue (directory.among projects) table id issue fails = .ok next) :
    Internal projects next := by
  unfold createIssue at done
  split at done
  · cases done
  · rename_i projectId inherited
    split at done
    · cases done
    · rename_i known
      split at done
      · cases done
      · rename_i free
        cases done
        have keeps : ∀ old, table id = some old → ∃ later,
            some { issue with projectId := projectId } = some later ∧ later.workspaceId = old.workspaceId := by
          intro old found
          simp [found] at free
        have here : Function.update table id (some { issue with projectId := projectId }) id =
            some { issue with projectId := projectId } := Function.update_self ..
        constructor
        · intro other stored parent found has
          refine inWorkspace_update keeps ?_
          by_cases same : other = id
          · subst same
            obtain rfl := Option.some.inj (here.symm.trans found)
            have named : issue.parentIssueId = some parent := has
            simp only [inheritedProject, named] at inherited
            split at inherited
            · cases inherited
            · rename_i inside
              exact Option.isSome_iff_exists.mpr ⟨_, inside⟩
          · rw [Function.update_of_ne same] at found
            exact internal.parent other stored parent found has
        · intro other stored project found has
          by_cases same : other = id
          · subst same
            obtain rfl := Option.some.inj (here.symm.trans found)
            have named : projectId = some project := has
            simpa [named, Directory.among] using known
          · rw [Function.update_of_ne same] at found
            exact internal.project other stored project found has

theorem request_among (action : Action) : (action.among parsers projects).request = action.request := by
  cases action <;> rfl

theorem commit_internal_iff (internal : Internal projects table) (action : Action) :
    Internal projects (commit parsers table (action.among parsers projects)) ↔
      StaysInside parsers projects table (.action action) := by
  cases commit_cases parsers table (action.among parsers projects) with
  | updated id prev body params issues stored made stores asked =>
      rw [stores, store_internal_iff made internal stored]
      rw [request_among] at asked
      constructor
      · intro names workspaceId named given _
        rw [asked, Option.some.injEq, Prod.mk.injEq] at given
        obtain ⟨rfl, rfl⟩ := given
        exact names
      · intro stays
        exact stays prev.workspaceId body asked (by rw [issues]; rfl)
  | created directory id given stored fails issues _ creates done =>
      refine iff_of_true ?_ fun workspaceId body _ written => by rw [issues] at written; cases written
      cases action with
      | create own other issue failing =>
          rw [Action.among, Action.create.injEq] at creates
          obtain ⟨rfl, -⟩ := creates
          exact createIssue_internal internal done
      | _ => cases creates
  | unchanged issues same =>
      rw [same]
      exact iff_of_true internal fun workspaceId body _ written => by rw [issues] at written; cases written

theorem moveIssue_ok {movePosition : MovePosition} {workspaceId : Nat} {request : MoveIssueRequest}
    {body : UpdateIssueRequest}
    (moved : moveIssue movePosition parsers projects table workspaceId id request = .ok (some body)) :
    NamesOwnProject parsers projects workspaceId body := by
  unfold moveIssue at moved
  split at moved
  · cases moved
  · rename_i current found
    obtain ⟨_, -, moved⟩ := bind_ok moved
    obtain ⟨before, -, moved⟩ := bind_ok moved
    obtain ⟨after, -, moved⟩ := bind_ok moved
    obtain ⟨_, checked, moved⟩ := bind_ok moved
    obtain ⟨beforeId, -, moved⟩ := bind_ok moved
    obtain ⟨afterId, -, moved⟩ := bind_ok moved
    obtain ⟨_, -, moved⟩ := bind_ok moved
    obtain ⟨_, -, moved⟩ := bind_ok moved
    obtain ⟨_, -, moved⟩ := bind_ok moved
    obtain ⟨beforePosition, -, moved⟩ := bind_ok moved
    obtain ⟨afterPosition, -, moved⟩ := bind_ok moved
    rw [Except.ok.injEq, Option.map_eq_some_iff] at moved
    obtain ⟨position, -, rfl⟩ := moved
    intro text project named read
    have given : request.projectId = some (some text) := named
    rw [given, checkMoveProject] at checked
    obtain ⟨decoded, anchor, checked⟩ := bind_ok checked
    rw [decodeIssueMoveAnchor] at anchor
    split at anchor
    · cases anchor
    · simp only [decodeUUID, read] at anchor
      cases anchor
      split at checked
      · rename_i known
        rw [← getIssueInWorkspace_workspace found]
        simpa using known
      · cases checked

theorem perform_internal_iff (movePosition : MovePosition) (internal : Internal projects table)
    (write : Write) :
    Internal projects (perform movePosition parsers projects table write) ↔
      StaysInside parsers projects table write := by
  cases write with
  | action action => exact commit_internal_iff internal action
  | move directory workspaceId id request fails =>
      refine iff_of_true ?_ trivial
      rw [perform]
      split
      · rename_i body moved
        refine (commit_internal_iff internal _).mpr fun other asked given _ => ?_
        cases given
        exact moveIssue_ok moved
      · exact internal

end References

/-- Over every sequence of requests, the references of the issues stay inside their workspaces all along
exactly when no `UpdateIssue` or `BatchUpdateIssues` that gets to its statement names a project of another
workspace. -/
theorem references_internal_iff (movePosition : MovePosition) (parsers : Parsers) (projects : Projects)
    (mutations : List Mutation) :
    RunLib.Always (perform movePosition parsers projects) (Internal projects) emptyTable
        (mutations.flatMap Mutation.writes) ↔
      RunLib.Every (perform movePosition parsers projects) (StaysInside parsers projects) emptyTable
        (mutations.flatMap Mutation.writes) := by
  have each : ∀ table write, True → Internal projects table →
      (Internal projects (perform movePosition parsers projects table write) ↔
        StaysInside parsers projects table write) :=
    fun _ write _ internal => perform_internal_iff movePosition internal write
  exact RunLib.always_iff_every trivial ⟨nofun, nofun⟩ (fun _ _ kept => kept) each

/-! An issue of workspace 0 gets the project of workspace 1. -/

def foreignParsers : Parsers where
  parseUUID text := if text = "7" then some 7 else none
  parseCalendarDate _ := none

def foreignProject : List Mutation :=
  [.listed (.create emptyDirectory 0 plainIssue false),
    .listed (.update emptyDirectory 0 0 { emptyBody with projectId := some (some "7") } false)]

theorem project_of_other_workspace :
    ¬RunLib.Always (perform (fun _ _ _ => none) foreignParsers fun id => if id = 7 then some 1 else none)
      (Internal fun id => if id = 7 then some 1 else none) emptyTable
      (foreignProject.flatMap Mutation.writes) := by
  intro always
  have wrong := always.last.project 0 { plainIssue with projectId := some 7 } 7 (by decide) rfl
  exact absurd wrong (by decide)

end MulticaOS.Issues
