import Mathlib.Tactic.Common

/-!
Issue rows and the handlers that write them.  An update first reads the row, then checks the
request, then issues one `UPDATE`: half of its columns are coalesced with the stored ones,
and the nullable half is overwritten with the request's values or with the copy read first.
-/

namespace MulticaOS.Issues

/-- A row of `issue`; its id is the key it is stored under.  Dates count days, and the position
is the bit pattern of its float. -/
structure Issue where
  workspaceId : Nat
  title : String
  description : Option String
  status : String
  priority : String
  assigneeType : Option String
  assigneeId : Option Nat
  position : UInt64
  startDate : Option Int
  dueDate : Option Int
  parentIssueId : Option Nat
  projectId : Option Nat
  stage : Option Int
  deriving DecidableEq

abbrev Table := Nat → Option Issue

inductive Refusal where
  | notFound (message : String)
  | badRequest (message : String)
  | forbidden (message : String)
  | invalidEnum (field value : String) (allowed : List String)
  | statementFailed
  deriving DecidableEq

structure Agent where
  archived : Bool
  invocable : Bool

structure Squad where
  archived : Bool
  leader : Option Agent

structure Parsers where
  parseUUID : String → Option Nat
  parseCalendarDate : String → Option Int

structure Directory where
  member : Nat → Nat → Bool
  agent : Nat → Nat → Option Agent
  squad : Nat → Nat → Option Squad
  project : Nat → Nat → Bool

/-- `UpdateIssueRequest` with the keys that its JSON had.  The first five fields are pointers, so a
`null` is as good as absent; the others are `none` where the key is absent. -/
structure UpdateIssueRequest where
  title : Option String
  description : Option String
  status : Option String
  priority : Option String
  position : Option UInt64
  assigneeType : Option (Option String)
  assigneeId : Option (Option String)
  startDate : Option (Option String)
  dueDate : Option (Option String)
  parentIssueId : Option (Option String)
  projectId : Option (Option String)
  stage : Option (Option Int)
  attachmentIds : List String

structure UpdateIssueParams where
  title : Option String
  description : Option String
  status : Option String
  priority : Option String
  position : Option UInt64
  assigneeType : Option String
  assigneeId : Option Nat
  startDate : Option Int
  dueDate : Option Int
  parentIssueId : Option Nat
  projectId : Option Nat
  stage : Option Int

def Issue.update (params : UpdateIssueParams) (issue : Issue) : Issue where
  workspaceId := issue.workspaceId
  title := params.title.getD issue.title
  description := params.description.or issue.description
  status := params.status.getD issue.status
  priority := params.priority.getD issue.priority
  assigneeType := params.assigneeType
  assigneeId := params.assigneeId
  position := params.position.getD issue.position
  startDate := params.startDate
  dueDate := params.dueDate
  parentIssueId := params.parentIssueId
  projectId := params.projectId
  stage := params.stage

def getIssueInWorkspace (table : Table) (id workspaceId : Nat) : Option Issue :=
  (table id).filter fun issue => issue.workspaceId = workspaceId

def validIssueStatuses : List String :=
  ["backlog", "todo", "in_progress", "in_review", "done", "blocked", "cancelled"]

def validIssuePriorities : List String := ["urgent", "high", "medium", "low", "none"]

def validateIssueEnum (field value : String) (allowed : List String) : Except Refusal Unit :=
  if value ∈ allowed then .ok () else .error (.invalidEnum field value allowed)

def validateEnums (body : UpdateIssueRequest) : Except Refusal Unit := do
  match body.status with
  | some status => validateIssueEnum "status" status validIssueStatuses
  | none => .ok ()
  match body.priority with
  | some priority => validateIssueEnum "priority" priority validIssuePriorities
  | none => .ok ()

/-- A nullable field: the copy where the key is absent, cleared by `null`, else decoded. -/
def overlay {Raw Value : Type} (given : Option (Option Raw)) (copy : Option Value)
    (decode : Raw → Except Refusal (Option Value)) : Except Refusal (Option Value) :=
  match given with
  | none => .ok copy
  | some none => .ok none
  | some (some raw) => decode raw

def decodeUUID (parsers : Parsers) (field text : String) : Except Refusal (Option Nat) :=
  match parsers.parseUUID text with
  | none => .error (.badRequest ("invalid " ++ field))
  | some id => .ok (some id)

def decodeDate (parsers : Parsers) (field text : String) : Except Refusal (Option Int) :=
  if text = "" then .ok none
  else
    match parsers.parseCalendarDate text with
    | none => .error (.badRequest ("invalid " ++ field ++ " format, expected YYYY-MM-DD"))
    | some date => .ok (some date)

def decodeStage (stage : Int) : Except Refusal (Option Int) :=
  if stage < 1 then .error (.badRequest "stage must be >= 1") else .ok (some stage)

def reaches (table : Table) (issue : Nat) : Nat → Nat → Bool
  | 0, _ => false
  | depth + 1, cursor =>
      match (table cursor).bind Issue.parentIssueId with
      | none => false
      | some parent => if parent = issue then true else reaches table issue depth parent

def cycleDepth : Nat := 10

def decodeParent (parsers : Parsers) (table : Table) (id workspaceId : Nat) (text : String) :
    Except Refusal (Option Nat) := do
  let parent ← decodeUUID parsers "parent_issue_id" text
  match parent with
  | none => .ok none
  | some parent =>
      if parent = id then .error (.badRequest "an issue cannot be its own parent")
      else if (getIssueInWorkspace table parent workspaceId).isNone then
        .error (.badRequest "parent issue not found in this workspace")
      else if reaches table id cycleDepth parent then
        .error (.badRequest "circular parent relationship detected")
      else .ok (some parent)

def validateAssigneePair (directory : Directory) (workspaceId : Nat) (assigneeType : Option String)
    (assigneeId : Option Nat) : Except Refusal Unit :=
  match assigneeType, assigneeId with
  | none, none => .ok ()
  | some "member", some id =>
      if directory.member workspaceId id then .ok ()
      else .error (.badRequest "assignee_id does not refer to a member of this workspace")
  | some "agent", some id =>
      match directory.agent workspaceId id with
      | none => .error (.badRequest "assignee_id does not refer to an agent of this workspace")
      | some agent =>
          if agent.archived then .error (.badRequest "cannot assign to archived agent")
          else if agent.invocable then .ok ()
          else .error (.forbidden "cannot assign to private agent")
  | some "squad", some id =>
      match directory.squad workspaceId id with
      | none => .error (.badRequest "assignee_id does not refer to a squad in this workspace")
      | some squad =>
          if squad.archived then .error (.badRequest "cannot assign to an archived squad")
          else
            match squad.leader.filter fun leader => !leader.archived with
            | none =>
                .error (.badRequest "squad leader is archived; cannot assign to this squad")
            | some leader =>
                if leader.invocable then .ok ()
                else .error (.forbidden "cannot assign to squad with private leader")
  | some _, some _ =>
      .error (.badRequest "assignee_type must be 'member', 'agent', or 'squad'")
  | _, _ => .error (.badRequest "assignee_type and assignee_id must be provided together")

/-- The part that both handlers write out: the parameters of the `UPDATE`, from the copy that
was read and the request, or why there is none.  `table` is what the parent checks see. -/
def updateParams (parsers : Parsers) (directory : Directory) (table : Table) (id : Nat) (prev : Issue)
    (body : UpdateIssueRequest) : Except Refusal UpdateIssueParams := do
  let assigneeType := body.assigneeType.getD prev.assigneeType
  let assigneeId ← overlay body.assigneeId prev.assigneeId (decodeUUID parsers "assignee_id")
  let startDate ← overlay body.startDate prev.startDate (decodeDate parsers "start_date")
  let dueDate ← overlay body.dueDate prev.dueDate (decodeDate parsers "due_date")
  let parentIssueId ← overlay body.parentIssueId prev.parentIssueId
    (decodeParent parsers table id prev.workspaceId)
  let projectId ← overlay body.projectId prev.projectId (decodeUUID parsers "project_id")
  let stage ← overlay body.stage prev.stage decodeStage
  (if body.assigneeType.isSome || body.assigneeId.isSome then
    validateAssigneePair directory prev.workspaceId assigneeType assigneeId
  else .ok ())
  .ok
    { title := body.title
      description := body.description
      status := body.status
      priority := body.priority
      position := body.position
      assigneeType := assigneeType
      assigneeId := assigneeId
      startDate := startDate
      dueDate := dueDate
      parentIssueId := parentIssueId
      projectId := projectId
      stage := stage }

def store (table : Table) (id : Nat) (params : UpdateIssueParams) : Table :=
  Function.update table id ((table id).map (Issue.update params))

def parseUUIDSlice (parsers : Parsers) (texts : List String) (field : String) : Except Refusal Unit :=
  if texts.any fun text => (parsers.parseUUID text).isNone then .error (.badRequest ("invalid " ++ field))
  else .ok ()

def prepareUpdate (parsers : Parsers) (directory : Directory) (table : Table) (id : Nat) (prev : Issue)
    (body : UpdateIssueRequest) : Except Refusal UpdateIssueParams := do
  validateEnums body
  let params ← updateParams parsers directory table id prev body
  parseUUIDSlice parsers body.attachmentIds "attachment_ids"
  .ok params

def updateIssue (parsers : Parsers) (directory : Directory) (table : Table) (workspaceId id : Nat)
    (body : UpdateIssueRequest) (fails : Bool) : Except Refusal Table :=
  match getIssueInWorkspace table id workspaceId with
  | none => .error (.notFound "issue not found")
  | some prev =>
      match prepareUpdate parsers directory table id prev body with
      | .error refusal => .error refusal
      | .ok params => if fails then .error .statementFailed else .ok (store table id params)

def UpdateIssueRequest.hasMutation (body : UpdateIssueRequest) : Bool :=
  body.title.isSome || body.description.isSome || body.status.isSome || body.priority.isSome ||
    body.position.isSome || body.assigneeType.isSome || body.assigneeId.isSome ||
    body.startDate.isSome || body.dueDate.isSome || body.parentIssueId.isSome ||
    body.projectId.isSome || body.stage.isSome

def batchUpdateIssue (parsers : Parsers) (directory : Directory) (table : Table) (workspaceId : Nat)
    (issueId : String) (body : UpdateIssueRequest) (fails : Bool) : Table :=
  match parsers.parseUUID issueId with
  | none => table
  | some id =>
      match getIssueInWorkspace table id workspaceId with
      | none => table
      | some prev =>
          match updateParams parsers directory table id prev body with
          | .error _ => table
          | .ok params => if fails then table else store table id params

def batchUpdateIssues (parsers : Parsers) (directory : Directory) (table : Table) (workspaceId : Nat)
    (issueIds : List (String × Bool)) (body : UpdateIssueRequest) : Except Refusal Table :=
  if issueIds.isEmpty then .error (.badRequest "issue_ids is required")
  else if !body.hasMutation then .ok table
  else do
    validateEnums body
    .ok (issueIds.foldl (fun table (issueId, fails) =>
      batchUpdateIssue parsers directory table workspaceId issueId body fails) table)

def inheritedProject (table : Table) (issue : Issue) : Except Refusal (Option Nat) :=
  match issue.parentIssueId with
  | none => .ok issue.projectId
  | some parentId =>
      match getIssueInWorkspace table parentId issue.workspaceId with
      | none => .error (.badRequest "parent issue not found in this workspace")
      | some parent => .ok (issue.projectId.or parent.projectId)

/-- `IssueService.Create` with a new id; labels and duplicates are among what may make it
fail. -/
def createIssue (directory : Directory) (table : Table) (id : Nat) (issue : Issue) (fails : Bool) :
    Except Refusal Table :=
  match inheritedProject table issue with
  | .error refusal => .error refusal
  | .ok projectId =>
      if projectId.any fun project => !directory.project issue.workspaceId project then
        .error (.badRequest "project not found in this workspace")
      else if fails || (table id).isSome then .error .statementFailed
      else .ok (Function.update table id (some { issue with projectId := projectId }))

def givenValue {Raw Value : Type} (given : Option (Option Raw))
    (decode : Raw → Except Refusal (Option Value)) : Option (Option Value) :=
  match given with
  | none => none
  | some none => some none
  | some (some raw) =>
      match decode raw with
      | .ok value => some value
      | .error _ => none

theorem overlay_ok {Raw Value : Type} {given : Option (Option Raw)} {copy : Option Value}
    {decode plain : Raw → Except Refusal (Option Value)} {value : Option Value}
    (checks : ∀ raw value, decode raw = .ok value → plain raw = .ok value)
    (decoded : overlay given copy decode = .ok value) :
    value = (givenValue given plain).getD copy ∧
      (givenValue given plain = none → given = none) := by
  unfold overlay at decoded
  split at decoded
  · cases decoded
    exact ⟨rfl, fun _ => rfl⟩
  · cases decoded
    exact ⟨rfl, fun absent => by cases absent⟩
  · rename_i raw
    have plainly := checks raw value decoded
    simp only [givenValue, plainly]
    exact ⟨rfl, fun absent => by cases absent⟩

theorem decodeParent_ok {parsers : Parsers} {table : Table} {id workspaceId : Nat} {text : String}
    {value : Option Nat} (decoded : decodeParent parsers table id workspaceId text = .ok value) :
    decodeUUID parsers "parent_issue_id" text = .ok value ∧
      ∃ parent, value = some parent ∧ parent ≠ id ∧
        (getIssueInWorkspace table parent workspaceId).isSome = true ∧
        reaches table id cycleDepth parent = false := by
  unfold decodeParent at decoded
  cases parsed : parsers.parseUUID text with
  | none => simp [decodeUUID, parsed, bind, Except.bind] at decoded
  | some parent =>
      have plain : decodeUUID parsers "parent_issue_id" text = .ok (some parent) := by
        simp [decodeUUID, parsed]
      simp only [plain, bind, Except.bind] at decoded
      split at decoded
      · cases decoded
      · rename_i different
        split at decoded
        · cases decoded
        · rename_i found
          split at decoded
          · cases decoded
          · rename_i clear
            cases decoded
            refine ⟨plain, parent, rfl, different, ?_, by simpa using clear⟩
            simpa [Option.isSome_iff_ne_none] using found

theorem bind_ok {First Second : Type} {first : Except Refusal First}
    {rest : First → Except Refusal Second} {value : Second} (done : first >>= rest = .ok value) :
    ∃ middle, first = .ok middle ∧ rest middle = .ok value := by
  cases first with
  | error refusal => cases done
  | ok middle => exact ⟨middle, rfl, done⟩

/-- Parameters made of the request where it sets a field, and of the copy where it does not. -/
structure Made (parsers : Parsers) (table : Table) (id : Nat) (prev : Issue) (body : UpdateIssueRequest)
    (params : UpdateIssueParams) : Prop where
  coalesced : params.title = body.title ∧ params.description = body.description ∧
    params.status = body.status ∧ params.priority = body.priority ∧ params.position = body.position
  assigneeType : params.assigneeType = body.assigneeType.getD prev.assigneeType
  assigneeId : overlay body.assigneeId prev.assigneeId (decodeUUID parsers "assignee_id") =
    .ok params.assigneeId
  startDate : overlay body.startDate prev.startDate (decodeDate parsers "start_date") =
    .ok params.startDate
  dueDate : overlay body.dueDate prev.dueDate (decodeDate parsers "due_date") = .ok params.dueDate
  parentIssueId : overlay body.parentIssueId prev.parentIssueId
    (decodeParent parsers table id prev.workspaceId) = .ok params.parentIssueId
  projectId : overlay body.projectId prev.projectId (decodeUUID parsers "project_id") =
    .ok params.projectId
  stage : overlay body.stage prev.stage decodeStage = .ok params.stage

theorem updateParams_ok {parsers : Parsers} {directory : Directory} {table : Table} {id : Nat}
    {prev : Issue} {body : UpdateIssueRequest} {params : UpdateIssueParams}
    (made : updateParams parsers directory table id prev body = .ok params) :
    Made parsers table id prev body params := by
  unfold updateParams at made
  obtain ⟨assigneeId, assigneeIdOk, made⟩ := bind_ok made
  obtain ⟨startDate, startDateOk, made⟩ := bind_ok made
  obtain ⟨dueDate, dueDateOk, made⟩ := bind_ok made
  obtain ⟨parentIssueId, parentOk, made⟩ := bind_ok made
  obtain ⟨projectId, projectOk, made⟩ := bind_ok made
  obtain ⟨stage, stageOk, made⟩ := bind_ok made
  obtain ⟨-, -, made⟩ := bind_ok made
  cases made
  exact ⟨⟨rfl, rfl, rfl, rfl, rfl⟩, rfl, assigneeIdOk, startDateOk, dueDateOk, parentOk, projectOk,
    stageOk⟩

theorem prepareUpdate_ok {parsers : Parsers} {directory : Directory} {table : Table} {id : Nat}
    {prev : Issue} {body : UpdateIssueRequest} {params : UpdateIssueParams}
    (prepared : prepareUpdate parsers directory table id prev body = .ok params) :
    Made parsers table id prev body params := by
  unfold prepareUpdate at prepared
  obtain ⟨-, -, prepared⟩ := bind_ok prepared
  obtain ⟨made, madeOk, prepared⟩ := bind_ok prepared
  obtain ⟨-, -, prepared⟩ := bind_ok prepared
  cases prepared
  exact updateParams_ok madeOk

/-! A directory, a request and an issue with nothing in them. -/

def emptyDirectory : Directory where
  member _ _ := false
  agent _ _ := none
  squad _ _ := none
  project _ _ := false

def emptyBody : UpdateIssueRequest where
  title := none
  description := none
  status := none
  priority := none
  position := none
  assigneeType := none
  assigneeId := none
  startDate := none
  dueDate := none
  parentIssueId := none
  projectId := none
  stage := none
  attachmentIds := []

def plainIssue : Issue where
  workspaceId := 0
  title := "Plain"
  description := none
  status := "todo"
  priority := "none"
  assigneeType := none
  assigneeId := none
  position := 0
  startDate := none
  dueDate := none
  parentIssueId := none
  projectId := none
  stage := none

end MulticaOS.Issues
