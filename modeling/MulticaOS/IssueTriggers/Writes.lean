import MulticaOS.ChildDone.Notices
import MulticaOS.IssueTriggers.Decision

/-!
The runs a write enqueues: `CreateIssue`, `UpdateIssue` and `BatchUpdateIssues` with their dispatch,
and the parents that a finished child wakes.
-/

namespace MulticaOS.IssueTriggers

open TaskQueue (Db Task)

/-- The tables a request writes, and the pairs of issue and agent it has enqueued. -/
structure State where
  issues : Issues.Table
  queue : Db
  runs : List (Id × Id)

def State.enqueued (state : State) (id agentId : Id) : Except EnqueueRefusal (Db × Task) → State
  | .ok (queue, _) => { state with queue := queue, runs := state.runs ++ [(id, agentId)] }
  | .error _ => state

def originatorForIssueTask (site : Site) (id : Id) (issue : Issues.Issue) : Option Id :=
  (Attribution.attributionForIssueTask site.queries (attributionIssue site id issue) none .commentSource
    none).userId

/-- The human a leader's run will carry, and so the one the gate of its squad asks about. -/
def leaderOriginator (site : Site) (caller : Caller) (id : Id) (issue : Issues.Issue) : Option Id :=
  match caller.actor with
  | .member userId => some userId
  | .agent _ => originatorForIssueTask site id issue

def canEnqueueSquadLeader (site : Site) (leaderId : Id) (actor : Actor) (originatorUserId : Option Id)
    (workspaceId : Id) : Bool :=
  match site.agents leaderId with
  | none => false
  | some agent => canInvokeAgent site agent actor originatorUserId workspaceId

/-- `enqueueSquadLeaderTask` of the handler and of the service; only the handler has a gate. -/
def enqueueLeader (site : Site) (state : State) (id : Id) (issue : Issues.Issue) (gate : Id → Bool)
    (actorUserId : Option Id) : State :=
  match issue.assigneeId with
  | none => state
  | some squadId =>
      match getSquadInWorkspace site squadId issue.workspaceId with
      | none => state
      | some squad =>
          if !gate squad.leaderId then state
          else if hasPendingTaskForIssueAndAgent state.queue id squad.leaderId (site.reviewHeadSha id) then
            state
          else
            state.enqueued id squad.leaderId
              (enqueueTaskForSquadLeader site state.queue id issue squad.leaderId squadId actorUserId)

def enqueueSquadLeaderTask (site : Site) (caller : Caller) (state : State) (id : Id)
    (issue : Issues.Issue) : State :=
  enqueueLeader site state id issue
    (fun leaderId => canEnqueueSquadLeader site leaderId caller.actor
      (leaderOriginator site caller id issue) issue.workspaceId)
    (memberActorUserId caller.actor)

def dispatchIssueRun (site : Site) (caller : Caller) (state : State) (id : Id) (issue : Issues.Issue)
    (trigger : IssueRunTrigger) : State :=
  match trigger.assigneeType with
  | .agent => state.enqueued id trigger.agentId
      (enqueueIssueTask site state.queue id issue (memberActorUserId caller.actor))
  | .squad => enqueueSquadLeaderTask site caller state id issue

def startRun (site : Site) (caller : Caller) (state : State) (id : Id)
    (input : Issues.IssueTriggerInput) : State :=
  match willEnqueueRun site state.queue ⟨input, some id, false⟩
      (issueTriggerWriteProbe site caller (some id)) with
  | none => state
  | some trigger => dispatchIssueRun site caller state id input.issue trigger

/-- The status of a name; the code compares names, and one it does not know is like `todo`. -/
def statusOf (name : String) : IssueTable.Status :=
  (IssueTable.validIssueStatuses.find? fun status => status.name = name).getD .todo

def assigneeTypeOf (name : String) : Option ChildDone.AssigneeType :=
  if name = "member" then some .member
  else if name = "agent" then some .agent
  else if name = "squad" then some .squad
  else none

def childIssue (id : Id) (issue : Issues.Issue) : ChildDone.Issue where
  id := id
  number := id
  title := issue.title
  status := statusOf issue.status
  stage := issue.stage
  parentIssueId := issue.parentIssueId
  assigneeType := issue.assigneeType.bind assigneeTypeOf

def childQueries (site : Site) (issues : Issues.Table) : ChildDone.Queries where
  getIssue id := (issues id).map (childIssue id)
  listChildIssues parentId := some <| site.issueIds.filterMap fun id =>
    ((issues id).filter fun issue => issue.parentIssueId = some parentId).map (childIssue id)

def triggerChildDoneAgent (site : Site) (state : State) (parentId : Id) (parent : Issues.Issue)
    (agentId : Id) : State :=
  match getAgentInWorkspace site agentId parent.workspaceId with
  | none => state
  | some agent =>
      if agent.runtimeId.isNone || agent.archived then state
      else if hasPendingTaskForIssueAndAgent state.queue parentId agentId (site.reviewHeadSha parentId) then
        state
      else
        state.enqueued parentId agentId (enqueueTaskForMention site state.queue parentId parent agentId)

def triggerChildDoneSquad (site : Site) (state : State) (parentId : Id) (parent : Issues.Issue)
    (squadId : Id) : State :=
  match getSquadInWorkspace site squadId parent.workspaceId with
  | none => state
  | some squad =>
      match site.agents squad.leaderId with
      | none => state
      | some agent =>
          if agent.runtimeId.isNone || agent.archived then state
          else if hasPendingTaskForIssueAndAgent state.queue parentId squad.leaderId
              (site.reviewHeadSha parentId) then state
          else
            state.enqueued parentId squad.leaderId
              (enqueueTaskForSquadLeader site state.queue parentId parent squad.leaderId squadId none)

def dispatchParentAssigneeTrigger (site : Site) (state : State) (parentId : Id) : State :=
  match state.issues parentId with
  | none => state
  | some parent =>
      match parent.assigneeType, parent.assigneeId with
      | some kind, some assigneeId =>
          if kind = "agent" then triggerChildDoneAgent site state parentId parent assigneeId
          else if kind = "squad" then triggerChildDoneSquad site state parentId parent assigneeId
          else state
      | _, _ => state

def postNotices (site : Site) (state : State) (notices : List ChildDone.Notice) : State :=
  notices.foldl (fun state notice => dispatchParentAssigneeTrigger site state notice.parentId) state

def notifyParentOfChildDone (site : Site) (state : State) (id : Id) (prev issue : Issues.Issue) : State :=
  postNotices site state
    (ChildDone.notifyParentOfChildDone (childQueries site state.issues) (childIssue id prev)
      (childIssue id issue)).toList

def updateIssue (site : Site) (caller : Caller) (state : State) (workspaceId : Id) (issueId : String)
    (body : Issues.UpdateIssueRequest) : Except Issues.Refusal State :=
  match site.parsers.parseUUID issueId with
  | none => .error (.notFound "issue not found")
  | some id =>
      match Issues.updateIssuePublished site.parsers (site.directory caller) state.issues workspaceId id body
          false with
      | .error refusal => .error refusal
      | .ok (issues, published) =>
          let started := startRun site caller { state with issues := issues } id published.trigger
          .ok (if published.flags.statusChanged then
            notifyParentOfChildDone site started id published.prev published.issue else started)

structure Batch where
  state : State
  completed : List ChildDone.Issue

def isTerminalChildStatus (status : String) : Bool := ChildDone.isTerminalChildStatus (statusOf status)

def completedChild (id : Id) (published : Issues.BatchPublished) : Option ChildDone.Issue :=
  if published.flags.statusChanged && published.issue.parentIssueId.isSome &&
      !isTerminalChildStatus published.trigger.prevStatus && isTerminalChildStatus published.issue.status then
    some (childIssue id published.issue)
  else none

def batchRound (site : Site) (caller : Caller) (workspaceId : Id) (body : Issues.UpdateIssueRequest)
    (batch : Batch) (issueId : String) : Batch :=
  let directory := site.directory caller
  match Issues.batchUpdateIssuePublished site.parsers directory batch.state.issues workspaceId issueId body
      false with
  | none => batch
  | some (id, published) =>
      let issues := Issues.batchUpdateIssue site.parsers directory batch.state.issues workspaceId issueId body
        false
      { state := startRun site caller { batch.state with issues := issues } id published.trigger
        completed := batch.completed ++ (completedChild id published).toList }

def batchUpdateIssues (site : Site) (caller : Caller) (state : State) (workspaceId : Id)
    (issueIds : List String) (body : Issues.UpdateIssueRequest) : Except Issues.Refusal State :=
  if issueIds.isEmpty then .error (.badRequest "issue_ids is required")
  else if !body.hasMutation then .ok state
  else do
    Issues.validateEnums body
    let batch := issueIds.foldl (batchRound site caller workspaceId body) ⟨state, []⟩
    .ok (postNotices site batch.state
      (ChildDone.notifyParentsOfBatchChildDone (childQueries site batch.state.issues) batch.completed))

structure CreateIssueRequest where
  title : String
  description : Option String
  status : String
  priority : String
  assigneeType : Option String
  assigneeId : Option String
  parentIssueId : Option String
  projectId : Option String
  startDate : Option String
  dueDate : Option String
  stage : Option Int

def decodeGiven {Raw Value : Type} (given : Option Raw)
    (decode : Raw → Except Issues.Refusal (Option Value)) : Except Issues.Refusal (Option Value) :=
  match given with
  | none => .ok none
  | some raw => decode raw

/-- The origin stamp of an agent's create is the task of its header, where that is its own. -/
def createdProvenance (site : Site) (caller : Caller) : Provenance :=
  match caller.actor with
  | .member userId => ⟨.member, userId, none, none⟩
  | .agent agentId =>
      match caller.taskId.bind fun id =>
          (site.queries.getAgentTask id).filter fun task => task.agentId = agentId with
      | none => ⟨.agent, agentId, none, none⟩
      | some _ => ⟨.agent, agentId, some .agentCreate, caller.taskId⟩

def isAgentAssigneeReady (site : Site) (issue : Issues.Issue) : Bool :=
  match issue.assigneeType, issue.assigneeId with
  | some kind, some agentId =>
      kind = "agent" && (site.agents agentId).any fun agent => agent.runtimeId.isSome && !agent.archived
  | _, _ => false

def isSquadLeaderReady (site : Site) (issue : Issues.Issue) : Bool :=
  match issue.assigneeType, issue.assigneeId with
  | some kind, some squadId =>
      kind = "squad" && (getSquadInWorkspace site squadId issue.workspaceId).any fun squad =>
        (site.agents squad.leaderId).any (agentReadiness site)
  | _, _ => false

def shouldEnqueueAgentTask (site : Site) (issue : Issues.Issue) : Bool :=
  issue.status ≠ "backlog" && isAgentAssigneeReady site issue

def shouldEnqueueSquadLeaderOnAssign (site : Site) (issue : Issues.Issue) : Bool :=
  issue.status ≠ "backlog" && isSquadLeaderReady site issue

def maybeEnqueueOnAssign (site : Site) (state : State) (id : Id) (issue : Issues.Issue) : State :=
  match issue.assigneeType, issue.assigneeId with
  | some _, some assigneeId =>
      let started :=
        if shouldEnqueueAgentTask site issue then
          state.enqueued id assigneeId (enqueueIssueTask site state.queue id issue none)
        else state
      if shouldEnqueueSquadLeaderOnAssign site issue then
        enqueueLeader site started id issue (fun _ => true) none
      else started
  | _, _ => state

structure CreateHead where
  status : String
  priority : String
  stage : Option Int

structure CreateTail where
  projectId : Option Nat
  parentIssueId : Option Nat
  startDate : Option Int
  dueDate : Option Int

def createHead (body : CreateIssueRequest) : Except Issues.Refusal CreateHead := do
  (if body.title = "" then .error (.badRequest "title is required") else .ok ())
  let status := if body.status = "" then "todo" else body.status
  let priority := if body.priority = "" then "none" else body.priority
  Issues.validateIssueEnum "status" status Issues.validIssueStatuses
  Issues.validateIssueEnum "priority" priority Issues.validIssuePriorities
  let stage ← decodeGiven body.stage Issues.decodeStage
  .ok ⟨status, priority, stage⟩

def createTail (parsers : Issues.Parsers) (body : CreateIssueRequest) : Except Issues.Refusal CreateTail := do
  let projectId ← decodeGiven body.projectId (Issues.decodeUUID parsers "project_id")
  let parentIssueId ← decodeGiven body.parentIssueId (Issues.decodeUUID parsers "parent_issue_id")
  let startDate ← decodeGiven body.startDate (Issues.decodeDate parsers "start_date")
  let dueDate ← decodeGiven body.dueDate (Issues.decodeDate parsers "due_date")
  .ok ⟨projectId, parentIssueId, startDate, dueDate⟩

def createdIssue (workspaceId : Id) (body : CreateIssueRequest) (head : CreateHead) (assigneeId : Option Id)
    (tail : CreateTail) : Issues.Issue where
  workspaceId := workspaceId
  title := body.title
  description := body.description
  status := head.status
  priority := head.priority
  assigneeType := body.assigneeType
  assigneeId := assigneeId
  position := 0
  startDate := tail.startDate
  dueDate := tail.dueDate
  parentIssueId := tail.parentIssueId
  projectId := tail.projectId
  stage := head.stage

def Site.stamped (site : Site) (caller : Caller) (newId : Id) : Site :=
  { site with provenance := Function.update site.provenance newId (createdProvenance site caller) }

/-- `CreateIssue` with the id the new row gets; labels and duplicates are among what may make it
fail. -/
def createIssue (site : Site) (caller : Caller) (state : State) (workspaceId newId : Id)
    (body : CreateIssueRequest) (fails : Bool) : Except Issues.Refusal State := do
  let head ← createHead body
  let assigneeId ← decodeGiven body.assigneeId (Issues.decodeUUID site.parsers "assignee_id")
  Issues.validateAssigneePair (site.directory caller) workspaceId body.assigneeType assigneeId
  let tail ← createTail site.parsers body
  let issue := createdIssue workspaceId body head assigneeId tail
  let issues ← Issues.createIssue (site.directory caller) state.issues newId issue fails
  .ok (maybeEnqueueOnAssign (site.stamped caller newId) { state with issues := issues } newId issue)

end MulticaOS.IssueTriggers
