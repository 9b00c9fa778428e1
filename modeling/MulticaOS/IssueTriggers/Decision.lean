import MulticaOS.Issues.Events
import MulticaOS.IssueTriggers.Access

/-!
`WillEnqueueRun`, which a preview and the writes of an existing issue share, and what stands between
its answer and a new row of the task queue.
-/

namespace MulticaOS.IssueTriggers

open TaskQueue (Db NewTask Task)

inductive RunEnqueueSource where
  | assign
  | status
  deriving DecidableEq

structure TriggerInput extends Issues.IssueTriggerInput where
  issueId : Option Id
  isCreate : Bool

inductive RunAssignee where
  | agent
  | squad
  deriving DecidableEq

structure IssueRunTrigger where
  issueId : Option Id
  agentId : Id
  assigneeType : RunAssignee
  source : RunEnqueueSource
  deriving DecidableEq

/-- A nil `canAccessAgent` lets every agent pass. -/
structure Probe where
  canAccessAgent : Option (Agent → Bool)
  isSelfLoop : Bool

def Probe.access (probe : Probe) (agent : Agent) : Bool :=
  match probe.canAccessAgent with
  | none => true
  | some gate => gate agent

def isAgentRunningOnIssue (site : Site) (caller : Caller) (issueId : Option Id) : Bool :=
  match caller.actor, issueId with
  | .agent _, some id =>
      (caller.taskId.bind site.queries.getAgentTask).any fun task => task.issueId = some id
  | _, _ => false

def issueTriggerWriteProbe (site : Site) (caller : Caller) (issueId : Option Id) : Probe :=
  ⟨none, isAgentRunningOnIssue site caller issueId⟩

def issueTriggerPreviewProbe (site : Site) (caller : Caller) (workspaceId : Id) (issueId : Option Id) :
    Probe :=
  ⟨some (requestCanInvoke site caller workspaceId), isAgentRunningOnIssue site caller issueId⟩

def hasPendingTaskForIssueAndAgent (queue : Db) (issue agent : Id) (headSha : Option String) : Bool :=
  queue.tasks.any fun task => task.issueId = some issue && task.agentId = agent &&
    task.status.pending && TaskQueue.sameHead headSha task

def hasPendingRun (site : Site) (queue : Db) (issueId : Option Id) (agentId : Id) : Bool :=
  issueId.any fun id => hasPendingTaskForIssueAndAgent queue id agentId (site.reviewHeadSha id)

def runSource (input : TriggerInput) (isSelfLoop : Bool) : Option RunEnqueueSource :=
  if input.isCreate || input.assigneeChanged then
    if input.issue.status = "backlog" then none else some .assign
  else if input.statusChanged && input.prevStatus = "backlog" && input.issue.status ≠ "done" &&
      input.issue.status ≠ "cancelled" then
    if isSelfLoop then none else some .status
  else none

def willEnqueueRun (site : Site) (queue : Db) (input : TriggerInput) (probe : Probe) :
    Option IssueRunTrigger :=
  match input.issue.assigneeType, input.issue.assigneeId with
  | some kind, some assigneeId =>
      match runSource input probe.isSelfLoop with
      | none => none
      | some source =>
          if kind = "agent" then
            match site.agents assigneeId with
            | none => none
            | some agent =>
                if agent.runtimeId.isNone || agent.archived then none
                else if !probe.access agent then none
                else if source = .status && hasPendingRun site queue input.issueId assigneeId then none
                else some ⟨input.issueId, assigneeId, .agent, source⟩
          else if kind = "squad" then
            match getSquadInWorkspace site assigneeId input.issue.workspaceId with
            | none => none
            | some squad =>
                match site.agents squad.leaderId with
                | none => none
                | some leader =>
                    if !agentReadiness site leader then none
                    else if !probe.access leader then none
                    else if source = .status && hasPendingRun site queue input.issueId squad.leaderId then
                      none
                    else some ⟨input.issueId, squad.leaderId, .squad, source⟩
          else none
  | _, _ => none

structure Target where
  kind : RunAssignee
  agentId : Id
  agent : Agent

def runTarget (site : Site) (issue : Issues.Issue) : Option Target :=
  match issue.assigneeType, issue.assigneeId with
  | some kind, some assigneeId =>
      if kind = "agent" then
        ((site.agents assigneeId).filter fun agent => agent.runtimeId.isSome && !agent.archived).map
          fun agent => ⟨.agent, assigneeId, agent⟩
      else if kind = "squad" then
        (getSquadInWorkspace site assigneeId issue.workspaceId).bind fun squad =>
          ((site.agents squad.leaderId).filter (agentReadiness site)).map
            fun leader => ⟨.squad, squad.leaderId, leader⟩
      else none
  | _, _ => none

theorem guarded (access pending : Bool) (trigger : IssueRunTrigger) :
    (if (!access) = true then none else if pending = true then none else some trigger) =
      if (access && !pending) = true then some trigger else none := by
  cases access <;> cases pending <;> rfl

theorem willEnqueueRun_eq (site : Site) (queue : Db) (input : TriggerInput) (probe : Probe) :
    willEnqueueRun site queue input probe =
      (runSource input probe.isSelfLoop).bind fun source =>
        (runTarget site input.issue).bind fun target =>
          if probe.access target.agent &&
              !(source = .status && hasPendingRun site queue input.issueId target.agentId) then
            some ⟨input.issueId, target.agentId, target.kind, source⟩
          else none := by
  simp only [willEnqueueRun, runTarget, guarded]
  cases runSource input probe.isSelfLoop with
  | none => cases input.issue.assigneeType <;> cases input.issue.assigneeId <;> rfl
  | some source =>
      cases input.issue.assigneeType with
      | none => rfl
      | some kind =>
          cases input.issue.assigneeId with
          | none => rfl
          | some assigneeId =>
              simp only [Option.bind_some]
              by_cases isAgent : kind = "agent"
              · simp only [isAgent, if_true]
                cases site.agents assigneeId with
                | none => rfl
                | some agent =>
                    cases runtime : agent.runtimeId <;> cases archived : agent.archived <;>
                      simp [Option.filter, runtime, archived]
              · by_cases isSquad : kind = "squad"
                · simp only [isSquad, if_true]
                  cases getSquadInWorkspace site assigneeId input.issue.workspaceId with
                  | none => rfl
                  | some squad =>
                      simp only [Option.bind_some]
                      cases site.agents squad.leaderId with
                      | none => rfl
                      | some leader => cases ready : agentReadiness site leader <;> simp [Option.filter, ready]
                · simp [isAgent, isSquad]

def priorityToInt (priority : String) : Int :=
  if priority = "urgent" then 4
  else if priority = "high" then 3
  else if priority = "medium" then 2
  else if priority = "low" then 1
  else 0

inductive EnqueueRefusal where
  | noAssignee
  | agentMissing
  | agentArchived
  | noRuntime
  | attribution (refusal : Attribution.Refusal)
  | notCreated (error : TaskQueue.DbError)

def attributionIssue (site : Site) (id : Id) (issue : Issues.Issue) : Attribution.Issue where
  id := id
  workspaceId := issue.workspaceId
  creatorType := (site.provenance id).creatorType
  creatorId := (site.provenance id).creatorId
  originType := (site.provenance id).originType
  originId := (site.provenance id).originId

def resolveAttribution (site : Site) (id : Id) (issue : Issues.Issue) (agent : Agent)
    (agentAuthoredSource : Attribution.Source) (actorUserId : Option Id) :
    Except Attribution.Refusal Attribution.Result :=
  Attribution.applyAttributionFallback site.queries
    (Attribution.attributionForIssueTask site.queries (attributionIssue site id issue) none
      agentAuthoredSource actorUserId)
    ⟨some agent.workspaceId, agent.ownerId⟩

def issueTask (site : Site) (id : Id) (issue : Issues.Issue) (agentId runtimeId : Id)
    (squadId : Option Id) (attr : Attribution.Result) : NewTask where
  agentId := agentId
  runtimeId := runtimeId
  priority := priorityToInt issue.priority
  triggerCommentId := none
  coalescedCommentIds := []
  triggerSummary := none
  headSha := site.reviewHeadSha id
  forceFreshSession := false
  isLeaderTask := squadId.isSome
  squadId := squadId
  attribution := Attribution.attributionCreateParams attr
  overlay := site.overlay attr.userId agentId
  maxAttempts := 2

def enqueueAgentTask (site : Site) (queue : Db) (id : Id) (issue : Issues.Issue) (agentId : Id)
    (squadId : Option Id) (agentAuthoredSource : Attribution.Source) (actorUserId : Option Id) :
    Except EnqueueRefusal (Db × Task) :=
  match site.agents agentId with
  | none => .error .agentMissing
  | some agent =>
      if agent.archived then .error .agentArchived
      else
        match agent.runtimeId with
        | none => .error .noRuntime
        | some runtimeId =>
            match resolveAttribution site id issue agent agentAuthoredSource actorUserId with
            | .error refusal => .error (.attribution refusal)
            | .ok attr =>
                (TaskQueue.createAgentTask queue id
                  (issueTask site id issue agentId runtimeId squadId attr)).mapError .notCreated

def enqueueIssueTask (site : Site) (queue : Db) (id : Id) (issue : Issues.Issue)
    (actorUserId : Option Id) : Except EnqueueRefusal (Db × Task) :=
  match issue.assigneeId with
  | none => .error .noAssignee
  | some agentId => enqueueAgentTask site queue id issue agentId none .commentSource actorUserId

def enqueueTaskForSquadLeader (site : Site) (queue : Db) (id : Id) (issue : Issues.Issue)
    (leaderId squadId : Id) (actorUserId : Option Id) : Except EnqueueRefusal (Db × Task) :=
  enqueueAgentTask site queue id issue leaderId (some squadId) .delegation actorUserId

/-- The trigger comment is the system's own, which attribution passes over. -/
def enqueueTaskForMention (site : Site) (queue : Db) (id : Id) (issue : Issues.Issue) (agentId : Id) :
    Except EnqueueRefusal (Db × Task) :=
  enqueueAgentTask site queue id issue agentId none .delegation none

def attributed (site : Site) (id : Id) (issue : Issues.Issue) (agent : Agent)
    (agentAuthoredSource : Attribution.Source) (actorUserId : Option Id) : Bool :=
  match resolveAttribution site id issue agent agentAuthoredSource actorUserId with
  | .ok _ => true
  | .error _ => false

/-- The slot of the unique index, whatever head its task was made for. -/
def slotTaken (queue : Db) (id agentId : Id) : Bool :=
  hasPendingTaskForIssueAndAgent queue id agentId none

structure Grown (before after : Db) (id agentId : Id) : Prop where
  unique : TaskQueue.PendingUnique after.tasks
  kept : ∀ issue agent headSha, issue ≠ id →
    hasPendingTaskForIssueAndAgent after issue agent headSha =
      hasPendingTaskForIssueAndAgent before issue agent headSha

theorem slotTaken_of_pending {queue : Db} {id agentId : Id} {headSha : Option String}
    (pending : hasPendingTaskForIssueAndAgent queue id agentId headSha = true) :
    slotTaken queue id agentId = true := by
  rw [hasPendingTaskForIssueAndAgent, List.any_eq_true] at pending
  obtain ⟨task, member, own⟩ := pending
  refine List.any_eq_true.mpr ⟨task, member, ?_⟩
  simp only [Bool.and_eq_true] at own ⊢
  exact ⟨own.1, rfl⟩

theorem collides_issueTask {task : Task} {id now newId : Id} {new : NewTask} :
    task.collides (Task.forIssue id new now newId) = true ↔
      task.issueId = some id ∧ task.agentId = new.agentId ∧ task.status.pending = true := by
  rw [TaskQueue.collides_iff, TaskQueue.samePair_iff]
  constructor
  · rintro ⟨pending, -, ⟨issue, own, same⟩, agent⟩
    obtain rfl : id = issue := Option.some.inj same
    exact ⟨own, agent, pending⟩
  · rintro ⟨own, agent, pending⟩
    exact ⟨pending, rfl, ⟨id, own, rfl⟩, agent⟩

theorem createAgentTask_cases {queue : Db} (unique : TaskQueue.PendingUnique queue.tasks) (id : Id)
    (new : NewTask) :
    (slotTaken queue id new.agentId = false ∧
        ∃ next task, TaskQueue.createAgentTask queue id new = .ok (next, task) ∧
          Grown queue next id new.agentId) ∨
      (slotTaken queue id new.agentId = true ∧
        TaskQueue.createAgentTask queue id new = .error .uniqueViolation) := by
  have slot : slotTaken queue id new.agentId = true ↔
      ∃ task ∈ queue.tasks, task.collides (Task.forIssue id new queue.now queue.nextId) = true := by
    simp only [collides_issueTask, slotTaken, hasPendingTaskForIssueAndAgent, List.any_eq_true,
      TaskQueue.sameHead, Bool.and_eq_true, decide_eq_true_eq, Option.isNone_none, Bool.true_or, and_true,
      and_assoc]
  cases taken : slotTaken queue id new.agentId with
  | false =>
      have free : TaskQueue.PendingUnique (queue.tasks ++ [Task.forIssue id new queue.now queue.nextId]) := by
        refine TaskQueue.pendingUnique_append.mpr ⟨unique, fun task member => ?_⟩
        by_contra collide
        rw [slot.mpr ⟨task, member, Bool.of_not_eq_false collide⟩] at taken
        contradiction
      refine .inl ⟨rfl, { queue with
        nextId := queue.nextId + 1
        tasks := queue.tasks ++ [Task.forIssue id new queue.now queue.nextId] },
        Task.forIssue id new queue.now queue.nextId, ?_, free,
        fun issue agent headSha other => ?_⟩
      · simp only [TaskQueue.createAgentTask, TaskQueue.insert, TaskQueue.commit, if_pos free]
      · have foreign : (Task.forIssue id new queue.now queue.nextId).issueId ≠ some issue := fun same =>
          other (Option.some.inj same).symm
        simp [hasPendingTaskForIssueAndAgent, List.any_append, foreign]
  | true =>
      refine .inr ⟨rfl, ?_⟩
      obtain ⟨task, member, collide⟩ := slot.mp taken
      have refused : ¬TaskQueue.PendingUnique
          (queue.tasks ++ [Task.forIssue id new queue.now queue.nextId]) := fun admitted => by
        rw [(TaskQueue.pendingUnique_append.mp admitted).2 task member] at collide
        contradiction
      simp only [TaskQueue.createAgentTask, TaskQueue.insert, TaskQueue.commit, if_neg refused]

theorem enqueueAgentTask_cases {site : Site} {queue : Db} (unique : TaskQueue.PendingUnique queue.tasks)
    (id : Id) (issue : Issues.Issue) {agentId : Id} {agent : Agent} (squadId : Option Id)
    (source : Attribution.Source) (actorUserId : Option Id) (found : site.agents agentId = some agent)
    (live : agent.archived = false) (bound : agent.runtimeId.isSome = true) :
    ((attributed site id issue agent source actorUserId && !slotTaken queue id agentId) = true ∧
        ∃ next task, enqueueAgentTask site queue id issue agentId squadId source actorUserId =
          .ok (next, task) ∧ Grown queue next id agentId) ∨
      ((attributed site id issue agent source actorUserId && !slotTaken queue id agentId) = false ∧
        ∃ refusal, enqueueAgentTask site queue id issue agentId squadId source actorUserId =
          .error refusal) := by
  obtain ⟨runtimeId, runs⟩ := Option.isSome_iff_exists.mp bound
  simp only [enqueueAgentTask, found, live, Bool.false_eq_true, if_false, runs, attributed]
  cases resolveAttribution site id issue agent source actorUserId with
  | error refusal => exact .inr ⟨rfl, _, rfl⟩
  | ok attr =>
      rcases createAgentTask_cases unique id (issueTask site id issue agentId runtimeId squadId attr) with
        ⟨free, next, task, created, grown⟩ | ⟨taken, refused⟩
      · have slot : slotTaken queue id agentId = false := free
        refine .inl ⟨by simp [slot], next, task, ?_, grown⟩
        simp only [created, Except.mapError]
      · have slot : slotTaken queue id agentId = true := taken
        refine .inr ⟨by simp [slot], .notCreated .uniqueViolation, ?_⟩
        simp only [refused, Except.mapError]

end MulticaOS.IssueTriggers
