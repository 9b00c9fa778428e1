import MulticaOS.TaskQueue.Rows

/-!
The statements of `agent.sql`, `runtime.sql` and `chat.sql` that write `agent_task_queue`,
and the transactions of `task.go` built from them.  A statement's effect on one row is a
function of its own.
-/

namespace MulticaOS.TaskQueue

def prepareLeaseDuration : Nat := 45
def claimResponseRecoveryWindow : Nat := 90

/-- What a caller supplies for a new row; `max_attempts` is 2 unless the row is edited. -/
structure NewTask where
  agentId : Id
  runtimeId : Id
  priority : Int
  triggerCommentId : Option Id
  coalescedCommentIds : List Id
  triggerSummary : Option String
  headSha : Option String
  forceFreshSession : Bool
  isLeaderTask : Bool
  squadId : Option Id
  attribution : Attribution
  overlay : Overlay
  maxAttempts : Int

def Task.blank (new : NewTask) (now : Nat) (id : Id) : Task where
  id := id
  agentId := new.agentId
  runtimeId := new.runtimeId
  issueId := none
  chatSessionId := none
  autopilotRunId := none
  status := .queued
  priority := new.priority
  createdAt := now
  dispatchedAt := none
  startedAt := none
  completedAt := none
  prepareLeaseExpiresAt := none
  fireAt := none
  triggerCommentId := none
  coalescedCommentIds := []
  deliveredCommentIds := []
  triggerSummary := none
  headSha := none
  failureReason := none
  error := none
  sessionId := none
  workDir := none
  sessionRolloutMissing := false
  forceFreshSession := false
  waitReason := none
  attempt := 1
  maxAttempts := new.maxAttempts
  parentTaskId := none
  retryOfTaskId := none
  escalationForTaskId := none
  chatInputTaskId := none
  isLeaderTask := false
  squadId := none
  attribution := new.attribution
  overlay := noOverlay

def Task.forIssue (issue : Id) (new : NewTask) (now : Nat) (id : Id) : Task :=
  { Task.blank new now id with
    issueId := some issue
    triggerCommentId := new.triggerCommentId
    coalescedCommentIds := new.coalescedCommentIds
    triggerSummary := new.triggerSummary
    forceFreshSession := new.forceFreshSession
    isLeaderTask := new.isLeaderTask
    squadId := new.squadId
    headSha := new.headSha
    overlay := new.overlay }

def Task.forQuickCreate (new : NewTask) (now : Nat) (id : Id) : Task :=
  { Task.blank new now id with overlay := new.overlay }

def Task.forAutopilot (run : Id) (new : NewTask) (now : Nat) (id : Id) : Task :=
  { Task.blank new now id with autopilotRunId := some run, triggerSummary := new.triggerSummary }

def Task.fallback (issue escalationFor : Id) (fireAt : Nat) (new : NewTask) (now : Nat) (id : Id) :
    Task :=
  { Task.blank new now id with
    issueId := some issue
    status := .deferred
    triggerCommentId := new.triggerCommentId
    triggerSummary := new.triggerSummary
    isLeaderTask := new.isLeaderTask
    squadId := new.squadId
    escalationForTaskId := some escalationFor
    fireAt := some fireAt }

def Task.forChat (session : Id) (fireAt : Option Nat) (ownsInput : Bool) (new : NewTask) (now : Nat)
    (id : Id) : Task :=
  { Task.blank new now id with
    chatSessionId := some session
    status := if fireAt.isSome then .deferred else .queued
    forceFreshSession := new.forceFreshSession
    fireAt := fireAt
    chatInputTaskId := if ownsInput then some id else none
    overlay := new.overlay }

def createAgentTask (db : Db) (issue : Id) (new : NewTask) := insert db (Task.forIssue issue new db.now)

def createQuickCreateTask (db : Db) (new : NewTask) := insert db (Task.forQuickCreate new db.now)

def createAutopilotTask (db : Db) (run : Id) (new : NewTask) :=
  insert db (Task.forAutopilot run new db.now)

def createDeferredAgentTask (db : Db) (issue escalationFor : Id) (fireAt : Nat) (new : NewTask) :=
  insert db (Task.fallback issue escalationFor fireAt new db.now)

def createChatTask (db : Db) (session : Id) (fireAt : Option Nat) (ownsInput : Bool) (new : NewTask) :=
  insert db (Task.forChat session fireAt ownsInput new db.now)

def Task.resumeUnsafe (task : Task) : Bool := task.failureReason = some .codexSemanticInactivity

def Task.retry (parent : Task) (fireAt : Option Nat) (maxAttempts : Option Int) (overlay : Overlay)
    (now : Nat) (id : Id) : Task where
  id := id
  agentId := parent.agentId
  runtimeId := parent.runtimeId
  issueId := parent.issueId
  chatSessionId := parent.chatSessionId
  autopilotRunId := parent.autopilotRunId
  status := if fireAt.isSome then .deferred else .queued
  priority := if parent.chatSessionId.isSome then max parent.priority 3 else parent.priority
  createdAt := now
  dispatchedAt := none
  startedAt := none
  completedAt := none
  prepareLeaseExpiresAt := none
  fireAt := fireAt
  triggerCommentId := parent.triggerCommentId
  coalescedCommentIds := parent.coalescedCommentIds
  deliveredCommentIds := []
  triggerSummary := parent.triggerSummary
  headSha := parent.headSha
  failureReason := none
  error := none
  sessionId := if parent.resumeUnsafe then none else parent.sessionId
  workDir := if parent.resumeUnsafe then none else parent.workDir
  sessionRolloutMissing := false
  forceFreshSession := parent.resumeUnsafe
  waitReason := none
  attempt := parent.attempt + 1
  maxAttempts := maxAttempts.getD parent.maxAttempts
  parentTaskId := some parent.id
  retryOfTaskId := some parent.id
  escalationForTaskId := none
  chatInputTaskId := parent.chatInputTaskId
  isLeaderTask := parent.isLeaderTask
  squadId := parent.squadId
  attribution := parent.attribution
  overlay := overlay

def getAgentTask (db : Db) (id : Id) : Option Task := db.tasks.find? fun task => task.id = id

def createRetryTask (db : Db) (parent : Id) (fireAt : Option Nat) (maxAttempts : Option Int)
    (overlay : Overlay) : Except DbError (Db × Task) :=
  match getAgentTask db parent with
  | none => .error .noRows
  | some task => insert db (task.retry fireAt maxAttempts overlay db.now)

def Task.claim (now : Nat) (task : Task) : Task :=
  { task with
    status := .dispatched
    dispatchedAt := some now
    prepareLeaseExpiresAt := some (now + prepareLeaseDuration) }

/-- Two tasks that `ClaimAgentTask` never lets be active together. -/
def Task.serializedWith (task active : Task) : Bool :=
  (task.issueId.isSome && active.issueId = task.issueId) ||
    (task.chatSessionId.isSome && active.chatSessionId = task.chatSessionId) ||
    (task.issueId.isNone && task.chatSessionId.isNone && task.autopilotRunId.isNone &&
      active.issueId.isNone && active.chatSessionId.isNone && active.autopilotRunId.isNone)

/-- `ORDER BY priority DESC, created_at ASC`. -/
def Task.claimedBefore (left right : Task) : Bool :=
  right.priority < left.priority || (left.priority = right.priority && left.createdAt < right.createdAt)

def claimable (db : Db) (agent : Id) (locked : List Id) (task : Task) : Bool :=
  task.agentId = agent && task.status = .queued && !locked.contains task.id &&
    !(db.tasks.any fun active => active.agentId = task.agentId && active.status.active &&
      task.serializedWith active)

/-- `ClaimAgentTask`; `locked` are the rows that `SKIP LOCKED` passes over. -/
def claimAgentTask (db : Db) (agent : Id) (locked : List Id) : Except DbError (Db × Task) :=
  updateSelected db (TableLib.first Task.claimedBefore (db.tasks.filter (claimable db agent locked)))
    (Task.claim db.now)

def countRunningTasks (db : Db) (agent : Id) : Nat :=
  db.tasks.countP fun task => task.agentId = agent && task.status.active

/-- The first statements of the transaction of `ClaimTask`: the agent row is locked and the
running tasks are counted. The transaction goes on only below the limit. -/
def beginClaimTask (db : Db) (agent : Id) : Db :=
  if db.claiming.contains agent then db
  else if db.maxConcurrentTasks agent ≤ countRunningTasks db agent then db
  else { db with claiming := agent :: db.claiming }

def releaseAgent (db : Db) (agent : Id) : Db :=
  { db with claiming := db.claiming.filter fun other => other ≠ agent }

def finishClaimTask (db : Db) (agent : Id) (locked : List Id) : Db :=
  if db.claiming.contains agent then releaseAgent (settle db (claimAgentTask db agent locked)) agent
  else db

def Task.deliver (delivered : List Id) (task : Task) : Task :=
  { task with deliveredCommentIds := delivered }

def Task.sameClaim (snapshot task : Task) : Bool :=
  task.id = snapshot.id && task.runtimeId = snapshot.runtimeId && task.status = .dispatched &&
    task.startedAt.isNone && task.dispatchedAt.isSome && task.dispatchedAt = snapshot.dispatchedAt

def setTaskDeliveredCommentIDs (db : Db) (snapshot : Task) (delivered : List Id) :
    Except DbError (Db × Task) :=
  updateOne db
    (fun task => snapshot.sameClaim task && task.triggerCommentId = snapshot.triggerCommentId &&
      delivered.all task.planned.contains)
    (Task.deliver delivered)

def createTaskToken (db : Db) (token : TaskToken) : Except DbError (Db × TaskToken) :=
  if db.tasks.any fun task => task.id = token.taskId then
    .ok ({ db with tokens := db.tokens ++ [token] }, token)
  else .error .foreignKeyViolation

def Task.commentBacked (snapshot : Task) : Bool :=
  snapshot.triggerCommentId.isSome || !snapshot.coalescedCommentIds.isEmpty

def finalizeTaskClaim (db : Db) (snapshot : Task) (tokenHash : String) (delivered : List Id) :
    Except DbError (Db × List Id) := do
  let (tokened, _) ← createTaskToken db ⟨snapshot.id, tokenHash⟩
  if snapshot.commentBacked then
    let (receipted, task) ← setTaskDeliveredCommentIDs tokened snapshot delivered
    .ok (receipted, task.deliveredCommentIds)
  else .ok (tokened, snapshot.deliveredCommentIds)

def Task.requeue (task : Task) : Task :=
  { task with
    status := .queued
    dispatchedAt := none
    prepareLeaseExpiresAt := none
    deliveredCommentIds := [] }

def requeueTaskAfterClaimFailure (db : Db) (snapshot : Task) : Except DbError (Db × Task) :=
  updateOne db snapshot.sameClaim Task.requeue

def leaseExpired (now : Nat) (task : Task) : Bool :=
  match task.prepareLeaseExpiresAt with
  | none => true
  | some expires => expires < now

def before (time : Option Nat) (limit : Nat) : Bool :=
  match time with
  | none => false
  | some value => value < limit

def staleClaim (db : Db) (runtimes locked : List Id) (task : Task) : Bool :=
  runtimes.contains task.runtimeId && task.status = .dispatched && task.startedAt.isNone &&
    before task.dispatchedAt (db.now - claimResponseRecoveryWindow) &&
    leaseExpired db.now task && !locked.contains task.id

/-- `ReclaimStaleDispatchedTask(s)ForRuntime(s)`; `chosen` are the rows within its limit. -/
def reclaimStaleDispatchedTasks (db : Db) (runtimes locked chosen : List Id) :
    Except DbError (Db × List Task) :=
  updateMany db (fun task => staleClaim db runtimes locked task && chosen.contains task.id)
    (Task.claim db.now)

def Task.extendLease (now : Nat) (task : Task) : Task :=
  { task with prepareLeaseExpiresAt := some (now + prepareLeaseDuration) }

def extendAgentTaskPrepareLease (db : Db) (id runtime : Id) : Except DbError (Db × Task) :=
  updateOne db
    (fun task => task.id = id && task.runtimeId = runtime &&
      (task.status = .dispatched || task.status = .waitingLocalDirectory) && task.startedAt.isNone)
    (Task.extendLease db.now)

def Task.start (now : Nat) (task : Task) : Task :=
  { task with
    status := .running
    startedAt := some now
    waitReason := none
    prepareLeaseExpiresAt := none }

def startAgentTask (db : Db) (id : Id) : Except DbError (Db × Task) :=
  updateOne db
    (fun task => task.id = id && (task.status = .dispatched || task.status = .waitingLocalDirectory))
    (Task.start db.now)

def Task.wait (now : Nat) (reason : Option String) (task : Task) : Task :=
  { task with
    status := .waitingLocalDirectory
    waitReason := reason
    prepareLeaseExpiresAt := some (now + prepareLeaseDuration) }

def markAgentTaskWaitingLocalDirectory (db : Db) (id : Id) (reason : Option String) :
    Except DbError (Db × Task) :=
  updateOne db (fun task => task.id = id && task.status = .dispatched) (Task.wait db.now reason)

def Task.pinSession (sessionId workDir : Option String) (task : Task) : Task :=
  { task with sessionId := sessionId.or task.sessionId, workDir := workDir.or task.workDir }

def updateAgentTaskSession (db : Db) (id : Id) (sessionId workDir : Option String) :
    Except DbError (Db × List Task) :=
  updateMany db
    (fun task => task.id = id && (task.status = .dispatched || task.status = .running))
    (Task.pinSession sessionId workDir)

structure SessionReport where
  sessionId : Option String
  workDir : Option String
  rolloutMissing : Bool

def Task.complete (now : Nat) (report : SessionReport) (task : Task) : Task :=
  { task with
    status := .completed
    completedAt := some now
    sessionId := if report.rolloutMissing then none else report.sessionId
    workDir := report.workDir
    sessionRolloutMissing := report.rolloutMissing
    prepareLeaseExpiresAt := none }

def completeAgentTask (db : Db) (id : Id) (report : SessionReport) : Except DbError (Db × Task) :=
  updateOne db (fun task => task.id = id && task.status = .running) (Task.complete db.now report)

def Task.linkIssue (issue : Id) (task : Task) : Task := { task with issueId := some issue }

def linkTaskToIssue (db : Db) (id issue : Id) : Except DbError (Db × List Task) :=
  updateMany db
    (fun task => task.id = id && task.issueId.isNone && task.chatSessionId.isNone &&
      task.autopilotRunId.isNone && task.status = .completed)
    (Task.linkIssue issue)

def Task.fail (now : Nat) (error : String) (reason : FailureReason) (report : SessionReport)
    (task : Task) : Task :=
  { task with
    status := .failed
    completedAt := some now
    error := some error
    failureReason := some reason
    sessionId := if report.rolloutMissing then none else report.sessionId.or task.sessionId
    workDir := report.workDir.or task.workDir
    sessionRolloutMissing := report.rolloutMissing
    prepareLeaseExpiresAt := none }

def failAgentTask (db : Db) (id : Id) (error : String) (reason : FailureReason)
    (report : SessionReport) : Except DbError (Db × Task) :=
  updateOne db (fun task => task.id = id && task.status.active) (Task.fail db.now error reason report)

def Task.sweep (now : Nat) (error : String) (reason : FailureReason) (keepsLease keepsWait : Bool)
    (task : Task) : Task :=
  { task with
    status := .failed
    completedAt := some now
    error := some error
    failureReason := some reason
    waitReason := if keepsWait then task.waitReason else none
    prepareLeaseExpiresAt := if keepsLease then task.prepareLeaseExpiresAt else none }

def failTasksForOfflineRuntimes (db : Db) (offline : List Id) : Except DbError (Db × List Task) :=
  updateMany db (fun task => task.status.active && offline.contains task.runtimeId)
    (Task.sweep db.now "runtime went offline" .runtimeOffline true false)

def recoverOrphanedTasksForRuntime (db : Db) (runtime : Id) : Except DbError (Db × List Task) :=
  updateMany db (fun task => task.runtimeId = runtime && task.status.active)
    (Task.sweep db.now "daemon restarted while task was in flight" .runtimeRecovery false false)

def failStaleTasks (db : Db) (dispatchTimeout runningTimeout : Nat) (alive : List Id) :
    Except DbError (Db × List Task) :=
  updateMany db
    (fun task =>
      (task.status = .dispatched && before task.dispatchedAt (db.now - dispatchTimeout) &&
        leaseExpired db.now task) ||
      (task.status = .running && before task.startedAt (db.now - runningTimeout) &&
        !alive.contains task.runtimeId))
    (Task.sweep db.now "task timed out" .timeout false true)

/-- `ExpireStaleQueuedTasks`; `chosen` are the rows within its limit that nobody has locked. -/
def expireStaleQueuedTasks (db : Db) (ttl : Nat) (chosen : List Id) :
    Except DbError (Db × List Task) :=
  updateMany db
    (fun task => task.status = .queued && task.createdAt < db.now - ttl && chosen.contains task.id)
    (Task.sweep db.now "task expired in queue" .queuedExpired false true)

def Task.cancel (now : Nat) (clearsLease : Bool) (task : Task) : Task :=
  { task with
    status := .cancelled
    completedAt := some now
    prepareLeaseExpiresAt := if clearsLease then none else task.prepareLeaseExpiresAt }

def Status.live (status : Status) : Bool := !status.terminal

/-- The `CancelAgentTask*` family: every live row that the caller's predicate selects. -/
def cancelAgentTasks (db : Db) (selects : Task → Bool) : Except DbError (Db × List Task) :=
  updateMany db (fun task => selects task && task.status.live) (Task.cancel db.now true)

def cancelAgentTask (db : Db) (id : Id) := cancelAgentTasks db fun task => task.id = id

def cancelAgentTasksByIssue (db : Db) (issue : Id) :=
  cancelAgentTasks db fun task => task.issueId = some issue

def cancelAgentTasksByIssueAndAgent (db : Db) (issue agent : Id) :=
  cancelAgentTasks db fun task => task.issueId = some issue && task.agentId = agent

def cancelAgentTasksByAgent (db : Db) (agent : Id) :=
  cancelAgentTasks db fun task => task.agentId = agent

def cancelAgentTasksByTriggerComment (db : Db) (comment : Id) :=
  cancelAgentTasks db fun task => task.planned.contains comment

def cancelAgentTasksByChatSession (db : Db) (session : Id) :=
  cancelAgentTasks db fun task => task.chatSessionId = some session

/-- Unlike its siblings it leaves deferred rows and leases alone. -/
def cancelAgentTasksByRuntimeOrAgent (db : Db) (runtimes agents : List Id) :
    Except DbError (Db × List Task) :=
  updateMany db
    (fun task => (runtimes.contains task.runtimeId || agents.contains task.agentId) &&
      (task.status = .queued || task.status.active))
    (Task.cancel db.now false)

def escalationCancellable (task : Task) : Bool :=
  task.status.live && task.status ≠ .running

def cancelDeferredEscalationsForTask (db : Db) (task : Id) : Except DbError (Db × List Task) :=
  updateMany db
    (fun fallback => fallback.escalationForTaskId = some task && escalationCancellable fallback)
    (Task.cancel db.now true)

def cancelDeferredEscalationsForIssueAgent (db : Db) (issue agent : Id) :
    Except DbError (Db × List Task) :=
  updateMany db
    (fun fallback => escalationCancellable fallback &&
      db.tasks.any fun primary => fallback.escalationForTaskId = some primary.id &&
        primary.issueId = some issue && primary.agentId = agent)
    (Task.cancel db.now true)

def Task.promote (task : Task) : Task := { task with status := .queued }

def dueDeferred (runtimes : List Id) (now : Nat) (task : Task) : Bool :=
  runtimes.contains task.runtimeId && task.status = .deferred &&
    match task.fireAt with
    | none => false
    | some fireAt => fireAt ≤ now

def promoteDueDeferredTasks (db : Db) (runtimes : List Id) : Except DbError (Db × List Task) :=
  updateMany db (dueDeferred runtimes db.now) Task.promote

def promoteDueDeferredTasksForRuntimes (db : Db) (runtimes : List Id) :=
  promoteDueDeferredTasks db runtimes

/-- `PromoteChannelChatTasksIfMediaReady`, once no media marker of the session is pending. -/
def promoteChannelChatTasks (db : Db) (session : Id) : Except DbError (Db × List Task) :=
  updateMany db
    (fun task => task.chatSessionId = some session && task.status = .deferred &&
      task.issueId.isNone && task.parentTaskId.isNone && task.escalationForTaskId.isNone)
    fun task => { task.promote with fireAt := none }

def Task.reassign (runtime : Id) (task : Task) : Task := { task with runtimeId := runtime }

def reassignTasksToRuntime (db : Db) (old new : Id) : Except DbError (Db × List Task) :=
  updateMany db (fun task => task.runtimeId = old) (Task.reassign new)

def sameHead (headSha : Option String) (task : Task) : Bool :=
  headSha.isNone || task.headSha = headSha

structure Trigger where
  commentId : Id
  summary : Option String
  attribution : Attribution
  overlay : Overlay

def Task.mergeComment (trigger : Trigger) (task : Task) : Task :=
  { task with
    coalescedCommentIds := (task.coalescedCommentIds ++ task.triggerCommentId.toList).dedup.filter
      fun comment => comment ≠ trigger.commentId
    triggerCommentId := some trigger.commentId
    triggerSummary := trigger.summary.or task.triggerSummary
    attribution := trigger.attribution
    overlay := trigger.overlay }

def newestFirst (left right : Task) : Bool := right.createdAt < left.createdAt

def mergeCommentIntoPendingTask (db : Db) (issue agent : Id) (headSha : Option String)
    (trigger : Trigger) : Except DbError (Db × Task) :=
  updateSelected db
    (TableLib.first newestFirst (db.tasks.filter fun task => task.issueId = some issue &&
      task.agentId = agent && task.status = .queued && sameHead headSha task))
    (Task.mergeComment trigger)

def Task.registerComment (comment : Id) (task : Task) : Task :=
  { task with coalescedCommentIds := (task.coalescedCommentIds ++ [comment]).dedup }

def registerPlannedCommentForActiveTask (db : Db) (issue agent : Id) (headSha : Option String)
    (comment : Id) : Except DbError (Db × Task) :=
  updateSelected db
    (TableLib.first newestFirst (db.tasks.filter fun task => task.issueId = some issue &&
      task.agentId = agent && task.status.active && sameHead headSha task))
    (Task.registerComment comment)

def hasPendingTaskForIssueAndAgentExcludingTriggerComment (db : Db) (issue agent exclude : Id)
    (headSha : Option String) : Bool :=
  db.tasks.any fun task => task.issueId = some issue && task.agentId = agent &&
    task.status.pending && task.triggerCommentId ≠ some exclude && sameHead headSha task

def hasActiveTaskForIssueAndAgent (db : Db) (issue agent : Id) : Bool :=
  db.tasks.any fun task => task.issueId = some issue && task.agentId = agent &&
    (task.status = .queued || task.status.active)

def retryableReasons : FailureReason → Bool
  | .runtimeOffline => true
  | .runtimeRecovery => true
  | .timeout => true
  | .codexSemanticInactivity => true
  | .providerNetwork => true
  | _ => false

def providerNetworkMaxAttempts : Int := 3
def providerNetworkFinalRetryWait : Nat := 5

def retryAttemptCeiling (reason : FailureReason) (taskMaxAttempts : Int) : Int :=
  if taskMaxAttempts ≤ 1 then taskMaxAttempts
  else if reason = .providerNetwork ∧ taskMaxAttempts < providerNetworkMaxAttempts then
    providerNetworkMaxAttempts
  else taskMaxAttempts

def retryDelayForAttempt (reason : FailureReason) (failedAttempt : Int) : Nat :=
  if reason = .providerNetwork ∧ providerNetworkMaxAttempts - 1 ≤ failedAttempt then
    providerNetworkFinalRetryWait
  else 0

def retryEligible (reason : FailureReason) (task : Task) : Bool :=
  retryableReasons reason && task.attempt < retryAttemptCeiling reason task.maxAttempts &&
    task.autopilotRunId.isNone && (task.issueId.isSome || task.chatSessionId.isSome)

def retryFireAt (reason : FailureReason) (task : Task) (now : Nat) : Option Nat :=
  let delay := retryDelayForAttempt reason task.attempt
  if 0 < delay then some (now + delay) else none

structure RetryPlan where
  fireAt : Option Nat
  maxAttempts : Option Int
  deriving DecidableEq

def failTaskRetry (reason : FailureReason) (parent : Task) (now : Nat) : Option RetryPlan :=
  if retryableReasons reason then
    if retryEligible reason parent then
      some ⟨retryFireAt reason parent now, some (retryAttemptCeiling reason parent.maxAttempts)⟩
    else none
  else none

def failTaskTransaction (db : Db) (id : Id) (error : String) (reason : FailureReason)
    (report : SessionReport) (plan : Option RetryPlan) (overlay : Overlay) :
    Except DbError (Db × Task) := do
  let (failed, task) ← failAgentTask db id error reason report
  match plan with
  | none => .ok (failed, task)
  | some plan =>
      let (retried, _) ← createRetryTask failed id plan.fireAt plan.maxAttempts overlay
      .ok (retried, task)

def failTask (db : Db) (id : Id) (error : String) (reason : FailureReason) (report : SessionReport)
    (overlay : Overlay) : Except DbError (Db × Task) :=
  let plan := (getAgentTask db id).bind fun parent => failTaskRetry reason parent db.now
  match failTaskTransaction db id error reason report plan overlay with
  | .ok result => .ok result
  | .error .noRows =>
      match getAgentTask db id with
      | some existing => .ok (db, existing)
      | none => .error .noRows
  | .error failure => .error failure

def maybeRetryPlan (parent : Task) (now : Nat) : Option RetryPlan :=
  if parent.status ≠ .failed then none
  else
    match parent.failureReason with
    | none => none
    | some reason =>
        if !retryableReasons reason then none
        else if retryAttemptCeiling reason parent.maxAttempts ≤ parent.attempt then none
        else if !retryEligible reason parent then none
        else some ⟨retryFireAt reason parent now, some (retryAttemptCeiling reason parent.maxAttempts)⟩

def maybeRetryFailedTask (db : Db) (parent : Task) (overlay : Overlay) :
    Except DbError (Db × Option Task) :=
  match maybeRetryPlan parent db.now with
  | none => .ok (db, none)
  | some plan =>
      match createRetryTask db parent.id plan.fireAt plan.maxAttempts overlay with
      | .ok (next, child) => .ok (next, some child)
      | .error error => .error error

def sweep (db : Db) (result : Except DbError (Db × List Task)) : Db :=
  match result with
  | .ok (next, failed) => { next with swept := next.swept ++ failed }
  | .error _ => db

def handleFailedTask (db : Db) (index : Nat) (overlay : Overlay) : Db :=
  match db.swept[index]? with
  | none => db
  | some parent =>
      let handled := { db with swept := db.swept.eraseIdx index }
      settle handled (maybeRetryFailedTask handled parent overlay)

end MulticaOS.TaskQueue
