import MulticaOS.Lib.Runs
import MulticaOS.TaskQueue.Statements

/-!
The task queue as a state machine: one action for each statement or transaction, any
interleaving of them, and what one action can do to the rows.
-/

namespace MulticaOS.TaskQueue

inductive Cancellation where
  | task (id : Id)
  | issue (issue : Id)
  | issueAndAgent (issue agent : Id)
  | agent (agent : Id)
  | triggerComment (comment : Id)
  | chatSession (session : Id)
  | runtimeOrAgent (runtimes agents : List Id)
  | escalationsForTask (task : Id)
  | escalationsForIssueAgent (issue agent : Id)

def cancel (db : Db) : Cancellation → Except DbError (Db × List Task)
  | .task id => cancelAgentTask db id
  | .issue issue => cancelAgentTasksByIssue db issue
  | .issueAndAgent issue agent => cancelAgentTasksByIssueAndAgent db issue agent
  | .agent agent => cancelAgentTasksByAgent db agent
  | .triggerComment comment => cancelAgentTasksByTriggerComment db comment
  | .chatSession session => cancelAgentTasksByChatSession db session
  | .runtimeOrAgent runtimes agents => cancelAgentTasksByRuntimeOrAgent db runtimes agents
  | .escalationsForTask task => cancelDeferredEscalationsForTask db task
  | .escalationsForIssueAgent issue agent => cancelDeferredEscalationsForIssueAgent db issue agent

inductive Action where
  | elapse (seconds : Nat)
  | setMaxConcurrentTasks (agent : Id) (limit : Nat)
  | createAgentTask (issue : Id) (new : NewTask)
  | createQuickCreateTask (new : NewTask)
  | createAutopilotTask (run : Id) (new : NewTask)
  | createDeferredAgentTask (issue escalationFor : Id) (fireAt : Nat) (new : NewTask)
  | createChatTask (session : Id) (fireAt : Option Nat) (ownsInput : Bool) (new : NewTask)
  | beginClaimTask (agent : Id)
  | finishClaimTask (agent : Id) (locked : List Id)
  | abandonClaimTask (agent : Id)
  | finalizeTaskClaim (snapshot : Task) (tokenHash : String) (delivered : List Id)
  | requeueTaskAfterClaimFailure (snapshot : Task)
  | reclaimStaleDispatchedTasks (runtimes locked chosen : List Id)
  | extendAgentTaskPrepareLease (id runtime : Id)
  | startAgentTask (id : Id)
  | markAgentTaskWaitingLocalDirectory (id : Id) (reason : Option String)
  | updateAgentTaskSession (id : Id) (sessionId workDir : Option String)
  | completeAgentTask (id : Id) (report : SessionReport)
  | linkTaskToIssue (id issue : Id)
  | failTask (id : Id) (error : String) (reason : FailureReason) (report : SessionReport)
      (overlay : Overlay)
  | failTasksForOfflineRuntimes (offline : List Id)
  | recoverOrphanedTasksForRuntime (runtime : Id)
  | failStaleTasks (dispatchTimeout runningTimeout : Nat) (alive : List Id)
  | expireStaleQueuedTasks (ttl : Nat) (chosen : List Id)
  | handleFailedTask (index : Nat) (overlay : Overlay)
  | cancel (selection : Cancellation)
  | promoteDueDeferredTasks (runtimes : List Id)
  | promoteChannelChatTasks (session : Id)
  | reassignTasksToRuntime (old new : Id)
  | mergeCommentIntoPendingTask (issue agent : Id) (headSha : Option String) (trigger : Trigger)
  | registerPlannedCommentForActiveTask (issue agent : Id) (headSha : Option String) (comment : Id)

def step (db : Db) : Action → Db
  | .elapse seconds => { db with now := db.now + seconds }
  | .setMaxConcurrentTasks agent limit =>
      -- an update of the agent row waits for the claim that has locked it
      if db.claiming.contains agent then db
      else { db with maxConcurrentTasks := Function.update db.maxConcurrentTasks agent limit }
  | .createAgentTask issue new => settle db (createAgentTask db issue new)
  | .createQuickCreateTask new => settle db (createQuickCreateTask db new)
  | .createAutopilotTask run new => settle db (createAutopilotTask db run new)
  | .createDeferredAgentTask issue escalationFor fireAt new =>
      settle db (createDeferredAgentTask db issue escalationFor fireAt new)
  | .createChatTask session fireAt ownsInput new =>
      settle db (createChatTask db session fireAt ownsInput new)
  | .beginClaimTask agent => beginClaimTask db agent
  | .finishClaimTask agent locked => finishClaimTask db agent locked
  | .abandonClaimTask agent => releaseAgent db agent
  | .finalizeTaskClaim snapshot tokenHash delivered =>
      settle db (finalizeTaskClaim db snapshot tokenHash delivered)
  | .requeueTaskAfterClaimFailure snapshot => settle db (requeueTaskAfterClaimFailure db snapshot)
  | .reclaimStaleDispatchedTasks runtimes locked chosen =>
      settle db (reclaimStaleDispatchedTasks db runtimes locked chosen)
  | .extendAgentTaskPrepareLease id runtime => settle db (extendAgentTaskPrepareLease db id runtime)
  | .startAgentTask id => settle db (startAgentTask db id)
  | .markAgentTaskWaitingLocalDirectory id reason =>
      settle db (markAgentTaskWaitingLocalDirectory db id reason)
  | .updateAgentTaskSession id sessionId workDir =>
      settle db (updateAgentTaskSession db id sessionId workDir)
  | .completeAgentTask id report => settle db (completeAgentTask db id report)
  | .linkTaskToIssue id issue => settle db (linkTaskToIssue db id issue)
  | .failTask id error reason report overlay => settle db (failTask db id error reason report overlay)
  | .failTasksForOfflineRuntimes offline => sweep db (failTasksForOfflineRuntimes db offline)
  | .recoverOrphanedTasksForRuntime runtime => sweep db (recoverOrphanedTasksForRuntime db runtime)
  | .failStaleTasks dispatchTimeout runningTimeout alive =>
      sweep db (failStaleTasks db dispatchTimeout runningTimeout alive)
  | .expireStaleQueuedTasks ttl chosen => sweep db (expireStaleQueuedTasks db ttl chosen)
  | .handleFailedTask index overlay => handleFailedTask db index overlay
  | .cancel selection => settle db (cancel db selection)
  | .promoteDueDeferredTasks runtimes => settle db (promoteDueDeferredTasks db runtimes)
  | .promoteChannelChatTasks session => settle db (promoteChannelChatTasks db session)
  | .reassignTasksToRuntime old new => settle db (reassignTasksToRuntime db old new)
  | .mergeCommentIntoPendingTask issue agent headSha trigger =>
      settle db (mergeCommentIntoPendingTask db issue agent headSha trigger)
  | .registerPlannedCommentForActiveTask issue agent headSha comment =>
      settle db (registerPlannedCommentForActiveTask db issue agent headSha comment)

def initial (maxConcurrentTasks : Id → Nat) : Db := ⟨0, 0, [], [], maxConcurrentTasks, [], []⟩

def plainTask : NewTask :=
  ⟨1, 2, 0, none, [], none, none, false, false, none, noAttribution, noOverlay, 2⟩

def noReport : SessionReport := ⟨none, none, false⟩

inductive RowStep (now : Nat) (action : Action) : Task → Task → Prop
  | same (task : Task) : RowStep now action task task
  | reclaim {task : Task} (dispatched : task.status = .dispatched) (unstarted : task.startedAt = none)
      (older : ∃ time, task.dispatchedAt = some time ∧ time < now) :
      RowStep now action task (task.claim now)
  | deliver {task : Task} {delivered : List Id} (dispatched : task.status = .dispatched)
      (unstarted : task.startedAt = none) (planned : delivered ⊆ task.planned) :
      RowStep now action task (task.deliver delivered)
  | requeue {task : Task} (dispatched : task.status = .dispatched)
      (unstarted : task.startedAt = none) : RowStep now action task task.requeue
  | extendLease {task : Task} : RowStep now action task (task.extendLease now)
  | start {task : Task} (prepared : task.status = .dispatched ∨ task.status = .waitingLocalDirectory) :
      RowStep now action task (task.start now)
  | wait {task : Task} {reason : Option String} (dispatched : task.status = .dispatched) :
      RowStep now action task (task.wait now reason)
  | pinSession {task : Task} {sessionId workDir : Option String} (active : task.status.active = true) :
      RowStep now action task (task.pinSession sessionId workDir)
  | complete {task : Task} {report : SessionReport} (running : task.status = .running) :
      RowStep now action task (task.complete now report)
  | linkIssue {task : Task} {issue : Id} (completed : task.status = .completed)
      (unlinked : task.issueId = none ∧ task.chatSessionId = none) :
      RowStep now action task (task.linkIssue issue)
  | fail {task : Task} {error : String} {reason : FailureReason} {report : SessionReport}
      (active : task.status.active = true) : RowStep now action task (task.fail now error reason report)
  | sweep {task : Task} {error : String} {reason : FailureReason} {keepsLease keepsWait : Bool}
      (live : task.status = .queued ∨ task.status.active = true) :
      RowStep now action task (task.sweep now error reason keepsLease keepsWait)
  | cancel {task : Task} {clearsLease : Bool} (live : task.status.live = true) :
      RowStep now action task (task.cancel now clearsLease)
  | promote {task : Task} (deferred : task.status = .deferred) : RowStep now action task task.promote
  | promoteChannelChat {task : Task} (deferred : task.status = .deferred)
      (unlinked : task.issueId = none) : RowStep now action task { task.promote with fireAt := none }
  | reassign {task : Task} {runtime : Id} : RowStep now action task (task.reassign runtime)
  | mergeComment {task : Task} {issue agent : Id} {headSha : Option String} {trigger : Trigger}
      (by_merge : action = .mergeCommentIntoPendingTask issue agent headSha trigger)
      (queued : task.status = .queued) :
      RowStep now action task (task.mergeComment trigger)
  | registerComment {task : Task} {issue agent : Id} {headSha : Option String} {comment : Id}
      (by_register : action = .registerPlannedCommentForActiveTask issue agent headSha comment)
      (active : task.status.active = true) :
      RowStep now action task (task.registerComment comment)

structure NewRow (db : Db) (row : Task) : Prop where
  id : row.id = db.nextId
  createdAt : row.createdAt = db.now
  undispatched : row.dispatchedAt = none
  unstarted : row.startedAt = none
  undelivered : row.deliveredCommentIds = []
  unfailed : row.failureReason = none
  unended : row.completedAt = none
  waiting : row.status = .queued ∨ (row.status = .deferred ∧ row.fireAt.isSome = true)

/-- Where a new row comes from: an enqueue, a `FailTask`, or a row that a sweep failed. -/
inductive Origin (db : Db) (action : Action) (next : Db) (row : Task) : Prop
  | enqueued (unlinked : row.retryOfTaskId = none) (first : row.attempt = 1)
      (link : row.issueId = none ∨
        (∃ issue new, action = .createAgentTask issue new ∧
          row = Task.forIssue issue new db.now db.nextId) ∨
        ∃ issue escalationFor fireAt new,
          action = .createDeferredAgentTask issue escalationFor fireAt new ∧
            row = Task.fallback issue escalationFor fireAt new db.now db.nextId)
  | failed {parent failed : Task} {error : String} {reason : FailureReason} {report : SessionReport}
      {overlay : Overlay} (by_failTask : action = .failTask parent.id error reason report overlay)
      (member : parent ∈ db.tasks) (active : parent.status.active = true)
      (fails : failed = parent.fail db.now error reason report) (stored : failed ∈ next.tasks)
      (eligible : retryEligible reason parent = true)
      (row_eq : row = failed.retry (retryFireAt reason parent db.now)
        (some (retryAttemptCeiling reason parent.maxAttempts)) overlay db.now db.nextId)
  | swept {index : Nat} {snapshot parent : Task} {plan : RetryPlan} {overlay : Overlay}
      (by_handler : action = .handleFailedTask index overlay)
      (returned : db.swept[index]? = some snapshot) (member : parent ∈ db.tasks)
      (stored : parent ∈ next.tasks) (same : parent.id = snapshot.id)
      (planned : maybeRetryPlan snapshot db.now = some plan)
      (row_eq : row = parent.retry plan.fireAt plan.maxAttempts overlay db.now db.nextId)

structure Edited (db : Db) (action : Action) (next : Db) : Prop where
  rows : ∃ change news, next.tasks = db.tasks.map change ++ news ∧
    (∀ task ∈ db.tasks, RowStep db.now action task (change task)) ∧
    ((news = [] ∧ next.nextId = db.nextId) ∨
      ∃ row, news = [row] ∧ next.nextId = db.nextId + 1 ∧ NewRow db row ∧ Origin db action next row)
  unique : PendingUnique db.tasks → PendingUnique next.tasks

section Writes

variable {db next : Db} {action : Action} {matching : Task → Bool} {change : Task → Task}

theorem Edited.unchanged (tasks : next.tasks = db.tasks) (nextId : next.nextId = db.nextId) :
    Edited db action next := by
  refine ⟨⟨id, [], by simp [tasks], fun task _ => .same task, Or.inl ⟨rfl, nextId⟩⟩, ?_⟩
  exact fun unique => tasks ▸ unique

theorem commit_ok {tasks : List Task} (done : commit db tasks = .ok next) :
    next = { db with tasks := tasks } ∧ PendingUnique tasks := by
  rw [commit] at done
  split at done
  · rename_i unique
    exact ⟨by simpa using done.symm, unique⟩
  · contradiction

theorem updateMany_ok {rows : List Task} (done : updateMany db matching change = .ok (next, rows)) :
    next = { db with tasks := TableLib.updateWhere matching change db.tasks } ∧
      rows = (db.tasks.filter matching).map change ∧ PendingUnique next.tasks := by
  rw [updateMany] at done
  split at done
  · rename_i stored committed
    obtain ⟨rfl, unique⟩ := commit_ok committed
    simp only [Except.ok.injEq, Prod.mk.injEq] at done
    obtain ⟨rfl, rfl⟩ := done
    exact ⟨rfl, rfl, unique⟩
  · contradiction

theorem updateOne_ok {row : Task} (done : updateOne db matching change = .ok (next, row)) :
    next = { db with tasks := TableLib.updateWhere matching change db.tasks } ∧
      PendingUnique next.tasks ∧ ∃ old, db.tasks.find? matching = some old ∧ row = change old := by
  rw [updateOne] at done
  split at done
  · contradiction
  · rename_i old found
    split at done
    · rename_i stored committed
      obtain ⟨rfl, unique⟩ := commit_ok committed
      simp only [Except.ok.injEq, Prod.mk.injEq] at done
      obtain ⟨rfl, rfl⟩ := done
      exact ⟨rfl, unique, old, found, rfl⟩
    · contradiction

theorem updateSelected_ok {selected : Option Task} {row : Task}
    (done : updateSelected db selected change = .ok (next, row)) :
    ∃ task, selected = some task ∧
      updateOne db (fun other => other.id = task.id) change = .ok (next, row) := by
  cases selected with
  | none => contradiction
  | some task => exact ⟨task, rfl, done⟩

theorem insert_ok {build : Id → Task} {row : Task} (done : insert db build = .ok (next, row)) :
    next = { db with tasks := db.tasks ++ [row], nextId := db.nextId + 1 } ∧
      row = build db.nextId ∧ PendingUnique next.tasks := by
  rw [insert] at done
  split at done
  · rename_i stored committed
    obtain ⟨rfl, unique⟩ := commit_ok committed
    simp only [Except.ok.injEq, Prod.mk.injEq] at done
    obtain ⟨rfl, rfl⟩ := done
    exact ⟨rfl, rfl, unique⟩
  · contradiction

theorem Edited.updated (tasks : next.tasks = TableLib.updateWhere matching change db.tasks)
    (nextId : next.nextId = db.nextId) (unique : PendingUnique next.tasks)
    (each : ∀ task ∈ db.tasks, matching task = true → RowStep db.now action task (change task)) :
    Edited db action next := by
  refine ⟨⟨_, [], by simpa [TableLib.updateWhere] using tasks, fun task member => ?_,
    Or.inl ⟨rfl, nextId⟩⟩, fun _ => unique⟩
  by_cases matched : matching task = true
  · simp only [matched, if_true]
    exact each task member matched
  · simp only [matched]
    exact .same task

theorem settle_updateMany (each : ∀ task ∈ db.tasks, matching task = true →
      RowStep db.now action task (change task)) :
    Edited db action (settle db (updateMany db matching change)) := by
  rcases result : updateMany db matching change with error | ⟨stored, rows⟩
  · exact .unchanged rfl rfl
  · obtain ⟨rfl, -, unique⟩ := updateMany_ok result
    exact .updated rfl rfl unique each

theorem settle_updateOne (each : ∀ task ∈ db.tasks, matching task = true →
      RowStep db.now action task (change task)) :
    Edited db action (settle db (updateOne db matching change)) := by
  rcases result : updateOne db matching change with error | ⟨stored, row⟩
  · exact .unchanged rfl rfl
  · obtain ⟨rfl, unique, -⟩ := updateOne_ok result
    exact .updated rfl rfl unique each

theorem sweep_updateMany (each : ∀ task ∈ db.tasks, matching task = true →
      RowStep db.now action task (change task)) :
    Edited db action (sweep db (updateMany db matching change)) := by
  rcases result : updateMany db matching change with error | ⟨stored, rows⟩
  · exact .unchanged rfl rfl
  · obtain ⟨rfl, -, unique⟩ := updateMany_ok result
    exact .updated rfl rfl unique each

theorem settle_insert {build : Id → Task} (new : NewRow db (build db.nextId))
    (origin : ∀ next, Origin db action next (build db.nextId)) :
    Edited db action (settle db (insert db build)) := by
  rcases result : insert db build with error | ⟨stored, row⟩
  · exact .unchanged rfl rfl
  · obtain ⟨rfl, rfl, unique⟩ := insert_ok result
    refine ⟨⟨id, [build db.nextId], by simp [settle], fun task _ => .same task, ?_⟩, fun _ => unique⟩
    exact Or.inr ⟨_, rfl, rfl, new, origin _⟩

theorem settle_updateSelected {selected : Option Task}
    (each : ∀ chosen, selected = some chosen → ∀ task ∈ db.tasks, task.id = chosen.id →
      RowStep db.now action task (change task)) :
    Edited db action (settle db (updateSelected db selected change)) := by
  cases selected with
  | none => exact .unchanged rfl rfl
  | some chosen =>
      refine settle_updateOne fun task member matched => each chosen rfl task member ?_
      simpa using matched

end Writes

theorem getAgentTask_mem {db : Db} {id : Id} {task : Task} (found : getAgentTask db id = some task) :
    task ∈ db.tasks ∧ task.id = id :=
  ⟨List.mem_of_find?_eq_some found, by simpa using List.find?_some found⟩

theorem getAgentTask_eq {db : Db} (unique : (db.tasks.map Task.id).Nodup) {task : Task}
    (member : task ∈ db.tasks) : getAgentTask db task.id = some task := by
  cases found : getAgentTask db task.id with
  | none => simpa using List.find?_eq_none.mp found task member
  | some other =>
      obtain ⟨listed, same⟩ := getAgentTask_mem found
      rw [List.inj_on_of_nodup_map unique listed member same]

theorem id_ne_iff {db : Db} (unique : (db.tasks.map Task.id).Nodup) {left right : Task}
    (leftMember : left ∈ db.tasks) (rightMember : right ∈ db.tasks) :
    left.id ≠ right.id ↔ left ≠ right :=
  ⟨fun different same => different (same ▸ rfl), fun different same =>
    different (List.inj_on_of_nodup_map unique leftMember rightMember same)⟩

theorem only_row {db : Db} (unique : (db.tasks.map Task.id).Nodup) {task : Task}
    (member : task ∈ db.tasks)
    {holds : Task → Bool} (taskHolds : holds task = true) :
    ∀ row ∈ db.tasks, (row.id = task.id && holds row) = true ↔ row = task := by
  intro row listed
  simp only [Bool.and_eq_true, decide_eq_true_eq]
  constructor
  · rintro ⟨same, -⟩
    exact List.inj_on_of_nodup_map unique listed member same
  · rintro rfl
    exact ⟨rfl, taskHolds⟩

theorem pendingUnique_ends {db : Db} (pending : PendingUnique db.tasks) {matching : Task → Bool}
    {change : Task → Task} (ends : ∀ row, (change row).status.pending = false)
    (agent : ∀ row, (change row).agentId = row.agentId) :
    PendingUnique (TableLib.updateWhere matching change db.tasks) := by
  refine pending.map (fun row _ isPending => ?_) fun row _ => ?_
  · split at isPending
    · rw [ends row] at isPending
      contradiction
    · rename_i unmatched
      rw [if_neg unmatched]
      exact ⟨isPending, rfl⟩
  · split
    · exact agent row
    · rfl

theorem updateOne_ends {db : Db} (pending : PendingUnique db.tasks) {task : Task}
    (member : task ∈ db.tasks)
    {matching : Task → Bool} {change : Task → Task}
    (only : ∀ row ∈ db.tasks, matching row = true ↔ row = task)
    (ends : ∀ row, (change row).status.pending = false)
    (agent : ∀ row, (change row).agentId = row.agentId) :
    updateOne db matching change =
      .ok ({ db with tasks := TableLib.updateWhere matching change db.tasks }, change task) := by
  have stored : PendingUnique (TableLib.updateWhere matching change db.tasks) :=
    pendingUnique_ends pending ends agent
  rw [updateOne]
  split
  · rename_i absent
    exact absurd ((only task member).mpr rfl) (List.find?_eq_none.mp absent task member)
  · rename_i old found
    rw [(only old (List.mem_of_find?_eq_some found)).mp (List.find?_some found), commit, if_pos stored]

theorem retry_newRow {db : Db} {parent : Task} {fireAt : Option Nat} {maxAttempts : Option Int}
    {overlay : Overlay} : NewRow db (parent.retry fireAt maxAttempts overlay db.now db.nextId) := by
  refine ⟨rfl, rfl, rfl, rfl, rfl, rfl, rfl, ?_⟩
  by_cases deferred : fireAt.isSome = true
  · exact Or.inr ⟨by simp [Task.retry, deferred], deferred⟩
  · exact Or.inl (by simp [Task.retry, deferred])

theorem forChat_newRow {db : Db} {session : Id} {fireAt : Option Nat} {ownsInput : Bool}
    {new : NewTask} : NewRow db (Task.forChat session fireAt ownsInput new db.now db.nextId) := by
  refine ⟨rfl, rfl, rfl, rfl, rfl, rfl, rfl, ?_⟩
  by_cases deferred : fireAt.isSome = true
  · exact Or.inr ⟨by simp [Task.forChat, deferred], deferred⟩
  · exact Or.inl (by simp [Task.forChat, deferred])

theorem sameClaim_spec {snapshot task : Task} (same : snapshot.sameClaim task = true) :
    task.id = snapshot.id ∧ task.status = .dispatched ∧ task.startedAt = none ∧
      task.dispatchedAt = snapshot.dispatchedAt := by
  simp only [Task.sameClaim, Bool.and_eq_true, decide_eq_true_eq, Option.isNone_iff_eq_none] at same
  obtain ⟨⟨⟨⟨⟨id, -⟩, dispatched⟩, unstarted⟩, -⟩, generation⟩ := same
  exact ⟨id, dispatched, unstarted, generation⟩

theorem staleClaim_spec {db : Db} {runtimes locked : List Id} {task : Task}
    (stale : staleClaim db runtimes locked task = true) :
    task.status = .dispatched ∧ task.startedAt = none ∧
      ∃ time, task.dispatchedAt = some time ∧ time < db.now := by
  simp only [staleClaim, Bool.and_eq_true, decide_eq_true_eq, Option.isNone_iff_eq_none] at stale
  obtain ⟨⟨⟨⟨⟨-, dispatched⟩, unstarted⟩, older⟩, -⟩, -⟩ := stale
  refine ⟨dispatched, unstarted, ?_⟩
  cases claimed : task.dispatchedAt with
  | none => simp [claimed, before] at older
  | some time =>
      have earlier : time < db.now - claimResponseRecoveryWindow := by
        simpa [claimed, before] using older
      exact ⟨time, rfl, by omega⟩

theorem timedOut_active {db : Db} {dispatchTimeout runningTimeout : Nat} {alive : List Id} {task : Task}
    (timedOut : ((task.status = .dispatched && before task.dispatchedAt (db.now - dispatchTimeout) &&
        leaseExpired db.now task) ||
      (task.status = .running && before task.startedAt (db.now - runningTimeout) &&
        !alive.contains task.runtimeId)) = true) : task.status.active = true := by
  simp only [Bool.and_eq_true, Bool.or_eq_true, decide_eq_true_eq] at timedOut
  rcases timedOut with ⟨⟨dispatched, -⟩, -⟩ | ⟨⟨running, -⟩, -⟩
  · simp [dispatched, Status.active]
  · simp [running, Status.active]

theorem finalizeTaskClaim_edited (db : Db) {action : Action} (snapshot : Task) (tokenHash : String)
    (delivered : List Id) :
    Edited db action (settle db (finalizeTaskClaim db snapshot tokenHash delivered)) := by
  simp only [finalizeTaskClaim, createTaskToken]
  split
  · simp only [bind, Except.bind]
    split
    · rcases result : setTaskDeliveredCommentIDs _ snapshot delivered with error | ⟨stored, row⟩
      · exact .unchanged rfl rfl
      · obtain ⟨rfl, unique, -⟩ := updateOne_ok result
        refine .updated rfl rfl unique fun task _ matched => ?_
        simp only [Bool.and_eq_true, List.all_eq_true, List.contains_iff_mem] at matched
        obtain ⟨-, dispatched, unstarted, -⟩ := sameClaim_spec matched.1.1
        exact .deliver dispatched unstarted matched.2
    · exact .unchanged rfl rfl
  · exact .unchanged rfl rfl

theorem failAgentTask_ok {db next : Db} {id : Id} {error : String} {reason : FailureReason}
    {report : SessionReport} {row : Task}
    (done : failAgentTask db id error reason report = .ok (next, row)) :
    next = { db with tasks := next.tasks } ∧
      next.tasks = TableLib.updateWhere (fun task => task.id = id && task.status.active)
        (Task.fail db.now error reason report) db.tasks ∧
      PendingUnique next.tasks ∧
      ∃ old ∈ db.tasks, old.id = id ∧ old.status.active = true ∧
        row = old.fail db.now error reason report := by
  obtain ⟨rfl, unique, old, found, rfl⟩ := updateOne_ok done
  have matched := List.find?_some found
  simp only [Bool.and_eq_true, decide_eq_true_eq] at matched
  exact ⟨rfl, rfl, unique, old, List.mem_of_find?_eq_some found, matched.1, matched.2, rfl⟩

theorem createRetryTask_ok {db next : Db} {id : Id} {fireAt : Option Nat} {maxAttempts : Option Int}
    {overlay : Overlay} {child : Task}
    (done : createRetryTask db id fireAt maxAttempts overlay = .ok (next, child)) :
    ∃ parent ∈ db.tasks, parent.id = id ∧
      child = parent.retry fireAt maxAttempts overlay db.now db.nextId ∧
      next = { db with tasks := db.tasks ++ [child], nextId := db.nextId + 1 } ∧
      PendingUnique next.tasks := by
  rw [createRetryTask] at done
  split at done
  · contradiction
  · rename_i parent found
    obtain ⟨member, same⟩ := getAgentTask_mem found
    obtain ⟨stored, built, unique⟩ := insert_ok done
    exact ⟨parent, member, same, built, stored, unique⟩

theorem failTaskRetry_spec {reason : FailureReason} {parent : Task} {now : Nat} {plan : RetryPlan}
    (planned : failTaskRetry reason parent now = some plan) :
    retryEligible reason parent = true ∧ plan = ⟨retryFireAt reason parent now,
      some (retryAttemptCeiling reason parent.maxAttempts)⟩ := by
  rw [failTaskRetry] at planned
  split at planned
  · split at planned
    · rename_i eligible
      exact ⟨eligible, by simpa using planned.symm⟩
    · contradiction
  · contradiction

theorem failTaskTransaction_edited {db next : Db} (unique : (db.tasks.map Task.id).Nodup) {id : Id}
    {error : String} {reason : FailureReason} {report : SessionReport} {overlay : Overlay} {row : Task}
    (done : failTaskTransaction db id error reason report
      ((getAgentTask db id).bind fun parent => failTaskRetry reason parent db.now) overlay =
        .ok (next, row)) : Edited db (.failTask id error reason report overlay) next := by
  simp only [failTaskTransaction, bind, Except.bind] at done
  split at done
  · contradiction
  · rename_i failure failing
    obtain ⟨stored, tasks, kept, old, member, rfl, active, -⟩ := failAgentTask_ok failing
    have now : failure.1.now = db.now := by rw [stored]
    have nextId : failure.1.nextId = db.nextId := by rw [stored]
    have each : ∀ task ∈ db.tasks, (task.id = old.id && task.status.active) = true →
        RowStep db.now (.failTask old.id error reason report overlay) task
          (task.fail db.now error reason report) := by
      intro task _ matched
      simp only [Bool.and_eq_true] at matched
      exact .fail matched.2
    rw [getAgentTask_eq unique member] at done
    split at done
    · simp only [Except.ok.injEq, Prod.mk.injEq] at done
      obtain ⟨rfl, -⟩ := done
      exact .updated tasks nextId kept each
    · rename_i plan planned
      obtain ⟨eligible, rfl⟩ := failTaskRetry_spec planned
      split at done
      · contradiction
      · rename_i retried inserting
        simp only [Except.ok.injEq, Prod.mk.injEq] at done
        obtain ⟨rfl, -⟩ := done
        obtain ⟨parent, listed, same, built, next_eq, indexed⟩ := createRetryTask_ok inserting
        rw [now, nextId] at built
        rw [tasks] at listed
        have parent_eq : parent = old.fail db.now error reason report := by
          rcases (TableLib.mem_updateWhere_one member (only_row unique member active)).mp listed with
            ⟨inTable, different⟩ | failed
          · exact absurd same ((id_ne_iff unique inTable member).mpr different)
          · exact failed
        have stored : parent ∈ retried.1.tasks := by
          rw [next_eq, tasks]
          exact List.mem_append_left _ listed
        refine ⟨⟨_, [retried.2], by rw [next_eq, tasks]; rfl, fun task inTable => ?_, ?_⟩,
          fun _ => indexed⟩
        · dsimp only
          split
          · rename_i matched
            exact each task inTable matched
          · exact .same task
        · refine Or.inr ⟨retried.2, rfl, by rw [next_eq, nextId], ?_, ?_⟩
          · rw [built]
            exact retry_newRow
          · exact .failed rfl member active parent_eq stored eligible built

theorem failTask_edited {db : Db} (unique : (db.tasks.map Task.id).Nodup) (id : Id) (error : String)
    (reason : FailureReason) (report : SessionReport) (overlay : Overlay) :
    Edited db (.failTask id error reason report overlay)
      (settle db (failTask db id error reason report overlay)) := by
  simp only [failTask]
  split
  · rename_i result done
    exact failTaskTransaction_edited unique done
  · split
    · exact .unchanged rfl rfl
    · exact .unchanged rfl rfl
  · exact .unchanged rfl rfl

theorem handleFailedTask_edited (db : Db) (index : Nat) (overlay : Overlay) :
    Edited db (.handleFailedTask index overlay) (handleFailedTask db index overlay) := by
  simp only [handleFailedTask]
  split
  · exact .unchanged rfl rfl
  · rename_i snapshot returned
    simp only [maybeRetryFailedTask]
    split
    · exact .unchanged rfl rfl
    · rename_i plan planned
      split
      · rename_i next child inserting
        obtain ⟨parent, listed, same, built, rfl, indexed⟩ := createRetryTask_ok inserting
        refine ⟨⟨id, [child], by simp [settle], fun task _ => .same task, ?_⟩, fun _ => indexed⟩
        refine Or.inr ⟨child, rfl, rfl, ?_, ?_⟩
        · rw [built]
          exact retry_newRow
        · exact .swept rfl returned listed (List.mem_append_left _ listed) same planned built
      · exact .unchanged rfl rfl

theorem cancel_edited (db : Db) {action : Action} (selection : Cancellation) :
    Edited db action (settle db (cancel db selection)) := by
  have selected : ∀ selects : Task → Bool,
      Edited db action (settle db (cancelAgentTasks db selects)) := by
    intro selects
    refine settle_updateMany fun task _ matched => .cancel ?_
    simp only [Bool.and_eq_true] at matched
    exact matched.2
  cases selection with
  | task id => exact selected _
  | issue issue => exact selected _
  | issueAndAgent issue agent => exact selected _
  | agent agent => exact selected _
  | triggerComment comment => exact selected _
  | chatSession session => exact selected _
  | runtimeOrAgent runtimes agents =>
      refine settle_updateMany fun task _ matched => .cancel ?_
      simp only [Bool.and_eq_true, Bool.or_eq_true, decide_eq_true_eq] at matched
      rcases matched.2 with queued | active
      · simp [Status.live, Status.terminal, queued]
      · cases status : task.status <;> simp_all [Status.live, Status.terminal, Status.active]
  | escalationsForTask task =>
      refine settle_updateMany fun fallback _ matched => .cancel ?_
      simp only [escalationCancellable, Bool.and_eq_true] at matched
      exact matched.2.1
  | escalationsForIssueAgent issue agent =>
      refine settle_updateMany fun fallback _ matched => .cancel ?_
      simp only [escalationCancellable, Bool.and_eq_true] at matched
      exact matched.1.1

theorem claimable_spec {db : Db} {agent : Id} {locked : List Id} {task : Task}
    (claimable : claimable db agent locked task = true) :
    task.agentId = agent ∧ task.status = .queued ∧
      ∀ active ∈ db.tasks, active.agentId = task.agentId → active.status.active = true →
        task.serializedWith active = false := by
  simp only [TaskQueue.claimable, Bool.and_eq_true, decide_eq_true_eq, Bool.not_eq_true',
    List.any_eq_false, not_and, Bool.not_eq_true] at claimable
  obtain ⟨⟨⟨owner, queued⟩, -⟩, free⟩ := claimable
  exact ⟨owner, queued, fun active member same isActive => free active member ⟨same, isActive⟩⟩

structure Claimed (db next : Db) (agent : Id) (locked : List Id) (task : Task) : Prop where
  holds : agent ∈ db.claiming
  member : task ∈ db.tasks
  claimable : claimable db agent locked task = true
  tasks : next.tasks = TableLib.updateWhere (fun row => row.id = task.id) (Task.claim db.now) db.tasks
  rest : next = { releaseAgent db agent with tasks := next.tasks }
  unique : PendingUnique next.tasks

theorem finishClaimTask_cases (db : Db) {action : Action} (agent : Id) (locked : List Id) :
    Edited db action (finishClaimTask db agent locked) ∨
      ∃ task, Claimed db (finishClaimTask db agent locked) agent locked task := by
  by_cases holds : db.claiming.contains agent = true
  · have step_eq : finishClaimTask db agent locked =
        releaseAgent (settle db (claimAgentTask db agent locked)) agent := by
      rw [finishClaimTask, if_pos holds]
    rw [step_eq]
    rcases result : claimAgentTask db agent locked with error | ⟨stored, row⟩
    · exact Or.inl (.unchanged rfl rfl)
    · obtain ⟨task, selected, updated⟩ := updateSelected_ok result
      have listed := TableLib.first_mem selected
      rw [List.mem_filter] at listed
      obtain ⟨rfl, unique, -⟩ := updateOne_ok updated
      exact Or.inr ⟨task, by simpa using holds, listed.1, listed.2, rfl, rfl, unique⟩
  · rw [finishClaimTask, if_neg holds]
    exact Or.inl (.unchanged rfl rfl)

theorem beginClaimTask_edited (db : Db) {action : Action} (agent : Id) :
    Edited db action (beginClaimTask db agent) := by
  rw [beginClaimTask]
  split
  · exact .unchanged rfl rfl
  · split
    · exact .unchanged rfl rfl
    · exact .unchanged rfl rfl

theorem selected_queued {db : Db} (unique : (db.tasks.map Task.id).Nodup) {keeps : Task → Bool}
    {chosen task : Task} (selected : TableLib.first newestFirst (db.tasks.filter keeps) = some chosen)
    (member : task ∈ db.tasks) (same : task.id = chosen.id) : keeps task = true := by
  have listed := TableLib.first_mem selected
  rw [List.mem_filter] at listed
  rw [List.inj_on_of_nodup_map unique member listed.1 same]
  exact listed.2

theorem step_cases {db : Db} (unique : (db.tasks.map Task.id).Nodup) (action : Action) :
    Edited db action (step db action) ∨ ∃ agent locked task, action = .finishClaimTask agent locked ∧
      Claimed db (step db action) agent locked task := by
  cases action with
  | elapse seconds => exact Or.inl (.unchanged rfl rfl)
  | setMaxConcurrentTasks agent limit =>
      simp only [step]
      split
      · exact Or.inl (.unchanged rfl rfl)
      · exact Or.inl (.unchanged rfl rfl)
  | createAgentTask issue new =>
      refine Or.inl (settle_insert ⟨rfl, rfl, rfl, rfl, rfl, rfl, rfl, Or.inl rfl⟩ fun _ => ?_)
      exact .enqueued rfl rfl (Or.inr (Or.inl ⟨issue, new, rfl, rfl⟩))
  | createQuickCreateTask new =>
      refine Or.inl (settle_insert ⟨rfl, rfl, rfl, rfl, rfl, rfl, rfl, Or.inl rfl⟩ fun _ => ?_)
      exact .enqueued rfl rfl (Or.inl rfl)
  | createAutopilotTask run new =>
      refine Or.inl (settle_insert ⟨rfl, rfl, rfl, rfl, rfl, rfl, rfl, Or.inl rfl⟩ fun _ => ?_)
      exact .enqueued rfl rfl (Or.inl rfl)
  | createDeferredAgentTask issue escalationFor fireAt new =>
      refine Or.inl (settle_insert ⟨rfl, rfl, rfl, rfl, rfl, rfl, rfl, Or.inr ⟨rfl, rfl⟩⟩ fun _ => ?_)
      exact .enqueued rfl rfl (Or.inr (Or.inr ⟨issue, escalationFor, fireAt, new, rfl, rfl⟩))
  | createChatTask session fireAt ownsInput new =>
      exact Or.inl (settle_insert forChat_newRow fun _ => .enqueued rfl rfl (Or.inl rfl))
  | beginClaimTask agent => exact Or.inl (beginClaimTask_edited db agent)
  | finishClaimTask agent locked =>
      rcases finishClaimTask_cases db agent locked with edited | ⟨task, claimed⟩
      · exact Or.inl edited
      · exact Or.inr ⟨agent, locked, task, rfl, claimed⟩
  | abandonClaimTask agent => exact Or.inl (.unchanged rfl rfl)
  | finalizeTaskClaim snapshot tokenHash delivered =>
      exact Or.inl (finalizeTaskClaim_edited db snapshot tokenHash delivered)
  | requeueTaskAfterClaimFailure snapshot =>
      refine Or.inl (settle_updateOne fun task _ matched => ?_)
      obtain ⟨-, dispatched, unstarted, -⟩ := sameClaim_spec matched
      exact .requeue dispatched unstarted
  | reclaimStaleDispatchedTasks runtimes locked chosen =>
      refine Or.inl (settle_updateMany fun task _ matched => ?_)
      simp only [Bool.and_eq_true] at matched
      obtain ⟨dispatched, unstarted, older⟩ := staleClaim_spec matched.1
      exact .reclaim dispatched unstarted older
  | extendAgentTaskPrepareLease id runtime =>
      exact Or.inl (settle_updateOne fun task _ _ => .extendLease)
  | startAgentTask id =>
      refine Or.inl (settle_updateOne fun task _ matched => .start ?_)
      simp only [Bool.and_eq_true, Bool.or_eq_true, decide_eq_true_eq] at matched
      exact matched.2
  | markAgentTaskWaitingLocalDirectory id reason =>
      refine Or.inl (settle_updateOne fun task _ matched => .wait ?_)
      simp only [Bool.and_eq_true, decide_eq_true_eq] at matched
      exact matched.2
  | updateAgentTaskSession id sessionId workDir =>
      refine Or.inl (settle_updateMany fun task _ matched => .pinSession ?_)
      simp only [Bool.and_eq_true, Bool.or_eq_true, decide_eq_true_eq] at matched
      rcases matched.2 with dispatched | running
      · simp [dispatched, Status.active]
      · simp [running, Status.active]
  | completeAgentTask id report =>
      refine Or.inl (settle_updateOne fun task _ matched => .complete ?_)
      simp only [Bool.and_eq_true, decide_eq_true_eq] at matched
      exact matched.2
  | linkTaskToIssue id issue =>
      refine Or.inl (settle_updateMany fun task _ matched => ?_)
      simp only [Bool.and_eq_true, decide_eq_true_eq, Option.isNone_iff_eq_none] at matched
      exact .linkIssue matched.2 ⟨matched.1.1.1.2, matched.1.1.2⟩
  | failTask id error reason report overlay =>
      exact Or.inl (failTask_edited unique id error reason report overlay)
  | failTasksForOfflineRuntimes offline =>
      refine Or.inl (sweep_updateMany fun task _ matched => .sweep (Or.inr ?_))
      simp only [Bool.and_eq_true] at matched
      exact matched.1
  | recoverOrphanedTasksForRuntime runtime =>
      refine Or.inl (sweep_updateMany fun task _ matched => .sweep (Or.inr ?_))
      simp only [Bool.and_eq_true] at matched
      exact matched.2
  | failStaleTasks dispatchTimeout runningTimeout alive =>
      exact Or.inl (sweep_updateMany fun task _ matched => .sweep (Or.inr (timedOut_active matched)))
  | expireStaleQueuedTasks ttl chosen =>
      refine Or.inl (sweep_updateMany fun task _ matched => .sweep (Or.inl ?_))
      simp only [Bool.and_eq_true, decide_eq_true_eq] at matched
      exact matched.1.1
  | handleFailedTask index overlay => exact Or.inl (handleFailedTask_edited db index overlay)
  | cancel selection => exact Or.inl (cancel_edited db selection)
  | promoteDueDeferredTasks runtimes =>
      refine Or.inl (settle_updateMany fun task _ matched => .promote ?_)
      simp only [dueDeferred, Bool.and_eq_true, decide_eq_true_eq] at matched
      exact matched.1.2
  | promoteChannelChatTasks session =>
      refine Or.inl (settle_updateMany fun task _ matched => ?_)
      simp only [Bool.and_eq_true, decide_eq_true_eq, Option.isNone_iff_eq_none] at matched
      exact .promoteChannelChat matched.1.1.1.2 matched.1.1.2
  | reassignTasksToRuntime old new =>
      exact Or.inl (settle_updateMany fun task _ _ => .reassign)
  | mergeCommentIntoPendingTask issue agent headSha trigger =>
      refine Or.inl (settle_updateSelected fun chosen selected task member same => .mergeComment rfl ?_)
      have matched := selected_queued unique selected member same
      simp only [Bool.and_eq_true, decide_eq_true_eq] at matched
      exact matched.1.2
  | registerPlannedCommentForActiveTask issue agent headSha comment =>
      refine Or.inl (settle_updateSelected fun chosen selected task member same => ?_)
      have matched := selected_queued unique selected member same
      simp only [Bool.and_eq_true, decide_eq_true_eq] at matched
      exact .registerComment rfl matched.1.2

structure SameLineage (old new : Task) : Prop where
  id : new.id = old.id
  agentId : new.agentId = old.agentId
  chatSessionId : new.chatSessionId = old.chatSessionId
  autopilotRunId : new.autopilotRunId = old.autopilotRunId
  createdAt : new.createdAt = old.createdAt
  attempt : new.attempt = old.attempt
  maxAttempts : new.maxAttempts = old.maxAttempts
  retryOfTaskId : new.retryOfTaskId = old.retryOfTaskId
  chatInputTaskId : new.chatInputTaskId = old.chatInputTaskId
  headSha : new.headSha = old.headSha

theorem RowStep.lineage {now : Nat} {action : Action} {old new : Task}
    (changed : RowStep now action old new) :
    SameLineage old new := by
  cases changed <;> constructor <;> rfl

theorem claim_lineage (now : Nat) (task : Task) : SameLineage task (task.claim now) := by
  constructor <;> rfl

theorem RowStep.active {now : Nat} {action : Action} {old new : Task}
    (changed : RowStep now action old new)
    (active : new.status.active = true) : old.status.active = true := by
  cases changed with
  | same => exact active
  | reclaim dispatched => rw [dispatched]; rfl
  | deliver dispatched => rw [dispatched]; rfl
  | requeue dispatched => rw [dispatched]; rfl
  | extendLease => exact active
  | start prepared =>
      rcases prepared with dispatched | waiting
      · rw [dispatched]; rfl
      · rw [waiting]; rfl
  | wait dispatched => rw [dispatched]; rfl
  | pinSession isActive => exact isActive
  | complete running => rw [running]; rfl
  | linkIssue completed => exact active
  | fail isActive => exact isActive
  | sweep live => exact absurd active (by simp [Task.sweep, Status.active])
  | cancel live => exact absurd active (by simp [Task.cancel, Status.active])
  | promote deferred => exact absurd active (by simp [Task.promote, Status.active])
  | promoteChannelChat deferred => exact absurd active (by simp [Task.promote, Status.active])
  | reassign => exact active
  | mergeComment _ queued => exact active
  | registerComment _ isActive => exact isActive

theorem RowStep.issueId {now : Nat} {action : Action} {old new : Task}
    (changed : RowStep now action old new) :
    new.issueId = old.issueId ∨
      (old.status = .completed ∧ new.status = .completed ∧ old.issueId = none ∧
        old.chatSessionId = none) := by
  cases changed with
  | linkIssue completed unlinked =>
      exact Or.inr ⟨completed, completed, unlinked.1, unlinked.2⟩
  | _ => exact Or.inl rfl

structure WellFormed (db : Db) : Prop where
  unique : (db.tasks.map Task.id).Nodup
  fresh : ∀ task ∈ db.tasks, task.id < db.nextId
  pending : PendingUnique db.tasks

theorem initial_wellFormed (limits : Id → Nat) : WellFormed (initial limits) :=
  ⟨List.nodup_nil, by simp [initial], List.Pairwise.nil⟩

theorem Edited.mem {db next : Db} {action : Action} (edited : Edited db action next) {task : Task}
    (member : task ∈ next.tasks) :
    (∃ old ∈ db.tasks, RowStep db.now action old task) ∨
      (NewRow db task ∧ Origin db action next task ∧ next.nextId = db.nextId + 1) := by
  obtain ⟨change, news, tasks, each, inserted⟩ := edited.rows
  rw [tasks, List.mem_append] at member
  rcases member with kept | added
  · obtain ⟨old, listed, rfl⟩ := List.mem_map.mp kept
    exact Or.inl ⟨old, listed, each old listed⟩
  · rcases inserted with ⟨rfl, -⟩ | ⟨row, rfl, nextId, new, origin⟩
    · exact absurd added (by simp)
    · rw [List.mem_singleton] at added
      subst added
      exact Or.inr ⟨new, origin, nextId⟩

theorem Edited.nextId {db next : Db} {action : Action} (edited : Edited db action next) :
    db.nextId ≤ next.nextId := by
  obtain ⟨change, news, -, -, ⟨-, same⟩ | ⟨row, -, grown, -⟩⟩ := edited.rows
  · exact Nat.le_of_eq same.symm
  · rw [grown]
    exact Nat.le_succ _

theorem Claimed.mem {db next : Db} {agent : Id} {locked : List Id} {task row : Task}
    (claimed : Claimed db next agent locked task) (unique : (db.tasks.map Task.id).Nodup)
    (member : row ∈ next.tasks) :
    (row ∈ db.tasks ∧ row.id ≠ task.id) ∨ row = task.claim db.now := by
  rw [claimed.tasks] at member
  rcases TableLib.mem_updateWhere member with ⟨listed, unmatched⟩ | ⟨old, listed, matched, rfl⟩
  · exact Or.inl ⟨listed, by simpa using unmatched⟩
  · have same : old.id = task.id := by simpa using matched
    rw [List.inj_on_of_nodup_map unique listed claimed.member same]
    exact Or.inr rfl

theorem WellFormed.edited {db next : Db} {action : Action} (wellFormed : WellFormed db)
    (edited : Edited db action next) :
    WellFormed next := by
  refine ⟨?_, fun task member => ?_, edited.unique wellFormed.pending⟩
  · obtain ⟨change, news, tasks, each, inserted⟩ := edited.rows
    have ids : (db.tasks.map change).map Task.id = db.tasks.map Task.id := by
      rw [List.map_map]
      exact List.map_congr_left fun task member => (each task member).lineage.id
    rw [tasks, List.map_append, ids]
    rcases inserted with ⟨rfl, -⟩ | ⟨row, rfl, -, new, -⟩
    · simpa using wellFormed.unique
    · refine List.nodup_append.mpr ⟨wellFormed.unique, by simp, ?_⟩
      intro id listed other added same
      obtain ⟨task, member, rfl⟩ := List.mem_map.mp listed
      simp only [List.map_cons, List.map_nil, List.mem_singleton] at added
      have below := wellFormed.fresh task member
      rw [same, added, new.id] at below
      exact Nat.lt_irrefl _ below
  · rcases edited.mem member with ⟨old, listed, changed⟩ | ⟨new, -, grown⟩
    · rw [changed.lineage.id]
      exact Nat.lt_of_lt_of_le (wellFormed.fresh old listed) edited.nextId
    · rw [new.id, grown]
      exact Nat.lt_succ_self _

theorem WellFormed.claimed {db next : Db} {agent : Id} {locked : List Id} {task : Task}
    (wellFormed : WellFormed db) (claimed : Claimed db next agent locked task) : WellFormed next := by
  refine ⟨?_, fun row member => ?_, claimed.unique⟩
  · rw [claimed.tasks, TableLib.map_updateWhere (fun row => (claim_lineage db.now row).id)]
    exact wellFormed.unique
  · have nextId : next.nextId = db.nextId := by rw [claimed.rest]; rfl
    rw [nextId]
    rcases claimed.mem wellFormed.unique member with ⟨listed, -⟩ | rfl
    · exact wellFormed.fresh row listed
    · exact wellFormed.fresh task claimed.member

theorem WellFormed.step {db : Db} (wellFormed : WellFormed db) (action : Action) :
    WellFormed (step db action) := by
  rcases step_cases wellFormed.unique action with edited | ⟨agent, locked, task, -, claimed⟩
  · exact wellFormed.edited edited
  · exact wellFormed.claimed claimed

inductive Moved (now : Nat) (action : Action) : Task → Task → Prop
  | edit {old new : Task} (changed : RowStep now action old new) : Moved now action old new
  | claim {task : Task} (queued : task.status = .queued) : Moved now action task (task.claim now)

theorem Moved.lineage {now : Nat} {action : Action} {old new : Task}
    (moved : Moved now action old new) : SameLineage old new := by
  cases moved with
  | edit changed => exact changed.lineage
  | claim => exact claim_lineage now old

theorem Edited.kept {db next : Db} {action : Action} (edited : Edited db action next) {old : Task}
    (member : old ∈ db.tasks) : ∃ row ∈ next.tasks, RowStep db.now action old row := by
  obtain ⟨change, news, tasks, each, -⟩ := edited.rows
  refine ⟨change old, ?_, each old member⟩
  rw [tasks]
  exact List.mem_append_left _ (List.mem_map_of_mem member)

theorem step_mem {db : Db} (unique : (db.tasks.map Task.id).Nodup) {action : Action} {row : Task}
    (member : row ∈ (step db action).tasks) :
    (∃ old ∈ db.tasks, Moved db.now action old row) ∨
    (NewRow db row ∧ Origin db action (step db action) row) := by
  rcases step_cases unique action with edited | ⟨agent, locked, task, -, claimed⟩
  · rcases edited.mem member with ⟨old, listed, changed⟩ | ⟨new, origin, -⟩
    · exact Or.inl ⟨old, listed, .edit changed⟩
    · exact Or.inr ⟨new, origin⟩
  · rcases claimed.mem unique member with ⟨listed, -⟩ | rfl
    · exact Or.inl ⟨row, listed, .edit (.same row)⟩
    · exact Or.inl ⟨task, claimed.member, .claim (claimable_spec claimed.claimable).2.1⟩

theorem step_kept {db : Db} (unique : (db.tasks.map Task.id).Nodup) (action : Action) {old : Task}
    (member : old ∈ db.tasks) : ∃ row ∈ (step db action).tasks, Moved db.now action old row := by
  rcases step_cases unique action with edited | ⟨agent, locked, task, -, claimed⟩
  · obtain ⟨row, listed, changed⟩ := edited.kept member
    exact ⟨row, listed, .edit changed⟩
  · rw [claimed.tasks]
    by_cases same : old.id = task.id
    · rw [List.inj_on_of_nodup_map unique member claimed.member same]
      refine ⟨task.claim db.now, List.mem_map.mpr ⟨task, claimed.member, by simp⟩, .claim ?_⟩
      exact (claimable_spec claimed.claimable).2.1
    · exact ⟨old, List.mem_map.mpr ⟨old, member, by simp [same]⟩, .edit (.same old)⟩

theorem step_nextId {db : Db} (unique : (db.tasks.map Task.id).Nodup) (action : Action) :
    db.nextId ≤ (step db action).nextId := by
  rcases step_cases unique action with edited | ⟨agent, locked, task, -, claimed⟩
  · exact edited.nextId
  · rw [claimed.rest]
    exact Nat.le_refl _

def TableOnly (db next : Db) : Prop := next = { db with tasks := next.tasks, nextId := next.nextId }

section TableOnly

variable {db : Db} {matching : Task → Bool} {change : Task → Task}

theorem updateMany_tableOnly : TableOnly db (settle db (updateMany db matching change)) := by
  rcases result : updateMany db matching change with error | ⟨stored, rows⟩
  · rfl
  · obtain ⟨rfl, -, -⟩ := updateMany_ok result
    rfl

theorem updateOne_tableOnly : TableOnly db (settle db (updateOne db matching change)) := by
  rcases result : updateOne db matching change with error | ⟨stored, row⟩
  · rfl
  · obtain ⟨rfl, -, -⟩ := updateOne_ok result
    rfl

theorem updateSelected_tableOnly {selected : Option Task} :
    TableOnly db (settle db (updateSelected db selected change)) := by
  cases selected with
  | none => rfl
  | some task => exact updateOne_tableOnly

theorem insert_tableOnly {build : Id → Task} : TableOnly db (settle db (insert db build)) := by
  rcases result : insert db build with error | ⟨stored, row⟩
  · rfl
  · obtain ⟨rfl, -, -⟩ := insert_ok result
    rfl

theorem failTask_tableOnly {id : Id} {error : String} {reason : FailureReason}
    {report : SessionReport} {overlay : Overlay} :
    TableOnly db (settle db (failTask db id error reason report overlay)) := by
  simp only [failTask]
  split
  · rename_i result done
    simp only [failTaskTransaction, bind, Except.bind] at done
    split at done
    · contradiction
    · rename_i failure failing
      obtain ⟨stored, -⟩ := failAgentTask_ok failing
      split at done
      · simp only [Except.ok.injEq] at done
        rw [← done]
        simp only [settle, TableOnly]
        rw [stored]
      · split at done
        · contradiction
        · rename_i retried inserting
          simp only [Except.ok.injEq] at done
          obtain ⟨parent, -, -, -, next_eq, -⟩ := createRetryTask_ok inserting
          rw [← done]
          simp only [settle, TableOnly, next_eq]
          rw [stored]
  · split
    · rfl
    · rfl
  · rfl

theorem cancel_tableOnly {selection : Cancellation} :
    TableOnly db (settle db (cancel db selection)) := by
  cases selection <;> exact updateMany_tableOnly

end TableOnly

def Action.tableOnly : Action → Bool
  | .elapse _ => false
  | .setMaxConcurrentTasks _ _ => false
  | .beginClaimTask _ => false
  | .finishClaimTask _ _ => false
  | .abandonClaimTask _ => false
  | .finalizeTaskClaim _ _ _ => false
  | .failTasksForOfflineRuntimes _ => false
  | .recoverOrphanedTasksForRuntime _ => false
  | .failStaleTasks _ _ _ => false
  | .expireStaleQueuedTasks _ _ => false
  | .handleFailedTask _ _ => false
  | _ => true

theorem step_tableOnly (db : Db) {action : Action} (plain : action.tableOnly = true) :
    TableOnly db (step db action) := by
  cases action with
  | createAgentTask => exact insert_tableOnly
  | createQuickCreateTask => exact insert_tableOnly
  | createAutopilotTask => exact insert_tableOnly
  | createDeferredAgentTask => exact insert_tableOnly
  | createChatTask => exact insert_tableOnly
  | requeueTaskAfterClaimFailure => exact updateOne_tableOnly
  | reclaimStaleDispatchedTasks => exact updateMany_tableOnly
  | extendAgentTaskPrepareLease => exact updateOne_tableOnly
  | startAgentTask => exact updateOne_tableOnly
  | markAgentTaskWaitingLocalDirectory => exact updateOne_tableOnly
  | updateAgentTaskSession => exact updateMany_tableOnly
  | completeAgentTask => exact updateOne_tableOnly
  | linkTaskToIssue => exact updateMany_tableOnly
  | failTask => exact failTask_tableOnly
  | cancel => exact cancel_tableOnly
  | promoteDueDeferredTasks => exact updateMany_tableOnly
  | promoteChannelChatTasks => exact updateMany_tableOnly
  | reassignTasksToRuntime => exact updateMany_tableOnly
  | mergeCommentIntoPendingTask => exact updateSelected_tableOnly
  | registerPlannedCommentForActiveTask => exact updateSelected_tableOnly
  | _ => simp [Action.tableOnly] at plain

inductive StepShape (db : Db) (action : Action) (next : Db) : Prop
  | table (shape : TableOnly db next)
  | elapsed (seconds : Nat) (next_eq : next = { db with now := db.now + seconds })
  | limited (agent : Id) (limit : Nat) (by_set : action = .setMaxConcurrentTasks agent limit)
      (unlocked : agent ∉ db.claiming)
      (limits : next.maxConcurrentTasks = Function.update db.maxConcurrentTasks agent limit)
      (next_eq : next = { db with maxConcurrentTasks := next.maxConcurrentTasks })
  | locked (agent : Id) (below : countRunningTasks db agent < db.maxConcurrentTasks agent)
      (next_eq : next = { db with claiming := agent :: db.claiming })
  | released (agent : Id) (next_eq : next = { releaseAgent db agent with tasks := next.tasks })
  | tokened (next_eq : next = { db with tasks := next.tasks, tokens := next.tokens })
  | swept {matching : Task → Bool} {change : Task → Task}
      (next_eq : next = sweep db (updateMany db matching change))
      (ids : ∀ task, (change task).id = task.id) (fails : ∀ task, (change task).status = .failed)
      (live : ∀ task, matching task = true → task.status = .queued ∨ task.status.active = true)
  | handled (index : Nat) (overlay : Overlay) (by_handler : action = .handleFailedTask index overlay)
      (swept : next.swept = db.swept.eraseIdx index)
      (next_eq : next = { db with tasks := next.tasks, nextId := next.nextId, swept := next.swept })

section Shape

variable {db : Db} {action : Action}

theorem finalizeTaskClaim_shape (snapshot : Task) (tokenHash : String) (delivered : List Id) :
    StepShape db action (settle db (finalizeTaskClaim db snapshot tokenHash delivered)) := by
  simp only [finalizeTaskClaim, createTaskToken]
  split
  · simp only [bind, Except.bind]
    split
    · rcases result : setTaskDeliveredCommentIDs _ snapshot delivered with error | ⟨stored, row⟩
      · exact .tokened rfl
      · obtain ⟨rfl, -, -⟩ := updateOne_ok result
        exact .tokened rfl
    · exact .tokened rfl
  · exact .tokened rfl

theorem handleFailedTask_rest (index : Nat) (overlay : Overlay) {next : Db}
    (next_eq : next = handleFailedTask db index overlay) :
    next.swept = db.swept.eraseIdx index ∧
      next = { db with tasks := next.tasks, nextId := next.nextId, swept := next.swept } := by
  subst next_eq
  simp only [handleFailedTask]
  split
  · rename_i absent
    rw [List.getElem?_eq_none_iff] at absent
    exact ⟨(List.eraseIdx_of_length_le absent).symm, rfl⟩
  · simp only [maybeRetryFailedTask]
    split
    · exact ⟨rfl, rfl⟩
    · split
      · rename_i inserting
        obtain ⟨parent, -, -, -, rfl, -⟩ := createRetryTask_ok inserting
        exact ⟨rfl, rfl⟩
      · exact ⟨rfl, rfl⟩

theorem beginClaimTask_shape (agent : Id) : StepShape db action (beginClaimTask db agent) := by
  rw [beginClaimTask]
  split
  · exact .table rfl
  · split
    · exact .table rfl
    · rename_i below
      exact .locked agent (Nat.lt_of_not_le below) rfl

theorem finishClaimTask_shape (agent : Id) (locked : List Id) :
    StepShape db action (finishClaimTask db agent locked) := by
  rw [finishClaimTask]
  split
  · rcases result : claimAgentTask db agent locked with error | ⟨stored, row⟩
    · exact .released agent rfl
    · obtain ⟨task, -, updated⟩ := updateSelected_ok result
      obtain ⟨rfl, -, -⟩ := updateOne_ok updated
      exact .released agent rfl
  · exact .table rfl

end Shape

theorem step_shape (db : Db) (action : Action) : StepShape db action (step db action) := by
  by_cases plain : action.tableOnly = true
  · exact .table (step_tableOnly db plain)
  · cases action with
    | elapse seconds => exact .elapsed seconds rfl
    | setMaxConcurrentTasks agent limit =>
        simp only [step]
        split
        · exact .table rfl
        · rename_i unlocked
          exact .limited agent limit rfl (by simpa using unlocked) rfl rfl
    | beginClaimTask agent => exact beginClaimTask_shape agent
    | finishClaimTask agent locked => exact finishClaimTask_shape agent locked
    | abandonClaimTask agent => exact .released agent rfl
    | finalizeTaskClaim snapshot tokenHash delivered =>
        exact finalizeTaskClaim_shape snapshot tokenHash delivered
    | failTasksForOfflineRuntimes offline =>
        refine .swept rfl (fun _ => rfl) (fun _ => rfl) fun task matched => Or.inr ?_
        simp only [Bool.and_eq_true] at matched
        exact matched.1
    | recoverOrphanedTasksForRuntime runtime =>
        refine .swept rfl (fun _ => rfl) (fun _ => rfl) fun task matched => Or.inr ?_
        simp only [Bool.and_eq_true] at matched
        exact matched.2
    | failStaleTasks dispatchTimeout runningTimeout alive =>
        refine .swept rfl (fun _ => rfl) (fun _ => rfl) fun task matched => Or.inr ?_
        exact timedOut_active matched
    | expireStaleQueuedTasks ttl chosen =>
        refine .swept rfl (fun _ => rfl) (fun _ => rfl) fun task matched => Or.inl ?_
        simp only [Bool.and_eq_true, decide_eq_true_eq] at matched
        exact matched.1.1
    | handleFailedTask index overlay =>
        obtain ⟨swept, rest⟩ := handleFailedTask_rest index overlay rfl
        exact .handled index overlay rfl swept rest
    | _ => exact absurd rfl plain

theorem step_now (db : Db) (action : Action) : db.now ≤ (step db action).now := by
  cases step_shape db action with
  | elapsed seconds next_eq =>
      rw [next_eq]
      exact Nat.le_add_right _ _
  | table shape => exact Nat.le_of_eq (by rw [TableOnly] at shape; rw [shape])
  | limited agent limit by_set unlocked limits next_eq => exact Nat.le_of_eq (by rw [next_eq])
  | locked agent below next_eq => exact Nat.le_of_eq (by rw [next_eq])
  | released agent next_eq => exact Nat.le_of_eq (by rw [next_eq]; rfl)
  | tokened next_eq => exact Nat.le_of_eq (by rw [next_eq])
  | @swept matching change next_eq ids fails live =>
      rw [next_eq]
      rcases result : updateMany db matching change with error | ⟨stored, rows⟩
      · exact Nat.le_refl _
      · obtain ⟨rfl, -, -⟩ := updateMany_ok result
        exact Nat.le_refl _
  | handled index overlay by_handler swept next_eq => exact Nat.le_of_eq (by rw [next_eq])

end MulticaOS.TaskQueue
