import MulticaOS.TaskQueue.Steps

/-!
How a comment becomes work for its agent: `resolveCommentTriggerEnqueue` with its statements
taken one at a time, the replay of undelivered comments after a completion, and the system
in which any number of these calls run beside the task queue.

Comments belong to one issue, always route to one agent, and are never edited or deleted;
the head under review does not change.
-/

namespace MulticaOS.Comments

open TaskQueue

structure Pair where
  issue : Id
  agent : Id
  headSha : Option String

def Pair.owns (pair : Pair) (task : Task) : Bool :=
  task.issueId = some pair.issue && task.agentId = pair.agent

structure Comment where
  id : Id
  createdAt : Nat

inductive TriggerSource where
  | issueAssignee
  | mentionAgent
  | mentionSquadLeader
  | threadParent
  | conversation
  deriving DecidableEq

/-- `commentAgentTrigger`, less the agent and the flag, which is computed by a step of its own. -/
structure CommentTrigger where
  source : TriggerSource
  squad : Option Id

structure Resolved where
  runtimeId : Id
  priority : Int
  triggerSummary : Option String
  attribution : Attribution
  overlay : Overlay

def Resolved.trigger (data : Resolved) (comment : Id) : Trigger :=
  ⟨comment, data.triggerSummary, data.attribution, data.overlay⟩

inductive Resolution where
  | resolved (data : Resolved)
  | attributionFailClosed
  | failed

inductive BlockReason where
  | attributionBlocked
  | internalError
  deriving DecidableEq

inductive Outcome where
  | queued
  | coalesced
  | deferred
  | blocked (reason : BlockReason)
  deriving DecidableEq

def Outcome.success : Outcome → Bool
  | .blocked _ => false
  | _ => true

def hasPendingTaskForIssueAndAgent (pair : Pair) (db : Db) (comment : Id) : Bool :=
  hasPendingTaskForIssueAndAgentExcludingTriggerComment db pair.issue pair.agent comment pair.headSha

inductive MergeResult where
  | succeeded
  | noPendingTask
  | attributionBlocked
  | error

def mergeCommentIntoPendingTask (pair : Pair) (db : Db) (comment : Id) :
    Resolution → Db × MergeResult
  | .attributionFailClosed => (db, .attributionBlocked)
  | .failed => (db, .error)
  | .resolved data =>
      match TaskQueue.mergeCommentIntoPendingTask db pair.issue pair.agent pair.headSha
          (data.trigger comment) with
      | .ok (next, _) => (next, .succeeded)
      | .error .noRows => (db, .noPendingTask)
      | .error _ => (db, .error)

inductive EnqueueError where
  | duplicatePendingTask
  | attributionFailClosed
  | other

def CommentTrigger.asLeader (trigger : CommentTrigger) : Bool :=
  match trigger.source with
  | .issueAssignee => trigger.squad.isSome
  | .mentionSquadLeader => true
  | .conversation => trigger.squad.isSome
  | _ => false

/-- `enqueueIssueTask` has no name for a refused insert; `enqueueMentionTask` has. -/
def CommentTrigger.namesDuplicates (trigger : CommentTrigger) : Bool :=
  !(trigger.source = .issueAssignee && trigger.squad.isNone)

def commentTask (pair : Pair) (trigger : CommentTrigger) (comment : Id) (data : Resolved) :
    NewTask where
  agentId := pair.agent
  runtimeId := data.runtimeId
  priority := data.priority
  triggerCommentId := some comment
  coalescedCommentIds := []
  triggerSummary := data.triggerSummary
  headSha := pair.headSha
  forceFreshSession := false
  isLeaderTask := trigger.asLeader
  squadId := if trigger.asLeader then trigger.squad else none
  attribution := data.attribution
  overlay := data.overlay
  maxAttempts := 2

def enqueueSingleCommentTrigger (pair : Pair) (db : Db) (trigger : CommentTrigger) (comment : Id) :
    Resolution → Except EnqueueError Db
  | .attributionFailClosed => .error .attributionFailClosed
  | .failed => .error .other
  | .resolved data =>
      match createAgentTask db pair.issue (commentTask pair trigger comment data) with
      | .ok (next, _) => .ok next
      | .error .uniqueViolation =>
          if trigger.namesDuplicates then .error .duplicatePendingTask else .error .other
      | .error _ => .error .other

def maxAttempts : Nat := 4
def maxHandOffs : Nat := 3

/-- The next statement of `resolveCommentTriggerEnqueue`, and after a blocked replay of
`propagateUncoveredCommentObligation`. -/
inductive Pc where
  | flag
  | merge (attempt : Nat) (lostRace : Bool)
  | active (attempt : Nat)
  | register (attempt : Nat)
  | enqueue (attempt : Nat)
  | handOffRegister (attempt : Nat)
  | handOffMerge (attempt : Nat)
  | handOffEnqueue (attempt : Nat)

inductive Progress where
  | goto (pc : Pc)
  | returned (outcome : Outcome)
  | handedOff (done : Bool)

def callStep (pair : Pair) (db : Db) (trigger : CommentTrigger) (comment : Id)
    (resolution : Resolution) : Pc → Db × Progress
  | .flag =>
      if hasPendingTaskForIssueAndAgent pair db comment then (db, .goto (.merge 0 false))
      else (db, .goto (.enqueue 0))
  | .merge attempt lostRace =>
      match mergeCommentIntoPendingTask pair db comment resolution with
      | (next, .succeeded) => (next, .returned .coalesced)
      | (next, .attributionBlocked) => (next, .returned (.blocked .attributionBlocked))
      | (next, .error) => (next, .returned (.blocked .internalError))
      | (next, .noPendingTask) =>
          if lostRace then (next, .goto (.register attempt)) else (next, .goto (.active attempt))
  | .active attempt =>
      if hasActiveTaskForIssueAndAgent db pair.issue pair.agent then (db, .returned .deferred)
      else (db, .goto (.enqueue attempt))
  | .register attempt =>
      match registerPlannedCommentForActiveTask db pair.issue pair.agent pair.headSha comment with
      | .ok (next, _) => (next, .returned .deferred)
      | .error .noRows => (db, .goto (.enqueue attempt))
      | .error _ => (db, .returned (.blocked .internalError))
  | .enqueue attempt =>
      match enqueueSingleCommentTrigger pair db trigger comment resolution with
      | .ok next => (next, .returned .queued)
      | .error .duplicatePendingTask =>
          if attempt + 1 < maxAttempts then (db, .goto (.merge (attempt + 1) true))
          else (db, .returned (.blocked .internalError))
      | .error .attributionFailClosed => (db, .returned (.blocked .attributionBlocked))
      | .error .other => (db, .returned (.blocked .internalError))
  | .handOffRegister attempt =>
      -- any head: what is planned after the claim is never delivered to that run
      match registerPlannedCommentForActiveTask db pair.issue pair.agent none comment with
      | .ok (next, _) => (next, .handedOff true)
      | .error _ => (db, .goto (.handOffMerge attempt))
  | .handOffMerge attempt =>
      match mergeCommentIntoPendingTask pair db comment resolution with
      | (next, .succeeded) => (next, .handedOff true)
      | (next, _) => (next, .goto (.handOffEnqueue attempt))
  | .handOffEnqueue attempt =>
      match enqueueSingleCommentTrigger pair db trigger comment resolution with
      | .ok next => (next, .handedOff true)
      | .error .duplicatePendingTask =>
          if attempt + 1 < maxHandOffs then (db, .goto (.handOffRegister (attempt + 1)))
          else (db, .handedOff false)
      | .error _ => (db, .handedOff false)

/-- A request for a new comment, or the reconciliation of a completed task: it lists the
comments and then replays them one after the other. -/
inductive Thread where
  | listing (completed : Task)
  | calling (comment : Id) (trigger : CommentTrigger) (pc : Pc) (replay : Bool) (todo : List Id)

structure System where
  db : Db
  comments : List Comment
  threads : List Thread
  reported : List (Id × Outcome)

/-- `ListReconcilableCommentsForIssueSince`, less what the completed run was given.
The comments are stored in the order of their creation. -/
def reconcilable (comments : List Comment) (completed : Task) : List Id :=
  (comments.filter fun comment =>
    (completed.createdAt < comment.createdAt || completed.planned.contains comment.id) &&
      !completed.deliveredCommentIds.contains comment.id).map Comment.id

def unrouted : CommentTrigger := ⟨.issueAssignee, none⟩

def nextReplay : List Id → List Thread
  | [] => []
  | comment :: todo => [.calling comment unrouted .flag true todo]

def reconciling (pair : Pair) (db : Db) : Action → List Thread
  | .completeAgentTask id report =>
      match completeAgentTask db id report with
      | .ok (_, completed) => if pair.owns completed then [.listing completed] else []
      | .error .noRows =>
          match getAgentTask db id with
          | some existing => if pair.owns existing then [.listing existing] else []
          | none => []
      | .error _ => []
  | _ => []

inductive Event where
  | table (action : Action)
  | post
  | advance (index : Nat) (trigger : CommentTrigger) (resolution : Resolution)

def Pc.routed (pc : Pc) (computed stored : CommentTrigger) : CommentTrigger :=
  match pc with
  | .flag => computed
  | _ => stored

/-- One statement of a thread: the database, what the thread becomes, and what it reports. -/
def threadStep (pair : Pair) (comments : List Comment) (db : Db) (computed : CommentTrigger)
    (resolution : Resolution) : Thread → Db × List Thread × List (Id × Outcome)
  | .listing completed => (db, nextReplay (reconcilable comments completed), [])
  | .calling comment stored pc replay todo =>
      let trigger := pc.routed computed stored
      match callStep pair db trigger comment resolution pc with
      | (next, .goto later) => (next, [.calling comment trigger later replay todo], [])
      | (next, .returned outcome) =>
          (next,
            if replay then
              if outcome.success then nextReplay todo
              else [.calling comment trigger (.handOffRegister 0) true todo]
            else [],
            [(comment, outcome)])
      | (next, .handedOff _) => (next, nextReplay todo, [])

def systemStep (pair : Pair) (system : System) : Event → System
  | .table action =>
      { system with
        db := step system.db action
        threads := system.threads ++ reconciling pair system.db action }
  | .post =>
      { system with
        comments := system.comments ++ [⟨system.comments.length, system.db.now⟩]
        threads := system.threads ++ [.calling system.comments.length unrouted .flag false []] }
  | .advance index computed resolution =>
      match system.threads[index]? with
      | none => system
      | some thread =>
          let (next, threads, reported) :=
            threadStep pair system.comments system.db computed resolution thread
          { system with
            db := next
            threads := system.threads.take index ++ threads ++ system.threads.drop (index + 1)
            reported := system.reported ++ reported }

def startSystem (limits : Id → Nat) : System := ⟨initial limits, [], [], []⟩

def covers (pair : Pair) (comments : List Comment) (comment : Id) (task : Task) : Bool :=
  pair.owns task && !task.status.terminal &&
    (task.planned.contains comment ||
      comments.any fun posted => posted.id = comment && task.createdAt < posted.createdAt)

def delivered (pair : Pair) (comment : Id) (task : Task) : Bool :=
  pair.owns task && task.deliveredCommentIds.contains comment

def covered (pair : Pair) (comments : List Comment) (db : Db) (comment : Id) : Bool :=
  db.tasks.any fun task => delivered pair comment task || covers pair comments comment task

theorem covered_of_planned {pair : Pair} {comments : List Comment} {db : Db}
    {comment : Id} {task : Task}
    (member : task ∈ db.tasks) (owned : pair.owns task = true) (live : task.status.terminal = false)
    (planned : comment ∈ task.planned) : covered pair comments db comment = true := by
  refine List.any_eq_true.mpr ⟨task, member, ?_⟩
  simp [covers, owned, live, planned]

section Writes

variable {pair : Pair} {db next : Db} {comment : Id} {row : Task}

theorem owns_iff {task : Task} :
    pair.owns task = true ↔ task.issueId = some pair.issue ∧ task.agentId = pair.agent := by
  simp [Pair.owns]

theorem updateSelected_mem {matching : Task → Bool} {change : Task → Task}
    (unique : (db.tasks.map Task.id).Nodup)
    (done : updateSelected db (TableLib.first newestFirst (db.tasks.filter matching)) change =
      .ok (next, row)) :
    ∃ task ∈ db.tasks, matching task = true ∧ row = change task ∧ row ∈ next.tasks := by
  obtain ⟨task, selected, updated⟩ := updateSelected_ok done
  obtain ⟨member, matched⟩ := List.mem_filter.mp (TableLib.first_mem selected)
  obtain ⟨rfl, -, old, found, rfl⟩ := updateOne_ok updated
  have same : old.id = task.id := by simpa using List.find?_some found
  have listed := List.mem_of_find?_eq_some found
  rw [List.inj_on_of_nodup_map unique listed member same]
  exact ⟨task, member, matched, rfl, List.mem_map.mpr ⟨task, member, by simp⟩⟩

theorem merge_covers {headSha : Option String} {trigger : Trigger}
    (unique : (db.tasks.map Task.id).Nodup)
    (done : TaskQueue.mergeCommentIntoPendingTask db pair.issue pair.agent headSha trigger =
      .ok (next, row)) :
    row ∈ next.tasks ∧ pair.owns row = true ∧ row.status = .queued ∧
      row.triggerCommentId = some trigger.commentId := by
  obtain ⟨task, -, matched, rfl, member⟩ := updateSelected_mem unique done
  simp only [Bool.and_eq_true, decide_eq_true_eq] at matched
  obtain ⟨⟨⟨issue, agent⟩, queued⟩, -⟩ := matched
  exact ⟨member, owns_iff.mpr ⟨issue, agent⟩, queued, rfl⟩

theorem merge_succeeded {resolution : Resolution} (unique : (db.tasks.map Task.id).Nodup)
    (done : mergeCommentIntoPendingTask pair db comment resolution = (next, .succeeded)) :
    ∃ row ∈ next.tasks, pair.owns row = true ∧ row.status = .queued ∧
      row.triggerCommentId = some comment := by
  cases resolution with
  | attributionFailClosed => simp [mergeCommentIntoPendingTask] at done
  | failed => simp [mergeCommentIntoPendingTask] at done
  | resolved data =>
      simp only [mergeCommentIntoPendingTask] at done
      split at done
      · rename_i stored row merging
        simp only [Prod.mk.injEq, and_true] at done
        subst done
        exact ⟨row, merge_covers unique merging⟩
      · simp at done
      · simp at done

theorem register_covers {headSha : Option String} (unique : (db.tasks.map Task.id).Nodup)
    (done : registerPlannedCommentForActiveTask db pair.issue pair.agent headSha comment =
      .ok (next, row)) :
    row ∈ next.tasks ∧ pair.owns row = true ∧ row.status.active = true ∧ comment ∈ row.planned := by
  obtain ⟨task, -, matched, rfl, member⟩ := updateSelected_mem unique done
  simp only [Bool.and_eq_true, decide_eq_true_eq] at matched
  obtain ⟨⟨⟨issue, agent⟩, active⟩, -⟩ := matched
  refine ⟨member, owns_iff.mpr ⟨issue, agent⟩, active, ?_⟩
  simp [Task.planned, Task.registerComment]

theorem enqueue_covers {trigger : CommentTrigger} {resolution : Resolution}
    (done : enqueueSingleCommentTrigger pair db trigger comment resolution = .ok next) :
    ∃ row ∈ next.tasks, pair.owns row = true ∧ row.status = .queued ∧
      row.triggerCommentId = some comment := by
  cases resolution with
  | attributionFailClosed => contradiction
  | failed => contradiction
  | resolved data =>
      simp only [enqueueSingleCommentTrigger] at done
      split at done
      · rename_i stored new inserting
        obtain ⟨rfl, rfl, -⟩ := insert_ok inserting
        rw [Except.ok.injEq] at done
        subst done
        exact ⟨_, List.mem_append_right _ List.mem_cons_self, by simp [owns_iff, Task.forIssue,
          Task.blank, commentTask], rfl, rfl⟩
      · split at done <;> contradiction
      · contradiction

end Writes

end MulticaOS.Comments
