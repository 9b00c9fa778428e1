import MulticaOS.Lib.Tables

/-!
The rows of `agent_task_queue`, the unique index over its pending rows, and the three
kinds of write a statement makes.  A write that breaks the index is refused whole.
Times are in seconds; `now` is the time of the statement.
-/

namespace MulticaOS.TaskQueue

abbrev Id := Nat

inductive Status where
  | queued
  | dispatched
  | running
  | waitingLocalDirectory
  | deferred
  | completed
  | failed
  | cancelled
  deriving DecidableEq

/-- The values of `failure_reason` that a modelled function tells apart. -/
inductive FailureReason where
  | runtimeOffline
  | runtimeRecovery
  | timeout
  | codexSemanticInactivity
  | providerNetwork
  | queuedExpired
  | other (name : String)
  deriving DecidableEq

structure Attribution where
  originatorUserId : Option Id
  accountableUserId : Option Id
  originatorSource : Option String
  delegatedFromTaskId : Option Id
  ruleVersionId : Option Id
  triggerEvidenceKind : Option String
  triggerEvidenceRefId : Option Id
  deriving DecidableEq

structure Overlay where
  runtimeMcpOverlay : Option String
  runtimeConnectedApps : Option String
  deriving DecidableEq

def noAttribution : Attribution := ⟨none, none, none, none, none, none, none⟩
def noOverlay : Overlay := ⟨none, none⟩

structure Task where
  id : Id
  agentId : Id
  runtimeId : Id
  issueId : Option Id
  chatSessionId : Option Id
  autopilotRunId : Option Id
  status : Status
  priority : Int
  createdAt : Nat
  dispatchedAt : Option Nat
  startedAt : Option Nat
  completedAt : Option Nat
  prepareLeaseExpiresAt : Option Nat
  fireAt : Option Nat
  triggerCommentId : Option Id
  coalescedCommentIds : List Id
  deliveredCommentIds : List Id
  triggerSummary : Option String
  headSha : Option String
  failureReason : Option FailureReason
  error : Option String
  sessionId : Option String
  workDir : Option String
  sessionRolloutMissing : Bool
  forceFreshSession : Bool
  waitReason : Option String
  attempt : Int
  maxAttempts : Int
  parentTaskId : Option Id
  retryOfTaskId : Option Id
  escalationForTaskId : Option Id
  chatInputTaskId : Option Id
  isLeaderTask : Bool
  squadId : Option Id
  attribution : Attribution
  overlay : Overlay

def Status.active : Status → Bool
  | .dispatched => true
  | .running => true
  | .waitingLocalDirectory => true
  | _ => false

/-- The predicate of the unique index. -/
def Status.pending : Status → Bool
  | .queued => true
  | .dispatched => true
  | _ => false

def Status.terminal : Status → Bool
  | .completed => true
  | .failed => true
  | .cancelled => true
  | _ => false

/-- The comment ids a task was enqueued or extended to cover. -/
def Task.planned (task : Task) : List Id := task.triggerCommentId.toList ++ task.coalescedCommentIds

def Task.samePair (left right : Task) : Bool :=
  left.issueId.isSome && left.issueId = right.issueId && left.agentId = right.agentId

/-- `idx_one_pending_task_per_issue_agent`: two rows that the index does not admit together. -/
def Task.collides (left right : Task) : Bool :=
  left.status.pending && right.status.pending && left.samePair right

def PendingUnique (tasks : List Task) : Prop :=
  tasks.Pairwise fun left right => left.collides right = false

instance : DecidablePred PendingUnique := fun tasks =>
  inferInstanceAs (Decidable (tasks.Pairwise _))

inductive DbError where
  | uniqueViolation
  | foreignKeyViolation
  | noRows
  deriving DecidableEq

structure TaskToken where
  taskId : Id
  tokenHash : String
  deriving DecidableEq

/-- The tables and what the server holds in memory between two statements: the agents whose
row a `ClaimTask` has locked, and the rows a sweep returned that are not handled yet. -/
structure Db where
  now : Nat
  nextId : Id
  tasks : List Task
  tokens : List TaskToken
  maxConcurrentTasks : Id → Nat
  claiming : List Id
  swept : List Task

def commit (db : Db) (tasks : List Task) : Except DbError Db :=
  if PendingUnique tasks then .ok { db with tasks := tasks } else .error .uniqueViolation

def updateMany (db : Db) (matching : Task → Bool) (change : Task → Task) :
    Except DbError (Db × List Task) :=
  match commit db (TableLib.updateWhere matching change db.tasks) with
  | .ok next => .ok (next, (db.tasks.filter matching).map change)
  | .error error => .error error

def updateOne (db : Db) (matching : Task → Bool) (change : Task → Task) :
    Except DbError (Db × Task) :=
  match db.tasks.find? matching with
  | none => .error .noRows
  | some task =>
      match commit db (TableLib.updateWhere matching change db.tasks) with
      | .ok next => .ok (next, change task)
      | .error error => .error error

def updateSelected (db : Db) (selected : Option Task) (change : Task → Task) :
    Except DbError (Db × Task) :=
  match selected with
  | none => .error .noRows
  | some task => updateOne db (fun row => row.id = task.id) change

def insert (db : Db) (row : Id → Task) : Except DbError (Db × Task) :=
  match commit { db with nextId := db.nextId + 1 } (db.tasks ++ [row db.nextId]) with
  | .ok next => .ok (next, row db.nextId)
  | .error error => .error error

def settle {Result : Type} (db : Db) : Except DbError (Db × Result) → Db
  | .ok (next, _) => next
  | .error _ => db

theorem samePair_iff {left right : Task} : left.samePair right = true ↔
    (∃ issue, left.issueId = some issue ∧ right.issueId = some issue) ∧
      left.agentId = right.agentId := by
  simp only [Task.samePair, Bool.and_eq_true, decide_eq_true_eq, Option.isSome_iff_exists]
  constructor
  · rintro ⟨⟨⟨issue, linked⟩, same⟩, agent⟩
    exact ⟨⟨issue, linked, same ▸ linked⟩, agent⟩
  · rintro ⟨⟨issue, linked, other⟩, agent⟩
    exact ⟨⟨⟨issue, linked⟩, linked.trans other.symm⟩, agent⟩

theorem samePair_symm {left right : Task} (same : left.samePair right = true) :
    right.samePair left = true := by
  obtain ⟨⟨issue, leftIssue, rightIssue⟩, agent⟩ := samePair_iff.mp same
  exact samePair_iff.mpr ⟨⟨issue, rightIssue, leftIssue⟩, agent.symm⟩

theorem collides_iff {left right : Task} : left.collides right = true ↔
    left.status.pending = true ∧ right.status.pending = true ∧ left.samePair right = true := by
  simp only [Task.collides, Bool.and_eq_true, and_assoc]

theorem collides_symm {left right : Task} (collide : left.collides right = true) :
    right.collides left = true := by
  obtain ⟨leftPending, rightPending, same⟩ := collides_iff.mp collide
  exact collides_iff.mpr ⟨rightPending, leftPending, samePair_symm same⟩

theorem PendingUnique.map {tasks : List Task} (unique : PendingUnique tasks) {change : Task → Task}
    (keeps : ∀ task ∈ tasks, (change task).status.pending = true →
      task.status.pending = true ∧ (change task).issueId = task.issueId)
    (agent : ∀ task ∈ tasks, (change task).agentId = task.agentId) :
    PendingUnique (tasks.map change) := by
  refine List.pairwise_map.mpr (unique.imp_of_mem fun {left right} leftMember rightMember apart => ?_)
  by_contra both
  obtain ⟨leftPending, rightPending, same⟩ := collides_iff.mp (Bool.of_not_eq_false both)
  obtain ⟨wasLeft, leftIssue⟩ := keeps left leftMember leftPending
  obtain ⟨wasRight, rightIssue⟩ := keeps right rightMember rightPending
  have before : left.samePair right = true := by
    rw [samePair_iff] at same ⊢
    rw [leftIssue, rightIssue, agent left leftMember, agent right rightMember] at same
    exact same
  rw [collides_iff.mpr ⟨wasLeft, wasRight, before⟩] at apart
  contradiction

theorem pendingUnique_append {tasks : List Task} {row : Task} :
    PendingUnique (tasks ++ [row]) ↔
      PendingUnique tasks ∧ ∀ task ∈ tasks, task.collides row = false := by
  simp [PendingUnique, List.pairwise_append]

theorem PendingUnique.apart {tasks : List Task} (unique : PendingUnique tasks)
    {left right : Task} (leftMember : left ∈ tasks) (rightMember : right ∈ tasks)
    (different : left.id ≠ right.id) : left.collides right = false := by
  induction tasks with
  | nil => contradiction
  | cons first rest ih =>
      obtain ⟨apart, later⟩ := List.pairwise_cons.mp unique
      rcases List.mem_cons.mp leftMember with rfl | leftRest
      · rcases List.mem_cons.mp rightMember with rfl | rightRest
        · contradiction
        · exact apart right rightRest
      · rcases List.mem_cons.mp rightMember with rfl | rightRest
        · by_contra both
          have collide := collides_symm (Bool.of_not_eq_false both)
          rw [apart left leftRest] at collide
          contradiction
        · exact ih later leftRest rightRest

theorem pendingUnique_of_apart {tasks : List Task} (unique : (tasks.map Task.id).Nodup)
    (apart : ∀ left ∈ tasks, ∀ right ∈ tasks, left.id ≠ right.id → left.collides right = false) :
    PendingUnique tasks :=
  (List.pairwise_map.mp unique).imp_of_mem fun leftMember rightMember different =>
    apart _ leftMember _ rightMember different

end MulticaOS.TaskQueue
