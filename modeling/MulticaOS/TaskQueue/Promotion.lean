import MulticaOS.TaskQueue.Steps

/-!
Promotion of deferred tasks under the unique index.  The index does not see deferred rows;
promotion cannot fail as long as no row is inserted beside a waiting one that it misses.
-/

namespace MulticaOS.TaskQueue

/-- `queued`, `dispatched` or `deferred`: in the index now or after a promotion. -/
def Status.waiting : Status → Bool
  | .queued => true
  | .dispatched => true
  | .deferred => true
  | _ => false

/-- The promote step of `ClaimTaskForRuntime` and `ClaimTasksForRuntimes` succeeds, now and at
any later time, for every set of runtimes. -/
def Promotable (db : Db) : Prop :=
  ∀ elapsed runtimes,
    ∃ result, promoteDueDeferredTasks { db with now := db.now + elapsed } runtimes = .ok result

def Task.blocks (task : Task) (issue : Option Id) (agent : Id) (deferred : Bool) : Bool :=
  issue.isSome && task.issueId = issue && task.agentId = agent &&
    (task.status = .deferred || (deferred && task.status.pending))

/-- The action inserts no row for a pair that has a deferred one, and no deferred row for a
pair that has a queued or dispatched one. -/
def Unblocked (db : Db) : Action → Prop
  | .createAgentTask issue new =>
      ∀ task ∈ db.tasks, task.blocks (some issue) new.agentId false = false
  | .createDeferredAgentTask issue _ _ new =>
      ∀ task ∈ db.tasks, task.blocks (some issue) new.agentId true = false
  | .failTask id _ reason _ _ =>
      ∀ parent ∈ db.tasks, parent.id = id → parent.status.active = true →
        retryEligible reason parent = true → ∀ task ∈ db.tasks, task.id ≠ id →
          task.blocks parent.issueId parent.agentId (retryFireAt reason parent db.now).isSome = false
  | .handleFailedTask index _ =>
      ∀ snapshot ∈ db.swept[index]?, ∀ plan ∈ maybeRetryPlan snapshot db.now,
        ∀ parent ∈ db.tasks, parent.id = snapshot.id → ∀ task ∈ db.tasks,
          task.blocks parent.issueId parent.agentId plan.fireAt.isSome = false
  | _ => True

structure PairFree (db : Db) : Prop extends WellFormed db where
  alone : ∀ left ∈ db.tasks, ∀ right ∈ db.tasks, left.id ≠ right.id →
    left.status.waiting = true → right.status.waiting = true → left.samePair right = false

theorem initial_pairFree (limits : Id → Nat) : PairFree (initial limits) :=
  ⟨initial_wellFormed limits, by simp [initial]⟩

theorem waiting_of_pending {status : Status} (pending : status.pending = true) :
    status.waiting = true := by
  cases status <;> simp_all [Status.pending, Status.waiting]

theorem pending_of_waiting {status : Status} (waiting : status.waiting = true)
    (different : status ≠ .deferred) : status.pending = true := by
  cases status <;> simp_all [Status.pending, Status.waiting]

theorem samePair_congr {left right oldLeft oldRight : Task} (leftIssue : left.issueId = oldLeft.issueId)
    (leftAgent : left.agentId = oldLeft.agentId) (rightIssue : right.issueId = oldRight.issueId)
    (rightAgent : right.agentId = oldRight.agentId) :
    left.samePair right = oldLeft.samePair oldRight := by
  simp only [Task.samePair, leftIssue, leftAgent, rightIssue, rightAgent]

theorem promoted_mem {tasks : List Task} {runtimes : List Id} {now : Nat} {row : Task}
    (member : row ∈ TableLib.updateWhere (dueDeferred runtimes now) Task.promote tasks) :
    ∃ old ∈ tasks, row.id = old.id ∧ row.issueId = old.issueId ∧ row.agentId = old.agentId ∧
      row.status.waiting = old.status.waiting := by
  rcases TableLib.mem_updateWhere member with ⟨listed, -⟩ | ⟨old, listed, due, rfl⟩
  · exact ⟨row, listed, rfl, rfl, rfl, rfl⟩
  · simp only [dueDeferred, Bool.and_eq_true, decide_eq_true_eq] at due
    exact ⟨old, listed, rfl, rfl, rfl, by simp [Task.promote, Status.waiting, due.1.2]⟩

theorem PairFree.promotable {db : Db} (pairFree : PairFree db) : Promotable db := by
  intro elapsed runtimes
  have ids : ∀ task : Task, task.promote.id = task.id := fun _ => rfl
  have unique : PendingUnique (TableLib.updateWhere (dueDeferred runtimes (db.now + elapsed))
      Task.promote db.tasks) := by
    refine pendingUnique_of_apart ?_ fun left leftMember right rightMember different => ?_
    · rw [TableLib.map_updateWhere ids]
      exact pairFree.unique
    · obtain ⟨oldLeft, leftListed, leftId, leftIssue, leftAgent, leftStatus⟩ := promoted_mem leftMember
      obtain ⟨oldRight, rightListed, rightId, rightIssue, rightAgent, rightStatus⟩ :=
        promoted_mem rightMember
      by_contra both
      obtain ⟨leftPending, rightPending, same⟩ := collides_iff.mp (Bool.of_not_eq_false both)
      rw [leftId, rightId] at different
      rw [samePair_congr leftIssue leftAgent rightIssue rightAgent,
        pairFree.alone oldLeft leftListed oldRight rightListed different
          (leftStatus ▸ waiting_of_pending leftPending)
          (rightStatus ▸ waiting_of_pending rightPending)] at same
      contradiction
  rw [promoteDueDeferredTasks, updateMany, commit, if_pos unique]
  exact ⟨_, rfl⟩

theorem RowStep.waiting {now : Nat} {action : Action} {old new : Task}
    (changed : RowStep now action old new)
    (waiting : new.status.waiting = true) :
    old.status.waiting = true ∧ new.issueId = old.issueId := by
  have issue : new.issueId = old.issueId := by
    rcases changed.issueId with same | ⟨-, completed, -⟩
    · exact same
    · rw [completed] at waiting
      contradiction
  refine ⟨?_, issue⟩
  cases changed with
  | same => exact waiting
  | reclaim dispatched => rw [dispatched]; rfl
  | deliver dispatched => rw [dispatched]; rfl
  | requeue dispatched => rw [dispatched]; rfl
  | extendLease => exact waiting
  | start => contradiction
  | wait => contradiction
  | pinSession => exact waiting
  | complete => contradiction
  | linkIssue => exact waiting
  | fail => contradiction
  | sweep => contradiction
  | cancel => contradiction
  | promote deferred => rw [deferred]; rfl
  | promoteChannelChat deferred => rw [deferred]; rfl
  | reassign => exact waiting
  | mergeComment _ queued => rw [queued]; rfl
  | registerComment => exact waiting

theorem RowStep.deferred {now : Nat} {action : Action} {old new : Task}
    (changed : RowStep now action old new)
    (deferred : new.status = .deferred) : old.status = .deferred := by
  cases changed with
  | same => exact deferred
  | extendLease => exact deferred
  | pinSession => exact deferred
  | linkIssue => exact deferred
  | reassign => exact deferred
  | registerComment => exact deferred
  | deliver dispatched => exact deferred
  | mergeComment => exact deferred
  | _ => contradiction

theorem apart_inserted {db next : Db} {old task row : Task}
    (unique : PendingUnique next.tasks) (changed : RowStep db.now action old task)
    (taskMember : task ∈ next.tasks) (rowMember : row ∈ next.tasks) (different : task.id ≠ row.id)
    (new : NewRow db row) (waiting : task.status.waiting = true)
    (unblocked : old.blocks row.issueId row.agentId (row.status = .deferred) = false) :
    task.samePair row = false := by
  by_contra both
  have same := Bool.of_not_eq_false both
  obtain ⟨⟨issue, taskIssue, rowIssue⟩, agent⟩ := samePair_iff.mp same
  obtain ⟨oldWaiting, issueKept⟩ := changed.waiting waiting
  rw [changed.lineage.agentId] at agent
  rw [issueKept] at taskIssue
  simp only [Task.blocks, rowIssue, taskIssue, agent, Option.isSome_some, decide_true, Bool.true_and,
    Bool.or_eq_false_iff, decide_eq_false_iff_not] at unblocked
  have notDeferred : task.status ≠ .deferred := fun deferred =>
    unblocked.1 (changed.deferred deferred)
  rcases new.waiting with queued | ⟨deferred, -⟩
  · have collide := collides_iff.mpr ⟨pending_of_waiting waiting notDeferred, by rw [queued]; rfl, same⟩
    rw [unique.apart taskMember rowMember different] at collide
    contradiction
  · have pending := pending_of_waiting oldWaiting unblocked.1
    simp [deferred, pending] at unblocked

theorem retry_deferred (parent : Task) (fireAt : Option Nat) (maxAttempts : Option Int)
    (overlay : Overlay) (now : Nat) (id : Id) :
    decide ((parent.retry fireAt maxAttempts overlay now id).status = .deferred) = fireAt.isSome := by
  cases fireAt <;> rfl

theorem Origin.unblocked {db next : Db} {action : Action} {row old task : Task}
    (origin : Origin db action next row) (unblocked : Unblocked db action) (formed : WellFormed next)
    (listed : old ∈ db.tasks) (changed : RowStep db.now action old task) (member : task ∈ next.tasks)
    (waiting : task.status.waiting = true) :
    old.blocks row.issueId row.agentId (row.status = .deferred) = false := by
  cases origin with
  | enqueued _ _ link =>
      rcases link with none | ⟨issue, new, rfl, rfl⟩ | ⟨issue, escalationFor, fireAt, new, rfl, rfl⟩
      · simp [Task.blocks, none]
      · exact unblocked old listed
      · exact unblocked old listed
  | @failed parent failed error reason report overlay byFail parentMember active fails stored eligible
      row_eq =>
      have others : old.id ≠ parent.id := by
        intro same
        have sameRow : task.id = failed.id := by rw [changed.lineage.id, same, fails]; rfl
        rw [List.inj_on_of_nodup_map formed.unique member stored sameRow, fails] at waiting
        contradiction
      subst byFail
      have free := unblocked parent parentMember rfl active eligible old listed others
      rw [row_eq, retry_deferred, fails]
      exact free
  | swept byHandler returned parentMember stored same planned row_eq =>
      subst byHandler
      have free := unblocked _ returned _ planned _ parentMember same old listed
      rw [row_eq, retry_deferred]
      exact free

theorem PairFree.edited {db next : Db} {action : Action} (pairFree : PairFree db)
    (edited : Edited db action next) (unblocked : Unblocked db action) : PairFree next := by
  have formed := pairFree.toWellFormed.edited edited
  have beside : ∀ task ∈ next.tasks, ∀ row ∈ next.tasks, task.id ≠ row.id →
      task.status.waiting = true → NewRow db row → Origin db action next row →
        (∃ old ∈ db.tasks, RowStep db.now action old task) → task.samePair row = false := by
    rintro task taskMember row rowMember different waiting new origin ⟨old, listed, changed⟩
    exact apart_inserted formed.pending changed taskMember rowMember different new waiting
      (origin.unblocked unblocked formed listed changed taskMember waiting)
  refine ⟨formed, fun left leftMember right rightMember different leftWaiting rightWaiting => ?_⟩
  rcases edited.mem leftMember with ⟨oldLeft, leftListed, leftStep⟩ | ⟨leftNew, leftOrigin, -⟩
  · rcases edited.mem rightMember with ⟨oldRight, rightListed, rightStep⟩ | ⟨rightNew, rightOrigin, -⟩
    · obtain ⟨wasLeft, leftIssue⟩ := leftStep.waiting leftWaiting
      obtain ⟨wasRight, rightIssue⟩ := rightStep.waiting rightWaiting
      rw [leftStep.lineage.id, rightStep.lineage.id] at different
      rw [samePair_congr leftIssue leftStep.lineage.agentId rightIssue rightStep.lineage.agentId]
      exact pairFree.alone oldLeft leftListed oldRight rightListed different wasLeft wasRight
    · exact beside left leftMember right rightMember different leftWaiting rightNew rightOrigin
        ⟨oldLeft, leftListed, leftStep⟩
  · rcases edited.mem rightMember with ⟨oldRight, rightListed, rightStep⟩ | ⟨rightNew, -⟩
    · by_contra both
      have turned := samePair_symm (Bool.of_not_eq_false both)
      rw [beside right rightMember left leftMember different.symm rightWaiting leftNew leftOrigin
        ⟨oldRight, rightListed, rightStep⟩] at turned
      contradiction
    · exact absurd (leftNew.id.trans rightNew.id.symm) different

theorem PairFree.claimed {db next : Db} {agent : Id} {locked : List Id} {task : Task}
    (pairFree : PairFree db) (claimed : Claimed db next agent locked task) : PairFree next := by
  obtain ⟨-, queued, -⟩ := claimable_spec claimed.claimable
  have before : ∀ row ∈ next.tasks, ∃ old ∈ db.tasks, row.id = old.id ∧ row.issueId = old.issueId ∧
      row.agentId = old.agentId ∧ (row.status.waiting = true → old.status.waiting = true) := by
    intro row member
    rcases claimed.mem pairFree.unique member with ⟨listed, -⟩ | rfl
    · exact ⟨row, listed, rfl, rfl, rfl, id⟩
    · exact ⟨task, claimed.member, rfl, rfl, rfl, fun _ => by rw [queued]; rfl⟩
  refine ⟨pairFree.toWellFormed.claimed claimed, ?_⟩
  intro left leftMember right rightMember different leftWaiting rightWaiting
  obtain ⟨oldLeft, leftListed, leftId, leftIssue, leftAgent, wasLeft⟩ := before left leftMember
  obtain ⟨oldRight, rightListed, rightId, rightIssue, rightAgent, wasRight⟩ :=
    before right rightMember
  rw [leftId, rightId] at different
  rw [samePair_congr leftIssue leftAgent rightIssue rightAgent]
  exact pairFree.alone oldLeft leftListed oldRight rightListed different (wasLeft leftWaiting)
    (wasRight rightWaiting)

theorem PairFree.step {db : Db} (pairFree : PairFree db) (action : Action)
    (unblocked : Unblocked db action) : PairFree (step db action) := by
  rcases step_cases pairFree.unique action with edited | ⟨agent, locked, task, -, claimed⟩
  · exact pairFree.edited edited unblocked
  · exact pairFree.claimed claimed

/-- In every run that inserts no row beside a waiting one that the index misses, the promote
step of a claim succeeds in every state. -/
theorem promotion_never_wedges (limits : Id → Nat) (actions : List Action)
    (unblocked : RunLib.Every step Unblocked (initial limits) actions) :
    RunLib.Always step Promotable (initial limits) actions :=
  (RunLib.always_of_invariant (initial_pairFree limits)
    (fun _ action pairFree allowed => pairFree.step action allowed) unblocked).mono
    fun _ pairFree => pairFree.promotable

instance (db : Db) (action : Action) : Decidable (Unblocked db action) := by
  cases action <;> unfold Unblocked <;> infer_instance

def twoDrops : List Action :=
  [.createAgentTask 9 plainTask, .beginClaimTask 1, .finishClaimTask 1 [],
    .failTask 0 "connection closed" .providerNetwork noReport noOverlay, .beginClaimTask 1,
    .finishClaimTask 1 [], .failTask 1 "connection closed" .providerNetwork noReport noOverlay]

theorem promotion_never_wedges_twoDrops :
    RunLib.Always step Promotable (initial fun _ => 1) twoDrops :=
  promotion_never_wedges (fun _ => 1) twoDrops (by decide)

/-- While the third attempt waits, the issue is enqueued again. -/
theorem promotion_wedges_beside_retry :
    ¬ Promotable (RunLib.run step (initial fun _ => 1)
      (twoDrops ++ [.createAgentTask 9 plainTask])) := by
  intro promotable
  obtain ⟨result, promoted⟩ := promotable 5 [2]
  have refused : promoteDueDeferredTasks
      { RunLib.run step (initial fun _ => 1) (twoDrops ++ [.createAgentTask 9 plainTask]) with
        now := 0 + 5 }
      [2] = .error .uniqueViolation := rfl
  exact absurd (refused.symm.trans promoted) (by simp)

end MulticaOS.TaskQueue
