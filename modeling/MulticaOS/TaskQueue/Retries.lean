import MulticaOS.TaskQueue.Steps

/-!
Automatic retries: what a failed row and its retry child share, that a failed row has at
most one child, and how long a chain of retries can get.
-/

namespace MulticaOS.TaskQueue

structure Frozen (old new : Task) : Prop extends SameLineage old new where
  wasFailed : old.status = .failed
  failed : new.status = .failed
  failureReason : new.failureReason = old.failureReason
  issueId : new.issueId = old.issueId
  triggerCommentId : new.triggerCommentId = old.triggerCommentId
  coalescedCommentIds : new.coalescedCommentIds = old.coalescedCommentIds
  attribution : new.attribution = old.attribution

theorem Frozen.refl {task : Task} (failed : task.status = .failed) : Frozen task task :=
  ⟨⟨rfl, rfl, rfl, rfl, rfl, rfl, rfl, rfl, rfl, rfl⟩, failed, failed, rfl, rfl, rfl, rfl, rfl⟩

theorem Frozen.trans {first second third : Task} (before : Frozen first second)
    (after : Frozen second third) : Frozen first third where
  id := after.id.trans before.id
  agentId := after.agentId.trans before.agentId
  chatSessionId := after.chatSessionId.trans before.chatSessionId
  autopilotRunId := after.autopilotRunId.trans before.autopilotRunId
  createdAt := after.createdAt.trans before.createdAt
  attempt := after.attempt.trans before.attempt
  maxAttempts := after.maxAttempts.trans before.maxAttempts
  retryOfTaskId := after.retryOfTaskId.trans before.retryOfTaskId
  chatInputTaskId := after.chatInputTaskId.trans before.chatInputTaskId
  headSha := after.headSha.trans before.headSha
  wasFailed := before.wasFailed
  failed := after.failed
  failureReason := after.failureReason.trans before.failureReason
  issueId := after.issueId.trans before.issueId
  triggerCommentId := after.triggerCommentId.trans before.triggerCommentId
  coalescedCommentIds := after.coalescedCommentIds.trans before.coalescedCommentIds
  attribution := after.attribution.trans before.attribution

theorem RowStep.frozen {now : Nat} {action : Action} {old new : Task}
    (changed : RowStep now action old new)
    (failed : old.status = .failed) : Frozen old new := by
  have lineage := changed.lineage
  cases changed with
  | same => exact .refl failed
  | extendLease => exact ⟨lineage, failed, failed, rfl, rfl, rfl, rfl, rfl⟩
  | reassign => exact ⟨lineage, failed, failed, rfl, rfl, rfl, rfl, rfl⟩
  | reclaim dispatched => rw [failed] at dispatched; contradiction
  | deliver dispatched => rw [failed] at dispatched; contradiction
  | requeue dispatched => rw [failed] at dispatched; contradiction
  | start prepared => rw [failed] at prepared; exact absurd prepared (by decide)
  | wait dispatched => rw [failed] at dispatched; contradiction
  | pinSession active => rw [failed] at active; contradiction
  | complete running => rw [failed] at running; contradiction
  | linkIssue completed => rw [failed] at completed; contradiction
  | fail active => rw [failed] at active; contradiction
  | sweep live => rw [failed] at live; exact absurd live (by decide)
  | cancel live => rw [failed] at live; contradiction
  | promote deferred => rw [failed] at deferred; contradiction
  | promoteChannelChat deferred => rw [failed] at deferred; contradiction
  | mergeComment _ queued => rw [failed] at queued; contradiction
  | registerComment _ active => rw [failed] at active; contradiction

theorem retryEligible_spec {reason : FailureReason} {task : Task}
    (eligible : retryEligible reason task = true) :
    retryableReasons reason = true ∧ task.attempt < retryAttemptCeiling reason task.maxAttempts ∧
      task.autopilotRunId = none ∧ (task.issueId.isSome = true ∨ task.chatSessionId.isSome = true) := by
  simp only [retryEligible, Bool.and_eq_true, Bool.or_eq_true, decide_eq_true_eq,
    Option.isNone_iff_eq_none] at eligible
  obtain ⟨⟨⟨retryable, budget⟩, noRun⟩, linked⟩ := eligible
  exact ⟨retryable, budget, noRun, linked⟩

theorem maybeRetryPlan_eq {reason : FailureReason} {parent : Task} {now : Nat}
    (failed : parent.status = .failed) (why : parent.failureReason = some reason) :
    maybeRetryPlan parent now = failTaskRetry reason parent now := by
  simp only [maybeRetryPlan, failTaskRetry, failed, why, ne_eq, not_true_eq_false, if_false]
  by_cases retryable : retryableReasons reason = true
  · by_cases exhausted : retryAttemptCeiling reason parent.maxAttempts ≤ parent.attempt
    · have ineligible : retryEligible reason parent = false := by
        rw [← Bool.not_eq_true]
        intro eligible
        have budget := (retryEligible_spec eligible).2.1
        omega
      simp [retryable, exhausted, ineligible]
    · simp only [retryable, exhausted, Bool.not_true, Bool.false_eq_true, if_false, if_true]
      cases retryEligible reason parent <;> rfl
  · simp [retryable]

theorem maybeRetryPlan_spec {parent : Task} {now : Nat} {plan : RetryPlan}
    (planned : maybeRetryPlan parent now = some plan) :
    ∃ reason, parent.status = .failed ∧ parent.failureReason = some reason ∧
      retryEligible reason parent = true ∧
      plan = ⟨retryFireAt reason parent now, some (retryAttemptCeiling reason parent.maxAttempts)⟩ := by
  by_cases failed : parent.status = .failed
  · cases why : parent.failureReason with
    | none => simp [maybeRetryPlan, failed, why] at planned
    | some reason =>
        rw [maybeRetryPlan_eq failed why] at planned
        exact ⟨reason, failed, rfl, failTaskRetry_spec planned⟩
  · simp [maybeRetryPlan, failed] at planned

structure Retried (parent child : Task) : Prop where
  failed : parent.status = .failed
  reason : ∃ reason, parent.failureReason = some reason ∧ retryEligible reason parent = true ∧
    child.maxAttempts = retryAttemptCeiling reason parent.maxAttempts
  attempt : child.attempt = parent.attempt + 1
  agentId : child.agentId = parent.agentId
  issueId : child.issueId = parent.issueId
  chatSessionId : child.chatSessionId = parent.chatSessionId
  chatInputTaskId : child.chatInputTaskId = parent.chatInputTaskId

structure Inherits (parent child : Task) : Prop where
  triggerCommentId : child.triggerCommentId = parent.triggerCommentId
  coalescedCommentIds : child.coalescedCommentIds = parent.coalescedCommentIds
  attribution : child.attribution = parent.attribution

theorem Frozen.eligible {old new : Task} (frozen : Frozen old new) (reason : FailureReason) :
    retryEligible reason new = retryEligible reason old := by
  simp only [retryEligible, frozen.attempt, frozen.maxAttempts, frozen.autopilotRunId, frozen.issueId,
    frozen.chatSessionId]

theorem Retried.frozen {parent later child : Task} (retried : Retried parent child)
    (frozen : Frozen parent later) : Retried later child := by
  obtain ⟨reason, why, eligible, ceiling⟩ := retried.reason
  refine ⟨frozen.failed, ⟨reason, ?_, ?_, ?_⟩, ?_, ?_, ?_, ?_, ?_⟩
  · rw [frozen.failureReason, why]
  · rw [frozen.eligible, eligible]
  · rw [frozen.maxAttempts, ceiling]
  · rw [frozen.attempt, retried.attempt]
  · rw [frozen.agentId, retried.agentId]
  · rw [frozen.issueId, retried.issueId]
  · rw [frozen.chatSessionId, retried.chatSessionId]
  · rw [frozen.chatInputTaskId, retried.chatInputTaskId]

theorem Retried.rowStep {now : Nat} {action : Action} {parent child later : Task}
    (retried : Retried parent child)
    (changed : RowStep now action child later) : Retried parent later := by
  obtain ⟨reason, why, eligible, ceiling⟩ := retried.reason
  obtain ⟨-, -, -, linked⟩ := retryEligible_spec eligible
  have lineage := changed.lineage
  have issue : later.issueId = child.issueId := by
    rcases changed.issueId with same | ⟨-, -, noIssue, noChat⟩
    · exact same
    · rw [← retried.issueId, ← retried.chatSessionId, noIssue, noChat] at linked
      exact absurd linked (by decide)
  refine ⟨retried.failed, ⟨reason, why, eligible, lineage.maxAttempts.trans ceiling⟩, ?_,
    ?_, ?_, ?_, ?_⟩
  · exact lineage.attempt.trans retried.attempt
  · exact lineage.agentId.trans retried.agentId
  · exact issue.trans retried.issueId
  · exact lineage.chatSessionId.trans retried.chatSessionId
  · exact lineage.chatInputTaskId.trans retried.chatInputTaskId

theorem retried_retry {parent : Task} {reason : FailureReason} {fireAt : Option Nat} {overlay : Overlay}
    {now : Nat} {id : Id} (failed : parent.status = .failed) (why : parent.failureReason = some reason)
    (eligible : retryEligible reason parent = true) :
    Retried parent (parent.retry fireAt (some (retryAttemptCeiling reason parent.maxAttempts)) overlay
      now id) :=
  ⟨failed, ⟨reason, why, eligible, rfl⟩, rfl, rfl, rfl, rfl, rfl⟩

theorem inherits_retry (parent : Task) (fireAt : Option Nat) (maxAttempts : Option Int)
    (overlay : Overlay) (now : Nat) (id : Id) :
    Inherits parent (parent.retry fireAt maxAttempts overlay now id) :=
  ⟨rfl, rfl, rfl⟩

inductive SweptStep (db next : Db) (action : Action) : Prop
  | same (swept : next.swept = db.swept)
  | failed (rows : List Task) (swept : next.swept = db.swept ++ rows)
    (distinct : (rows.map Task.id).Nodup)
      (each : ∀ row ∈ rows, row ∈ next.tasks ∧ row.status = .failed ∧
        ∃ old ∈ db.tasks, old.id = row.id ∧ old.status ≠ .failed)
  | handled (index : Nat) (overlay : Overlay) (handler : action = .handleFailedTask index overlay)
      (swept : next.swept = db.swept.eraseIdx index)

theorem sweep_sweptStep {db : Db} {action : Action} {matching : Task → Bool} {change : Task → Task}
    (unique : (db.tasks.map Task.id).Nodup) (ids : ∀ task, (change task).id = task.id)
    (fails : ∀ task, (change task).status = .failed)
    (live : ∀ task, matching task = true → task.status ≠ .failed) :
    SweptStep db (sweep db (updateMany db matching change)) action := by
  rcases result : updateMany db matching change with error | ⟨stored, rows⟩
  · exact .same rfl
  · obtain ⟨rfl, rfl, -⟩ := updateMany_ok result
    refine .failed ((db.tasks.filter matching).map change) rfl ?_ ?_
    · have same : (db.tasks.filter matching).map (Task.id ∘ change) =
          (db.tasks.filter matching).map Task.id := List.map_congr_left fun task _ => ids task
      rw [List.map_map, same]
      exact unique.sublist (List.filter_sublist.map Task.id)
    · intro row member
      obtain ⟨old, listed, rfl⟩ := List.mem_map.mp member
      obtain ⟨inTable, matched⟩ := List.mem_filter.mp listed
      refine ⟨?_, fails old, old, inTable, (ids old).symm, live old matched⟩
      exact List.mem_map.mpr ⟨old, inTable, if_pos matched⟩

theorem active_ne_failed {status : Status} (active : status.active = true) : status ≠ .failed := by
  rintro rfl
  contradiction

theorem step_swept {db : Db} (unique : (db.tasks.map Task.id).Nodup) (action : Action) :
    SweptStep db (step db action) action := by
  cases step_shape db action with
  | table shape =>
      rw [TableOnly] at shape
      exact .same (by rw [shape])
  | elapsed seconds next_eq => exact .same (by rw [next_eq])
  | limited agent limit by_set unlocked limits next_eq => exact .same (by rw [next_eq])
  | locked agent below next_eq => exact .same (by rw [next_eq])
  | released agent next_eq => exact .same (by rw [next_eq]; rfl)
  | tokened next_eq => exact .same (by rw [next_eq])
  | swept next_eq ids fails live =>
      rw [next_eq]
      refine sweep_sweptStep unique ids fails fun task matched => ?_
      rcases live task matched with queued | active
      · simp [queued]
      · exact active_ne_failed active
  | handled index overlay by_handler swept next_eq => exact .handled index overlay by_handler swept

structure Chains (db : Db) : Prop extends WellFormed db where
  swept : ∀ snapshot ∈ db.swept, ∃ task ∈ db.tasks, Frozen snapshot task
  sweptOnce : (db.swept.map Task.id).Nodup
  unretried : ∀ snapshot ∈ db.swept, ∀ child ∈ db.tasks, child.retryOfTaskId ≠ some snapshot.id
  parents : ∀ child ∈ db.tasks, ∀ id, child.retryOfTaskId = some id →
    ∃ parent ∈ db.tasks, parent.id = id ∧ Retried parent child
  single : ∀ left ∈ db.tasks, ∀ right ∈ db.tasks, ∀ id, left.retryOfTaskId = some id →
    right.retryOfTaskId = some id → left.id = right.id
  roots : ∀ task ∈ db.tasks, task.retryOfTaskId = none → task.attempt = 1

theorem initial_chains (limits : Id → Nat) : Chains (initial limits) := by
  refine ⟨initial_wellFormed limits, ?_, ?_, ?_, ?_, ?_, ?_⟩ <;> simp [initial]

structure NewParent (db next : Db) (parent child : Task) : Prop where
  stored : parent ∈ next.tasks
  link : child.retryOfTaskId = some parent.id
  retried : Retried parent child
  inherits : Inherits parent child
  unretried : ∀ other ∈ db.tasks, other.retryOfTaskId ≠ some parent.id
  unswept : ∀ snapshot ∈ next.swept, snapshot.id ≠ parent.id

theorem eraseIdx_unswept {swept : List Task} (distinct : (swept.map Task.id).Nodup) {index : Nat}
    {snapshot : Task} (found : swept[index]? = some snapshot) :
    ∀ other ∈ swept.eraseIdx index, other.id ≠ snapshot.id := by
  intro other member same
  rw [List.mem_eraseIdx_iff_getElem?] at member
  obtain ⟨position, different, listed⟩ := member
  have positions : (swept.map Task.id)[position]? = (swept.map Task.id)[index]? := by
    simp [listed, found, same]
  obtain ⟨bound, -⟩ := List.getElem?_eq_some_iff.mp listed
  exact different ((List.getElem?_inj (by simpa using bound) distinct).mp positions)

theorem Moved.frozen {now : Nat} {action : Action} {old new : Task} (moved : Moved now action old new)
    (failed : old.status = .failed) : Frozen old new := by
  cases moved with
  | edit changed => exact changed.frozen failed
  | claim queued =>
      rw [failed] at queued
      contradiction

theorem Retried.moved {now : Nat} {action : Action} {parent child later : Task}
    (retried : Retried parent child)
    (moved : Moved now action child later) : Retried parent later := by
  cases moved with
  | edit changed => exact retried.rowStep changed
  | claim =>
      exact ⟨retried.failed, retried.reason, retried.attempt, retried.agentId, retried.issueId,
        retried.chatSessionId, retried.chatInputTaskId⟩

section Step

variable {db : Db} {action : Action}

theorem Origin.newParent {child : Task} (chains : Chains db)
    (origin : Origin db action (step db action) child) (retry : child.retryOfTaskId ≠ none) :
    ∃ parent, NewParent db (step db action) parent child := by
  cases origin with
  | enqueued unlinked => exact absurd unlinked retry
  | @failed parent failed error reason report overlay byFail member active fails stored eligible
      row_eq =>
      have sameId : failed.id = parent.id := by rw [fails]; rfl
      have notFailed : ∀ task ∈ db.tasks, task.id = failed.id → task.status ≠ .failed := by
        intro task listed same
        rw [List.inj_on_of_nodup_map chains.unique listed member (same.trans sameId)]
        exact active_ne_failed active
      refine ⟨failed, stored, by rw [row_eq]; rfl, ?_, by rw [row_eq]; exact inherits_retry .., ?_, ?_⟩
      · rw [row_eq, fails]
        exact retried_retry rfl rfl eligible
      · intro other listed link
        obtain ⟨old, oldListed, oldId, retried⟩ := chains.parents other listed _ link
        exact notFailed old oldListed oldId retried.failed
      · intro snapshot waiting same
        have table := @step_tableOnly db action (by rw [byFail]; rfl)
        rw [TableOnly] at table
        rw [table] at waiting
        obtain ⟨task, listed, frozen⟩ := chains.swept snapshot waiting
        exact notFailed task listed (frozen.id.trans same) frozen.failed
  | @swept index snapshot parent plan overlay byHandler returned member stored same planned row_eq =>
      obtain ⟨task, listed, frozen⟩ := chains.swept snapshot (List.mem_of_getElem? returned)
      rw [List.inj_on_of_nodup_map chains.unique listed member (frozen.id.trans same.symm)] at frozen
      obtain ⟨reason, -, why, eligible, rfl⟩ := maybeRetryPlan_spec planned
      refine ⟨parent, stored, by rw [row_eq]; rfl, ?_, by rw [row_eq]; exact inherits_retry .., ?_, ?_⟩
      · rw [row_eq, ← frozen.maxAttempts]
        exact retried_retry frozen.failed (frozen.failureReason.trans why)
          ((frozen.eligible reason).trans eligible)
      · intro other otherListed link
        exact chains.unretried snapshot (List.mem_of_getElem? returned) other otherListed
          (by rw [link, same])
      · intro other waiting otherSame
        rw [byHandler, step, (handleFailedTask_rest index overlay rfl).1] at waiting
        exact eraseIdx_unswept chains.sweptOnce returned other waiting (otherSame.trans same)

theorem Chains.step_row {row : Task} (chains : Chains db) (member : row ∈ (step db action).tasks) :
    (∃ old ∈ db.tasks, Moved db.now action old row) ∨
      (row.id = db.nextId ∧ ((row.retryOfTaskId = none ∧ row.attempt = 1) ∨
        ∃ parent, NewParent db (step db action) parent row)) := by
  rcases step_mem chains.unique member with old | ⟨new, origin⟩
  · exact Or.inl old
  · refine Or.inr ⟨new.id, ?_⟩
    by_cases retry : row.retryOfTaskId = none
    · cases origin with
      | enqueued unlinked first => exact Or.inl ⟨retry, first⟩
      | failed byFail member active fails stored eligible row_eq =>
          rw [row_eq] at retry
          contradiction
      | swept byHandler returned member stored same planned row_eq =>
          rw [row_eq] at retry
          contradiction
    · exact Or.inr (origin.newParent chains retry)

theorem Chains.step_swept (chains : Chains db) :
    (∀ snapshot ∈ (step db action).swept, ∃ task ∈ (step db action).tasks, Frozen snapshot task) ∧
      ((step db action).swept.map Task.id).Nodup := by
  have kept : ∀ snapshot ∈ db.swept, ∃ task ∈ (step db action).tasks, Frozen snapshot task := by
    intro snapshot waiting
    obtain ⟨task, listed, frozen⟩ := chains.swept snapshot waiting
    obtain ⟨row, member, moved⟩ := step_kept chains.unique action listed
    exact ⟨row, member, frozen.trans (moved.frozen frozen.failed)⟩
  cases TaskQueue.step_swept chains.unique action with
  | same swept =>
      rw [swept]
      exact ⟨kept, chains.sweptOnce⟩
  | failed rows swept distinct each =>
      rw [swept]
      refine ⟨fun snapshot waiting => ?_, ?_⟩
      · rcases List.mem_append.mp waiting with before | now
        · exact kept snapshot before
        · obtain ⟨member, failed, -⟩ := each snapshot now
          exact ⟨snapshot, member, .refl failed⟩
      · rw [List.map_append, List.nodup_append]
        refine ⟨chains.sweptOnce, distinct, ?_⟩
        intro id before other now same
        obtain ⟨snapshot, waiting, rfl⟩ := List.mem_map.mp before
        obtain ⟨row, inRows, rfl⟩ := List.mem_map.mp now
        obtain ⟨-, -, old, listed, oldId, notFailed⟩ := each row inRows
        obtain ⟨task, taskListed, frozen⟩ := chains.swept snapshot waiting
        have sameTask := List.inj_on_of_nodup_map chains.unique taskListed listed
          (frozen.id.trans (same.trans oldId.symm))
        exact notFailed (sameTask ▸ frozen.failed)
  | handled index overlay handler swept =>
      rw [swept]
      refine ⟨fun snapshot waiting => kept snapshot (List.mem_of_mem_eraseIdx waiting), ?_⟩
      exact chains.sweptOnce.sublist ((List.eraseIdx_sublist _ _).map Task.id)

theorem Chains.waiting_row (chains : Chains db) {snapshot : Task}
    (waiting : snapshot ∈ (step db action).swept) :
    snapshot ∈ db.swept ∨ ∃ old ∈ db.tasks, old.id = snapshot.id ∧ old.status ≠ .failed := by
  cases TaskQueue.step_swept chains.unique action with
  | same swept => exact Or.inl (swept ▸ waiting)
  | failed rows swept distinct each =>
      rw [swept] at waiting
      rcases List.mem_append.mp waiting with before | now
      · exact Or.inl before
      · obtain ⟨-, -, alive⟩ := each snapshot now
        exact Or.inr alive
  | handled index overlay handler swept =>
      rw [swept] at waiting
      exact Or.inl (List.mem_of_mem_eraseIdx waiting)

theorem Chains.step_unretried (chains : Chains db) :
    ∀ snapshot ∈ (step db action).swept, ∀ child ∈ (step db action).tasks,
      child.retryOfTaskId ≠ some snapshot.id := by
  intro snapshot waiting child member link
  rcases chains.step_row member with ⟨old, listed, moved⟩ | ⟨-, ⟨unlinked, -⟩ | ⟨parent, new⟩⟩
  · rw [moved.lineage.retryOfTaskId] at link
    rcases chains.waiting_row waiting with before | ⟨task, taskListed, same, notFailed⟩
    · exact chains.unretried snapshot before old listed link
    · obtain ⟨parent, parentListed, parentId, retried⟩ := chains.parents old listed _ link
      have sameTask := List.inj_on_of_nodup_map chains.unique parentListed taskListed
        (parentId.trans same.symm)
      exact notFailed (sameTask ▸ retried.failed)
  · rw [unlinked] at link
    contradiction
  · have same : parent.id = snapshot.id := Option.some.inj (new.link.symm.trans link)
    exact new.unswept snapshot waiting same.symm

theorem Chains.step_parents (chains : Chains db) :
    ∀ child ∈ (step db action).tasks, ∀ id, child.retryOfTaskId = some id →
      ∃ parent ∈ (step db action).tasks, parent.id = id ∧ Retried parent child := by
  intro child member id link
  rcases chains.step_row member with ⟨old, listed, moved⟩ | ⟨-, ⟨unlinked, -⟩ | ⟨parent, new⟩⟩
  · rw [moved.lineage.retryOfTaskId] at link
    obtain ⟨parent, parentListed, parentId, retried⟩ := chains.parents old listed id link
    obtain ⟨row, rowMember, parentMoved⟩ := step_kept chains.unique action parentListed
    have frozen := parentMoved.frozen retried.failed
    exact ⟨row, rowMember, frozen.id.trans parentId, (retried.frozen frozen).moved moved⟩
  · rw [unlinked] at link
    contradiction
  · exact ⟨parent, new.stored, Option.some.inj (new.link.symm.trans link), new.retried⟩

theorem Chains.step_single (chains : Chains db) :
    ∀ left ∈ (step db action).tasks, ∀ right ∈ (step db action).tasks, ∀ id,
      left.retryOfTaskId = some id → right.retryOfTaskId = some id → left.id = right.id := by
  have beside : ∀ old ∈ db.tasks, ∀ parent child id, NewParent db (step db action) parent child →
      old.retryOfTaskId = some id → child.retryOfTaskId = some id → False := by
    intro old listed parent child id new oldLink childLink
    exact new.unretried old listed (oldLink.trans (childLink.symm.trans new.link))
  intro left leftMember right rightMember id leftLink rightLink
  rcases chains.step_row leftMember with
    ⟨oldLeft, leftListed, leftMoved⟩ | ⟨leftId, ⟨unlinked, -⟩ | ⟨leftParent, leftNew⟩⟩
  · have oldLeftLink := leftMoved.lineage.retryOfTaskId.symm.trans leftLink
    rcases chains.step_row rightMember with
      ⟨oldRight, rightListed, rightMoved⟩ | ⟨-, ⟨unlinked, -⟩ | ⟨rightParent, rightNew⟩⟩
    · rw [leftMoved.lineage.id, rightMoved.lineage.id]
      exact chains.single oldLeft leftListed oldRight rightListed id oldLeftLink
        (rightMoved.lineage.retryOfTaskId.symm.trans rightLink)
    · rw [unlinked] at rightLink
      contradiction
    · exact (beside oldLeft leftListed rightParent right id rightNew oldLeftLink rightLink).elim
  · rw [unlinked] at leftLink
    contradiction
  · rcases chains.step_row rightMember with
      ⟨oldRight, rightListed, rightMoved⟩ | ⟨rightId, -⟩
    · have oldRightLink := rightMoved.lineage.retryOfTaskId.symm.trans rightLink
      exact (beside oldRight rightListed leftParent left id leftNew oldRightLink leftLink).elim
    · exact leftId.trans rightId.symm

end Step

theorem Chains.step {db : Db} (chains : Chains db) (action : Action) : Chains (step db action) := by
  obtain ⟨swept, sweptOnce⟩ := @Chains.step_swept db action chains
  refine ⟨chains.toWellFormed.step action, swept, sweptOnce, chains.step_unretried,
    chains.step_parents, chains.step_single, fun task member root => ?_⟩
  rcases chains.step_row member with ⟨old, listed, moved⟩ | ⟨-, ⟨-, first⟩ | ⟨parent, new⟩⟩
  · rw [moved.lineage.attempt]
    exact chains.roots old listed (moved.lineage.retryOfTaskId.symm.trans root)
  · exact first
  · rw [new.link] at root
    contradiction

theorem reachable_chains (limits : Id → Nat) (actions : List Action) :
    Chains (RunLib.run step (initial limits) actions) :=
  RunLib.run_invariant (initial_chains limits) (fun _ action chains => chains.step action) actions

def Action.foldsComment : Action → Bool
  | .mergeCommentIntoPendingTask _ _ _ _ => true
  | .registerPlannedCommentForActiveTask _ _ _ _ => true
  | _ => false

theorem Inherits.refl (task : Task) : Inherits task task := ⟨rfl, rfl, rfl⟩

theorem Inherits.trans {first second third : Task} (before : Inherits first second)
    (after : Inherits second third) : Inherits first third where
  triggerCommentId := after.triggerCommentId.trans before.triggerCommentId
  coalescedCommentIds := after.coalescedCommentIds.trans before.coalescedCommentIds
  attribution := after.attribution.trans before.attribution

theorem Inherits.symm {left right : Task} (inherits : Inherits left right) : Inherits right left where
  triggerCommentId := inherits.triggerCommentId.symm
  coalescedCommentIds := inherits.coalescedCommentIds.symm
  attribution := inherits.attribution.symm

theorem Moved.inherits {now : Nat} {action : Action} {old new : Task} (moved : Moved now action old new)
    (quiet : action.foldsComment = false) : Inherits old new := by
  cases moved with
  | claim => exact ⟨rfl, rfl, rfl⟩
  | edit changed =>
      cases changed with
      | mergeComment by_merge =>
          rw [by_merge] at quiet
          contradiction
      | registerComment by_register =>
          rw [by_register] at quiet
          contradiction
      | _ => exact ⟨rfl, rfl, rfl⟩

def ChildrenInherit (db : Db) : Prop :=
  ∀ child ∈ db.tasks, ∀ parent ∈ db.tasks, child.retryOfTaskId = some parent.id → Inherits parent child

theorem Chains.inserted_inherits {db : Db} {action : Action} (chains : Chains db) {parent child : Task}
    (parentMember : parent ∈ (TaskQueue.step db action).tasks)
    (childMember : child ∈ (TaskQueue.step db action).tasks) (new : db.nextId ≤ child.id)
    (link : child.retryOfTaskId = some parent.id) : Inherits parent child := by
  rcases chains.step_row childMember with ⟨old, listed, moved⟩ | ⟨-, ⟨unlinked, -⟩ | ⟨copied, inserted⟩⟩
  · have below := chains.fresh old listed
    rw [← moved.lineage.id] at below
    exact absurd new (Nat.not_le_of_lt below)
  · rw [unlinked] at link
    contradiction
  · have same : copied.id = parent.id := Option.some.inj (inserted.link.symm.trans link)
    have unique := (chains.toWellFormed.step action).unique
    rw [← List.inj_on_of_nodup_map unique inserted.stored parentMember same]
    exact inserted.inherits

theorem ChildrenInherit.step {db : Db} {action : Action} (inherit : ChildrenInherit db)
    (chains : Chains db) (quiet : action.foldsComment = false) :
    ChildrenInherit (TaskQueue.step db action) := by
  intro child childMember parent parentMember link
  by_cases new : db.nextId ≤ child.id
  · exact chains.inserted_inherits parentMember childMember new link
  · rcases chains.step_row childMember with ⟨oldChild, listed, moved⟩ | ⟨fresh, -⟩
    · rw [moved.lineage.retryOfTaskId] at link
      obtain ⟨oldParent, parentListed, parentId, retried⟩ := chains.parents oldChild listed _ link
      obtain ⟨row, rowMember, parentMoved⟩ := step_kept chains.unique action parentListed
      have unique := (chains.toWellFormed.step action).unique
      have same : row = parent := List.inj_on_of_nodup_map unique rowMember parentMember
        (parentMoved.lineage.id.trans parentId)
      have before := inherit oldChild listed oldParent parentListed (parentId ▸ link)
      exact same ▸ (parentMoved.inherits quiet).symm.trans (before.trans (moved.inherits quiet))
    · exact absurd (Nat.le_of_eq fresh.symm) new

theorem childrenInherit_run {actions : List Action} {db : Db} (inherit : ChildrenInherit db)
    (chains : Chains db) (quiet : ∀ action ∈ actions, action.foldsComment = false) :
    ChildrenInherit (RunLib.run step db actions) := by
  induction actions generalizing db with
  | nil => exact inherit
  | cons first rest ih =>
      have now := quiet first List.mem_cons_self
      exact ih (inherit.step chains now) (chains.step first)
        fun action later => quiet action (List.mem_cons_of_mem _ later)

/-- The rows of a chain of retries, the newest first. -/
inductive RetryChain (tasks : List Task) (root : Task) : List Task → Prop
  | root (member : root ∈ tasks) (first : root.retryOfTaskId = none) : RetryChain tasks root [root]
  | retry {child parent : Task} {older : List Task} (member : child ∈ tasks)
      (link : child.retryOfTaskId = some parent.id) (chain : RetryChain tasks root (parent :: older)) :
      RetryChain tasks root (child :: parent :: older)

theorem RetryChain.member {tasks rows : List Task} {root row : Task}
    (chain : RetryChain tasks root rows)
    (listed : row ∈ rows) : row ∈ tasks := by
  induction chain with
  | root member => exact List.mem_singleton.mp listed ▸ member
  | retry member link chain ih =>
      rcases List.mem_cons.mp listed with rfl | older
      · exact member
      · exact ih older

theorem retryAttemptCeiling_bounds (reason : FailureReason) (budget : Int) :
    budget ≤ retryAttemptCeiling reason budget ∧ retryAttemptCeiling reason budget ≤ max budget 3 ∧
      (budget ≤ 1 → retryAttemptCeiling reason budget = budget) := by
  by_cases small : budget ≤ 1
  · have ceiling : retryAttemptCeiling reason budget = budget := if_pos small
    exact ⟨by omega, by omega, fun _ => ceiling⟩
  · by_cases raised : reason = .providerNetwork ∧ budget < providerNetworkMaxAttempts
    · have ceiling : retryAttemptCeiling reason budget = providerNetworkMaxAttempts :=
        (if_neg small).trans (if_pos raised)
      simp only [providerNetworkMaxAttempts] at raised ceiling
      exact ⟨by omega, by omega, fun exhausted => absurd exhausted small⟩
    · have ceiling : retryAttemptCeiling reason budget = budget :=
        (if_neg small).trans (if_neg raised)
      exact ⟨by omega, by omega, fun _ => ceiling⟩

theorem Chains.retried {db : Db} (chains : Chains db) {parent child : Task}
    (parentMember : parent ∈ db.tasks)
    (childMember : child ∈ db.tasks) (link : child.retryOfTaskId = some parent.id) :
    Retried parent child := by
  obtain ⟨stored, listed, same, retried⟩ := chains.parents child childMember _ link
  rw [← List.inj_on_of_nodup_map chains.unique listed parentMember same]
  exact retried

structure SameOwner (root row : Task) : Prop where
  agentId : row.agentId = root.agentId
  issueId : row.issueId = root.issueId
  chatSessionId : row.chatSessionId = root.chatSessionId
  chatInputTaskId : row.chatInputTaskId = root.chatInputTaskId

theorem Retried.sameOwner {root parent child : Task} (retried : Retried parent child)
    (before : SameOwner root parent) : SameOwner root child where
  agentId := retried.agentId.trans before.agentId
  issueId := retried.issueId.trans before.issueId
  chatSessionId := retried.chatSessionId.trans before.chatSessionId
  chatInputTaskId := retried.chatInputTaskId.trans before.chatInputTaskId

theorem Retried.budget {parent child : Task} (retried : Retried parent child) :
    parent.maxAttempts ≤ child.maxAttempts ∧ child.maxAttempts ≤ max parent.maxAttempts 3 ∧
      child.attempt ≤ child.maxAttempts := by
  obtain ⟨reason, -, eligible, ceiling⟩ := retried.reason
  obtain ⟨-, below, -, -⟩ := retryEligible_spec eligible
  obtain ⟨grows, bounded, -⟩ := retryAttemptCeiling_bounds reason parent.maxAttempts
  have attempt := retried.attempt
  omega

theorem Chains.attempt_le {db : Db} (chains : Chains db) {task : Task} (member : task ∈ db.tasks) :
    task.attempt ≤ max task.maxAttempts 1 := by
  cases link : task.retryOfTaskId with
  | none =>
      have first := chains.roots task member link
      omega
  | some parentId =>
      obtain ⟨parent, -, -, retried⟩ := chains.parents task member parentId link
      have within := retried.budget.2.2
      omega

section Chain

variable {db : Db} {root : Task} {rows : List Task}

theorem Chains.chain_head (chains : Chains db) (chain : RetryChain db.tasks root rows) :
    ∃ newest older, rows = newest :: older ∧ newest.attempt = rows.length ∧
      newest.maxAttempts ≤ max root.maxAttempts 3 := by
  induction chain with
  | root member first =>
      refine ⟨root, [], rfl, ?_, by omega⟩
      simpa using chains.roots root member first
  | @retry child parent older member link chain ih =>
      obtain ⟨newest, rest, rows_eq, attempt, bounded⟩ := ih
      obtain ⟨rfl, rfl⟩ := List.cons.inj rows_eq
      have retried := chains.retried (chain.member List.mem_cons_self) member link
      obtain ⟨-, within, -⟩ := retried.budget
      refine ⟨child, parent :: older, rfl, ?_, by omega⟩
      rw [retried.attempt, attempt]
      simp

theorem Chains.chain_length (chains : Chains db) (chain : RetryChain db.tasks root rows) :
    (rows.length : Int) ≤ max root.maxAttempts 3 := by
  obtain ⟨newest, older, rfl, attempt, bounded⟩ := chains.chain_head chain
  have within := chains.attempt_le (chain.member List.mem_cons_self)
  omega

theorem Chains.chain_alone (chains : Chains db) (chain : RetryChain db.tasks root rows)
    (unretryable : root.maxAttempts ≤ 1 ∨ root.autopilotRunId.isSome = true) : rows = [root] := by
  induction chain with
  | root => rfl
  | @retry child parent older member link chain ih =>
      -- the oldest retry is a child of the root, which was not eligible
      obtain ⟨rfl, rfl⟩ := List.cons.inj ih
      have parentMember := chain.member List.mem_cons_self
      obtain ⟨reason, -, eligible, -⟩ := (chains.retried parentMember member link).reason
      obtain ⟨-, below, noRun, -⟩ := retryEligible_spec eligible
      cases chain with
      | root stored first =>
          have attempt := chains.roots parent stored first
          obtain ⟨-, -, exhausted⟩ := retryAttemptCeiling_bounds reason parent.maxAttempts
          rcases unretryable with small | run
          · have ceiling := exhausted small
            omega
          · rw [noRun] at run
            contradiction

theorem Chains.chain_owner (chains : Chains db) (chain : RetryChain db.tasks root rows) :
    ∀ row ∈ rows, SameOwner root row := by
  induction chain with
  | root =>
      intro row listed
      rw [List.mem_singleton.mp listed]
      exact ⟨rfl, rfl, rfl, rfl⟩
  | @retry child parent older member link chain ih =>
      intro row listed
      rcases List.mem_cons.mp listed with rfl | earlier
      · have retried := chains.retried (chain.member List.mem_cons_self) member link
        exact retried.sameOwner (ih parent List.mem_cons_self)
      · exact ih row earlier

theorem ChildrenInherit.chain (inherit : ChildrenInherit db) (chain : RetryChain db.tasks root rows) :
    ∀ row ∈ rows, Inherits root row := by
  induction chain with
  | root =>
      intro row listed
      rw [List.mem_singleton.mp listed]
      exact .refl root
  | @retry child parent older member link chain ih =>
      intro row listed
      rcases List.mem_cons.mp listed with rfl | earlier
      · exact (ih parent List.mem_cons_self).trans
          (inherit row member parent (chain.member List.mem_cons_self) link)
      · exact ih row earlier

end Chain

structure ChainsBounded (db : Db) : Prop where
  attempts : ∀ task ∈ db.tasks, task.attempt ≤ max task.maxAttempts 1
  oneChild : ∀ parent ∈ db.tasks, ∀ left ∈ db.tasks, ∀ right ∈ db.tasks,
    left.retryOfTaskId = some parent.id → right.retryOfTaskId = some parent.id → left = right
  child : ∀ parent ∈ db.tasks, ∀ child ∈ db.tasks, child.retryOfTaskId = some parent.id →
    parent.status = .failed ∧ child.attempt = parent.attempt + 1 ∧
      parent.maxAttempts ≤ child.maxAttempts
  length : ∀ root rows, RetryChain db.tasks root rows →
    root.attempt = 1 ∧ (rows.length : Int) ≤ max root.maxAttempts 3
  alone : ∀ root rows, RetryChain db.tasks root rows →
    root.maxAttempts ≤ 1 ∨ root.autopilotRunId.isSome = true → rows = [root]
  owner : ∀ root rows, RetryChain db.tasks root rows → ∀ row ∈ rows, SameOwner root row

theorem RetryChain.rooted {tasks rows : List Task} {root : Task} (chain : RetryChain tasks root rows) :
    root ∈ tasks ∧ root.retryOfTaskId = none := by
  induction chain with
  | root member first => exact ⟨member, first⟩
  | retry member link chain ih => exact ih

theorem Chains.bounded {db : Db} (chains : Chains db) : ChainsBounded db := by
  refine ⟨fun task member => chains.attempt_le member, ?_, ?_, ?_, ?_, ?_⟩
  · intro parent _ left leftMember right rightMember leftLink rightLink
    exact List.inj_on_of_nodup_map chains.unique leftMember rightMember
      (chains.single left leftMember right rightMember _ leftLink rightLink)
  · intro parent parentMember child childMember link
    have retried := chains.retried parentMember childMember link
    exact ⟨retried.failed, retried.attempt, retried.budget.1⟩
  · intro root rows chain
    obtain ⟨member, first⟩ := chain.rooted
    exact ⟨chains.roots root member first, chains.chain_length chain⟩
  · intro root rows chain unretryable
    exact chains.chain_alone chain unretryable
  · intro root rows chain
    exact chains.chain_owner chain

/-- In every run the retry chains are bounded; a child is inserted with the comments and the
attribution of its parent, and all rows of a chain keep them unless a comment is folded into
one of the rows; and the two retry paths make the same plan for one row and reason. -/
theorem retry_chains_bounded (limits : Id → Nat) (actions : List Action) :
    ChainsBounded (RunLib.run step (initial limits) actions) ∧
    (∀ action, ∀ parent ∈ (step (RunLib.run step (initial limits) actions) action).tasks,
      ∀ child ∈ (step (RunLib.run step (initial limits) actions) action).tasks,
      (RunLib.run step (initial limits) actions).nextId ≤ child.id →
        child.retryOfTaskId = some parent.id → Inherits parent child) ∧
    ((∀ action ∈ actions, action.foldsComment = false) →
      ∀ root rows, RetryChain (RunLib.run step (initial limits) actions).tasks root rows →
        ∀ row ∈ rows, Inherits root row) ∧
    (∀ task : Task, ∀ reason failedAt now error report keepsLease keepsWait,
      maybeRetryPlan (task.fail failedAt error reason report) now = failTaskRetry reason task now ∧
      maybeRetryPlan (task.sweep failedAt error reason keepsLease keepsWait) now =
        failTaskRetry reason task now) := by
  have chains := reachable_chains limits actions
  refine ⟨chains.bounded, ?_, ?_, ?_⟩
  · intro action parent parentMember child childMember new link
    exact chains.inserted_inherits parentMember childMember new link
  · intro quiet root rows chain
    have start : ChildrenInherit (initial limits) := by
      intro child member
      exact absurd member List.not_mem_nil
    exact (childrenInherit_run start (initial_chains limits) quiet).chain chain
  · intro task reason failedAt now error report keepsLease keepsWait
    exact ⟨maybeRetryPlan_eq rfl rfl, maybeRetryPlan_eq rfl rfl⟩

end MulticaOS.TaskQueue
