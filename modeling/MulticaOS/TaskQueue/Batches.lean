import MulticaOS.IssueTable.Tables
import MulticaOS.TaskQueue.Retries

/-!
`HandleFailedTasks` over a whole batch: which failed tasks it retries, which issues it resets
to `todo`, and when neither depends on the order of the batch.
-/

namespace MulticaOS.TaskQueue

structure IssueRow where
  id : Id
  status : IssueTable.Status
  deriving DecidableEq

/-- The tables, the maps `processedIssues` and `retriedIssues`, and what the loop has done: the
children it created and the issues it reset. -/
structure Batch where
  db : Db
  issues : List IssueRow
  processedIssues : List Id
  retriedIssues : List Id
  children : List Task
  resets : List Id

def startBatch (db : Db) (issues : List IssueRow) : Batch := ⟨db, issues, [], [], [], []⟩

def getIssue (issues : List IssueRow) (id : Id) : Option IssueRow :=
  issues.find? fun issue => issue.id = id

def hasActiveTaskForIssue (db : Db) (issue : Id) : Bool :=
  db.tasks.any fun task => task.issueId = some issue && (task.status = .queued || task.status.active)

def updateIssueStatus (id : Id) (status : IssueTable.Status) (issues : List IssueRow) : List IssueRow :=
  TableLib.updateWhere (fun issue => issue.id = id) (fun issue => { issue with status := status }) issues

/-- The auto-retry of one failed task; `overlay` is what `buildRuntimeMCPOverlay` answers for it. -/
def retryTask (overlay : Task → Overlay) (batch : Batch) (task : Task) : Batch :=
  match maybeRetryFailedTask batch.db task (overlay task) with
  | .ok (db, some child) =>
      { batch with
        db := db
        retriedIssues := batch.retriedIssues ++ task.issueId.toList
        children := batch.children ++ [child] }
  | .ok (_, none) => batch
  | .error _ => batch

def resetIssue (batch : Batch) (issue : Id) : Batch :=
  match getIssue batch.issues issue with
  | none => batch
  | some row =>
      if row.status = .inProgress ∧ issue ∉ batch.processedIssues ∧ issue ∉ batch.retriedIssues then
        let processed := batch.processedIssues ++ [issue]
        if hasActiveTaskForIssue batch.db issue then { batch with processedIssues := processed }
        else
          { batch with
            processedIssues := processed
            issues := updateIssueStatus issue .todo batch.issues
            resets := batch.resets ++ [issue] }
      else batch

def handleTask (overlay : Task → Overlay) (batch : Batch) (task : Task) : Batch :=
  let retried := retryTask overlay batch task
  match task.issueId with
  | none => retried
  | some issue => resetIssue retried issue

def handleFailedTasks (overlay : Task → Overlay) (db : Db) (issues : List IssueRow) (tasks : List Task) :
    Batch :=
  tasks.foldl (handleTask overlay) (startBatch db issues)

def Task.unnamed (task : Task) : Task := { task with id := 0 }

structure SameOutcome (left right : Batch) : Prop where
  resets : ∀ issue, issue ∈ left.resets ↔ issue ∈ right.resets
  children : ∀ child, child ∈ left.children.map Task.unnamed ↔ child ∈ right.children.map Task.unnamed

/-- The order of the batch decides nothing, and an issue that was reset has no live task. -/
structure OrderIrrelevant (overlay : Task → Overlay) (db : Db) (issues : List IssueRow)
    (tasks : List Task) : Prop where
  same : ∀ others : List Task, others.Perm tasks →
    SameOutcome (handleFailedTasks overlay db issues others) (handleFailedTasks overlay db issues tasks)
  idle : ∀ issue ∈ (handleFailedTasks overlay db issues tasks).resets,
    ∀ task ∈ (handleFailedTasks overlay db issues tasks).db.tasks,
      task.issueId = some issue → task.status.live = false

structure FreshlyFailed (db : Db) (tasks : List Task) : Prop where
  stored : ∀ task ∈ tasks, task ∈ db.tasks
  distinct : tasks.Nodup

def immediateRetry (now : Nat) (task : Task) : Bool :=
  match maybeRetryPlan task now with
  | none => false
  | some plan => plan.fireAt.isNone

def pairOccupied (db : Db) (task : Task) : Bool :=
  db.tasks.any fun row => row.status.pending && row.samePair task

def resettable (db : Db) (issues : List IssueRow) (issue : Id) : Bool :=
  (getIssue issues issue).any (fun row => row.status = .inProgress) && !hasActiveTaskForIssue db issue

/-- No two tasks of the batch ask for the same room in the index, unless it is taken already. -/
def RetriesApart (db : Db) (tasks : List Task) : Prop :=
  ∀ left ∈ tasks, ∀ right ∈ tasks, immediateRetry db.now left = true →
    immediateRetry db.now right = true → left.samePair right = true → left ≠ right →
    pairOccupied db left = true

structure UniformBatch (db : Db) (issues : List IssueRow) (tasks : List Task) : Prop where
  retries : RetriesApart db tasks
  verdicts : ∀ issue, resettable db issues issue = true → ∀ left ∈ tasks, ∀ right ∈ tasks,
    left.issueId = some issue → right.issueId = some issue →
    (maybeRetryPlan left db.now = none ↔ maybeRetryPlan right db.now = none)
  deferred : ∀ issue, resettable db issues issue = true → ∀ task ∈ tasks, task.issueId = some issue →
    maybeRetryPlan task db.now = none →
    ∀ row ∈ db.tasks, row.issueId = some issue → row.status ≠ .deferred

section Task

variable {overlay : Task → Overlay} {batch : Batch} {task : Task} {issue : Id}

def retryChild (overlay : Task → Overlay) (now : Nat) (task : Task) (plan : RetryPlan) (id : Id) : Task :=
  task.retry plan.fireAt plan.maxAttempts (overlay task) now id

def Batch.spawn (batch : Batch) (task child : Task) : Batch :=
  { batch with
    db := { batch.db with tasks := batch.db.tasks ++ [child], nextId := batch.db.nextId + 1 }
    retriedIssues := batch.retriedIssues ++ task.issueId.toList
    children := batch.children ++ [child] }

theorem retryTask_unplanned (unplanned : maybeRetryPlan task batch.db.now = none) :
    retryTask overlay batch task = batch := by
  simp only [retryTask, maybeRetryFailedTask, unplanned]

theorem retryTask_planned {plan : RetryPlan} (stored : getAgentTask batch.db task.id = some task)
    (planned : maybeRetryPlan task batch.db.now = some plan) :
    retryTask overlay batch task =
      if PendingUnique (batch.db.tasks ++ [retryChild overlay batch.db.now task plan batch.db.nextId]) then
        batch.spawn task (retryChild overlay batch.db.now task plan batch.db.nextId)
      else batch := by
  simp only [retryTask, maybeRetryFailedTask, planned, createRetryTask, stored, insert, commit]
  by_cases room : PendingUnique
      (batch.db.tasks ++ [retryChild overlay batch.db.now task plan batch.db.nextId])
  · rw [if_pos room]
    rw [retryChild] at room
    simp only [room, if_true]
    rfl
  · rw [if_neg room]
    rw [retryChild] at room
    simp only [room, if_false]

def Settled (batch : Batch) (issue : Id) : Prop :=
  issue ∈ batch.processedIssues ∨ issue ∈ batch.retriedIssues ∨
    ∀ row, getIssue batch.issues issue = some row → row.status ≠ .inProgress

theorem resetIssue_settled (settled : Settled batch issue) : resetIssue batch issue = batch := by
  unfold resetIssue
  split
  · rfl
  · rename_i row found
    refine if_neg ?_
    rintro ⟨inProgress, unprocessed, unretried⟩
    rcases settled with processed | retried | other
    · exact unprocessed processed
    · exact unretried retried
    · exact other row found inProgress

theorem getIssue_updateStatus_other {id other : Id} (different : other ≠ id) (status : IssueTable.Status)
    (issues : List IssueRow) : getIssue (updateIssueStatus id status issues) other = getIssue issues other := by
  induction issues with
  | nil => rfl
  | cons row rest ih =>
      simp only [getIssue, updateIssueStatus, TableLib.updateWhere, List.map_cons, List.find?_cons] at ih ⊢
      by_cases changed : row.id = id
      · have kept : row.id ≠ other := fun same => different (same.symm.trans changed)
        simp only [changed, decide_true, if_true] at kept ⊢
        simpa [kept] using ih
      · simp only [changed, decide_false, Bool.false_eq_true, if_false]
        split
        · rfl
        · exact ih

structure SameAbout (issue : Id) (left right : Batch) : Prop where
  processed : issue ∈ left.processedIssues ↔ issue ∈ right.processedIssues
  retried : issue ∈ left.retriedIssues ↔ issue ∈ right.retriedIssues
  resets : issue ∈ left.resets ↔ issue ∈ right.resets
  row : getIssue left.issues issue = getIssue right.issues issue

theorem SameAbout.refl (issue : Id) (batch : Batch) : SameAbout issue batch batch :=
  ⟨Iff.rfl, Iff.rfl, Iff.rfl, rfl⟩

theorem SameAbout.trans {first second third : Batch} (before : SameAbout issue first second)
    (after : SameAbout issue second third) : SameAbout issue first third :=
  ⟨before.processed.trans after.processed, before.retried.trans after.retried,
    before.resets.trans after.resets, before.row.trans after.row⟩

theorem SameAbout.settled {left right : Batch} (same : SameAbout issue left right)
    (settled : Settled right issue) : Settled left issue := by
  rcases settled with processed | retried | other
  · exact Or.inl (same.processed.mpr processed)
  · exact Or.inr (Or.inl (same.retried.mpr retried))
  · exact Or.inr (Or.inr fun row found => other row (same.row ▸ found))

theorem resetIssue_other {other : Id} (different : issue ≠ other) :
    SameAbout issue (resetIssue batch other) batch := by
  unfold resetIssue
  split
  · exact .refl issue batch
  · split
    · split
      · exact ⟨by simp [different], Iff.rfl, Iff.rfl, rfl⟩
      · exact ⟨by simp [different], Iff.rfl, by simp [different],
          getIssue_updateStatus_other different _ _⟩
    · exact .refl issue batch

theorem spawn_other {child : Task} (different : task.issueId ≠ some issue) :
    SameAbout issue (batch.spawn task child) batch := by
  refine ⟨Iff.rfl, ?_, Iff.rfl, rfl⟩
  simp [Batch.spawn, different]

end Task

def Spawned (overlay : Task → Overlay) (db : Db) (children : List Task) (task : Task)
    (plan : RetryPlan) : Prop :=
  (∃ id, retryChild overlay db.now task plan id ∈ children) ∨
    ∃ row ∈ db.tasks ++ children, row.collides (retryChild overlay db.now task plan 0) = true

structure Handled (overlay : Task → Overlay) (db : Db) (issues : List IssueRow) (done : List Task)
    (batch : Batch) : Prop where
  tasks : batch.db.tasks = db.tasks ++ batch.children
  now : batch.db.now = db.now
  unique : PendingUnique batch.db.tasks
  origin : ∀ child ∈ batch.children, ∃ task ∈ done, ∃ plan id,
    maybeRetryPlan task db.now = some plan ∧ child = retryChild overlay db.now task plan id
  spawned : ∀ task ∈ done, ∀ plan, maybeRetryPlan task db.now = some plan →
    Spawned overlay db batch.children task plan
  untouched : ∀ issue, (∀ task ∈ done, task.issueId ≠ some issue) →
    SameAbout issue batch (startBatch db issues)
  first : ∀ issue task, done.find? (fun task => task.issueId = some issue) = some task →
    Settled batch issue ∧
      (issue ∈ batch.resets ↔ resettable db issues issue = true ∧ maybeRetryPlan task db.now = none)

section Loop

variable {overlay : Task → Overlay} {db : Db} {issues : List IssueRow} {done : List Task}
  {batch : Batch} {task : Task}

theorem startBatch_handled (wellFormed : WellFormed db) :
    Handled overlay db issues [] (startBatch db issues) := by
  refine ⟨by simp [startBatch], rfl, wellFormed.pending, ?_, ?_, fun issue _ => .refl issue _, ?_⟩
  · exact fun child none => absurd none List.not_mem_nil
  · exact fun task none => absurd none List.not_mem_nil
  · intro issue task found
    simp at found

theorem Handled.stored (handled : Handled overlay db issues done batch) (wellFormed : WellFormed db)
    (member : task ∈ db.tasks) : getAgentTask batch.db task.id = some task := by
  have found := getAgentTask_eq wellFormed.unique member
  unfold getAgentTask at found ⊢
  rw [handled.tasks, List.find?_append, found, Option.some_or]

theorem Spawned.grow {children more : List Task} {plan : RetryPlan}
    (spawned : Spawned overlay db children task plan) :
    Spawned overlay db (children ++ more) task plan := by
  rcases spawned with ⟨id, member⟩ | ⟨row, member, collides⟩
  · exact Or.inl ⟨id, List.mem_append_left more member⟩
  · refine Or.inr ⟨row, ?_, collides⟩
    rw [← List.append_assoc]
    exact List.mem_append_left more member

structure RetryStep (overlay : Task → Overlay) (db : Db) (batch next : Batch) (task : Task) : Prop where
  tasks : next.db.tasks = db.tasks ++ next.children
  now : next.db.now = db.now
  unique : PendingUnique next.db.tasks
  children : next.children = batch.children ∨ ∃ plan id, maybeRetryPlan task db.now = some plan ∧
    next.children = batch.children ++ [retryChild overlay db.now task plan id]
  spawned : ∀ plan, maybeRetryPlan task db.now = some plan → Spawned overlay db next.children task plan
  others : ∀ issue, task.issueId ≠ some issue → SameAbout issue next batch
  known : ∀ issue, next.resets = batch.resets ∧ next.processedIssues = batch.processedIssues ∧
    next.issues = batch.issues ∧ (issue ∈ batch.retriedIssues → issue ∈ next.retriedIssues)
  retried : next = batch ∨ ∀ issue, task.issueId = some issue → issue ∈ next.retriedIssues

theorem Handled.retry (handled : Handled overlay db issues done batch) (wellFormed : WellFormed db)
    (member : task ∈ db.tasks) : RetryStep overlay db batch (retryTask overlay batch task) task := by
  cases planned : maybeRetryPlan task db.now with
  | none =>
      rw [retryTask_unplanned (by rw [handled.now, planned])]
      refine ⟨handled.tasks, handled.now, handled.unique, Or.inl rfl, ?_, fun issue _ => .refl issue _,
        fun _ => ⟨rfl, rfl, rfl, id⟩, Or.inl rfl⟩
      intro plan isPlan
      rw [planned] at isPlan
      contradiction
  | some plan =>
      rw [retryTask_planned (handled.stored wellFormed member) (by rw [handled.now, planned])]
      split
      · rename_i room
        refine ⟨?_, handled.now, room, Or.inr ⟨plan, batch.db.nextId, planned, ?_⟩, ?_,
          fun issue different => spawn_other different,
          fun _ => ⟨rfl, rfl, rfl, List.mem_append_left _⟩, Or.inr ?_⟩
        · simp [Batch.spawn, handled.tasks]
        · simp [Batch.spawn, handled.now]
        · intro other isPlan
          obtain rfl : plan = other := Option.some.inj (planned.symm.trans isPlan)
          exact Or.inl ⟨batch.db.nextId, by simp [Batch.spawn, handled.now]⟩
        · intro issue ofIssue
          exact List.mem_append_right _ (by simp [ofIssue])
      · rename_i full
        refine ⟨handled.tasks, handled.now, handled.unique, Or.inl rfl, ?_, fun issue _ => .refl issue _,
          fun _ => ⟨rfl, rfl, rfl, id⟩, Or.inl rfl⟩
        intro other isPlan
        obtain rfl : plan = other := Option.some.inj (planned.symm.trans isPlan)
        rw [pendingUnique_append] at full
        have collides := not_forall₂.mp (not_and.mp full handled.unique)
        obtain ⟨row, listed, collides⟩ := collides
        rw [handled.now, Bool.not_eq_false] at collides
        exact Or.inr ⟨row, handled.tasks ▸ listed, collides⟩

theorem RetryStep.settled {next : Batch} {issue : Id} (step : RetryStep overlay db batch next task)
    (settled : Settled batch issue) : Settled next issue := by
  obtain ⟨-, processed, rows, retried⟩ := step.known issue
  rcases settled with isProcessed | isRetried | other
  · exact Or.inl (processed ▸ isProcessed)
  · exact Or.inr (Or.inl (retried isRetried))
  · exact Or.inr (Or.inr (rows ▸ other))

theorem resetIssue_keeps (batch : Batch) (issue : Id) :
    (resetIssue batch issue).db = batch.db ∧ (resetIssue batch issue).children = batch.children := by
  unfold resetIssue
  split
  · exact ⟨rfl, rfl⟩
  · split
    · dsimp only
      split <;> exact ⟨rfl, rfl⟩
    · exact ⟨rfl, rfl⟩

theorem handleTask_keeps (overlay : Task → Overlay) (batch : Batch) (task : Task) :
    (handleTask overlay batch task).db = (retryTask overlay batch task).db ∧
      (handleTask overlay batch task).children = (retryTask overlay batch task).children := by
  unfold handleTask
  cases task.issueId with
  | none => exact ⟨rfl, rfl⟩
  | some issue => exact resetIssue_keeps _ issue

theorem handleTask_other {issue : Id} (step : RetryStep overlay db batch (retryTask overlay batch task) task)
    (different : task.issueId ≠ some issue) : SameAbout issue (handleTask overlay batch task) batch := by
  have retried := step.others issue different
  unfold handleTask
  cases linked : task.issueId with
  | none => exact retried
  | some other =>
      rw [linked] at different
      exact (resetIssue_other fun same => different (congrArg some same.symm)).trans retried

theorem handleTask_linked {issue : Id} (linked : task.issueId = some issue) :
    handleTask overlay batch task = resetIssue (retryTask overlay batch task) issue := by
  simp only [handleTask, linked]

theorem resetIssue_undecided {issue : Id} (processed : issue ∉ batch.processedIssues)
    (retried : issue ∉ batch.retriedIssues) (unreset : issue ∉ batch.resets) :
    Settled (resetIssue batch issue) issue ∧
      (issue ∈ (resetIssue batch issue).resets ↔ resettable batch.db batch.issues issue = true) := by
  unfold resettable
  cases found : getIssue batch.issues issue with
  | none =>
      have settled : Settled batch issue := by
        refine Or.inr (Or.inr fun row isRow => ?_)
        rw [found] at isRow
        contradiction
      rw [resetIssue_settled settled]
      exact ⟨settled, by simp [unreset]⟩
  | some row =>
      by_cases inProgress : row.status = .inProgress
      · simp only [resetIssue, found, inProgress, processed, retried, not_false_eq_true, and_self, if_true]
        by_cases active : hasActiveTaskForIssue batch.db issue = true
        · simp only [active, if_true]
          exact ⟨Or.inl (by simp), by simp [unreset]⟩
        · rw [if_neg active]
          exact ⟨Or.inl (by simp), by simp [inProgress, active]⟩
      · have settled : Settled batch issue := by
          refine Or.inr (Or.inr fun other isRow => ?_)
          rw [found, Option.some.injEq] at isRow
          exact isRow ▸ inProgress
        rw [resetIssue_settled settled]
        exact ⟨settled, by simp [unreset, inProgress]⟩

theorem pending_active {status : Status} (pending : status.pending = true) :
    (status = .queued || status.active) = true := by
  cases status <;> simp_all [Status.pending, Status.active]

theorem retryChild_issue (plan : RetryPlan) (now : Nat) (task : Task) (id : Id) :
    (retryChild overlay now task plan id).issueId = task.issueId := rfl

theorem Handled.active_eq {issue : Id} (handled : Handled overlay db issues done batch)
    (unreached : ∀ task ∈ done, task.issueId ≠ some issue) :
    hasActiveTaskForIssue batch.db issue = hasActiveTaskForIssue db issue := by
  have none : (batch.children.any fun task =>
      task.issueId = some issue && (task.status = .queued || task.status.active)) = false := by
    refine List.any_eq_false.mpr fun child member => ?_
    obtain ⟨parent, reached, plan, id, -, rfl⟩ := handled.origin child member
    rw [retryChild_issue]
    simp [unreached parent reached]
  rw [hasActiveTaskForIssue, hasActiveTaskForIssue, handled.tasks, List.any_append, none, Bool.or_false]

theorem Handled.first_task {issue : Id} (handled : Handled overlay db issues done batch)
    (wellFormed : WellFormed db) (member : task ∈ db.tasks) (linked : task.issueId = some issue)
    (unreached : ∀ task ∈ done, task.issueId ≠ some issue) :
    Settled (handleTask overlay batch task) issue ∧
      (issue ∈ (handleTask overlay batch task).resets ↔
        resettable db issues issue = true ∧ maybeRetryPlan task db.now = none) := by
  have before := handled.untouched issue unreached
  have processed : issue ∉ batch.processedIssues := fun member => nomatch before.processed.mp member
  have unretried : issue ∉ batch.retriedIssues := fun member => nomatch before.retried.mp member
  have unreset : issue ∉ batch.resets := fun member => nomatch before.resets.mp member
  have sameReset : resettable batch.db batch.issues issue = resettable db issues issue := by
    rw [resettable, resettable, handled.active_eq unreached, before.row]
    rfl
  rw [handleTask_linked linked]
  have step : RetryStep overlay db batch (retryTask overlay batch task) task :=
    handled.retry wellFormed member
  rcases step.retried with unchanged | spawned
  · obtain ⟨settled, resets⟩ := resetIssue_undecided processed unretried unreset
    rw [unchanged]
    refine ⟨settled, resets.trans ?_⟩
    rw [sameReset]
    refine ⟨fun canReset => ⟨canReset, ?_⟩, And.left⟩
    -- without a live task of the issue there is room for a retry, so there was none to make
    cases planned : maybeRetryPlan task db.now with
    | none => rfl
    | some plan =>
        have idle : hasActiveTaskForIssue db issue = false := by
          simp only [resettable, Bool.and_eq_true, Bool.not_eq_true'] at canReset
          exact canReset.2
        rcases step.spawned plan planned with ⟨id, child⟩ | ⟨row, listed, collides⟩
        · rw [unchanged] at child
          obtain ⟨parent, reached, other, otherId, -, same⟩ := handled.origin _ child
          have sameIssue := congrArg Task.issueId same
          rw [retryChild_issue, retryChild_issue, linked] at sameIssue
          exact absurd sameIssue.symm (unreached parent reached)
        · rw [unchanged, ← handled.tasks] at listed
          obtain ⟨pending, -, pair⟩ := collides_iff.mp collides
          obtain ⟨⟨shared, rowIssue, childIssue⟩, -⟩ := samePair_iff.mp pair
          rw [retryChild_issue, linked] at childIssue
          rw [← handled.active_eq unreached, hasActiveTaskForIssue, List.any_eq_false] at idle
          refine absurd ?_ (idle row listed)
          rw [rowIssue, ← childIssue, pending_active pending]
          simp
  · have retried := spawned issue linked
    have settled : Settled (retryTask overlay batch task) issue := Or.inr (Or.inl retried)
    rw [resetIssue_settled settled, (step.known issue).1]
    refine ⟨settled, iff_of_false unreset ?_⟩
    rintro ⟨-, unplanned⟩
    rw [retryTask_unplanned (by rw [handled.now, unplanned])] at retried
    exact unretried retried

theorem Handled.step (handled : Handled overlay db issues done batch) (wellFormed : WellFormed db)
    (member : task ∈ db.tasks) :
    Handled overlay db issues (done ++ [task]) (handleTask overlay batch task) := by
  have step : RetryStep overlay db batch (retryTask overlay batch task) task :=
    handled.retry wellFormed member
  obtain ⟨sameDb, sameChildren⟩ := handleTask_keeps overlay batch task
  refine ⟨?_, ?_, ?_, ?_, ?_, ?_, ?_⟩
  · rw [sameDb, sameChildren, step.tasks]
  · rw [sameDb, step.now]
  · rw [sameDb]
    exact step.unique
  · intro child listed
    rw [sameChildren] at listed
    have old : child ∈ batch.children → ∃ parent ∈ done ++ [task], ∃ plan id,
        maybeRetryPlan parent db.now = some plan ∧ child = retryChild overlay db.now parent plan id := by
      intro existed
      obtain ⟨parent, reached, rest⟩ := handled.origin child existed
      exact ⟨parent, List.mem_append_left _ reached, rest⟩
    rcases step.children with same | ⟨plan, id, planned, same⟩
    · exact old (same ▸ listed)
    · rw [same] at listed
      rcases List.mem_append.mp listed with existed | new
      · exact old existed
      · exact ⟨task, by simp, plan, id, planned, List.mem_singleton.mp new⟩
  · intro parent reached plan planned
    rw [sameChildren]
    rcases List.mem_append.mp reached with earlier | last
    · have spawned := handled.spawned parent earlier plan planned
      rcases step.children with same | ⟨_, _, _, same⟩
      · exact same ▸ spawned
      · exact same ▸ spawned.grow
    · obtain rfl := List.mem_singleton.mp last
      exact step.spawned plan planned
  · intro issue unreached
    have earlier := handled.untouched issue fun other reached => unreached other (by simp [reached])
    exact (handleTask_other step (unreached task (by simp))).trans earlier
  · intro issue parent found
    rw [List.find?_append, Option.or_eq_some_iff] at found
    rcases found with earlier | ⟨none, last⟩
    · obtain ⟨settled, resets⟩ := handled.first issue parent earlier
      by_cases linked : task.issueId = some issue
      · have settledNext := step.settled settled
        rw [handleTask_linked linked, resetIssue_settled settledNext, (step.known issue).1]
        exact ⟨settledNext, resets⟩
      · have same := handleTask_other step linked
        exact ⟨same.settled settled, same.resets.trans resets⟩
    · have unreached : ∀ other ∈ done, other.issueId ≠ some issue := by
        simpa using List.find?_eq_none.mp none
      obtain ⟨linked, same⟩ : task.issueId = some issue ∧ task = parent := by
        simpa [List.find?_singleton] using last
      exact same ▸ handled.first_task wellFormed member linked unreached

theorem Handled.run (handled : Handled overlay db issues done batch) (wellFormed : WellFormed db)
    {rest : List Task} (stored : ∀ task ∈ rest, task ∈ db.tasks) :
    Handled overlay db issues (done ++ rest) (rest.foldl (handleTask overlay) batch) := by
  induction rest generalizing done batch with
  | nil => rwa [List.append_nil]
  | cons task rest ih =>
      have next := handled.step wellFormed (stored task (by simp))
      rw [List.append_cons]
      exact ih next fun other member => stored other (by simp [member])

theorem handleFailedTasks_handled (wellFormed : WellFormed db) {tasks : List Task}
    (stored : ∀ task ∈ tasks, task ∈ db.tasks) :
    Handled overlay db issues tasks (handleFailedTasks overlay db issues tasks) :=
  (startBatch_handled wellFormed).run wellFormed stored

variable {tasks : List Task}

theorem reset_of_first (wellFormed : WellFormed db) (stored : ∀ task ∈ tasks, task ∈ db.tasks) {issue : Id}
    (found : tasks.find? (fun task => task.issueId = some issue) = some task) :
    issue ∈ (handleFailedTasks overlay db issues tasks).resets ↔
      resettable db issues issue = true ∧ maybeRetryPlan task db.now = none :=
  ((handleFailedTasks_handled wellFormed stored).first issue task found).2

theorem unreset_of_none (wellFormed : WellFormed db) (stored : ∀ task ∈ tasks, task ∈ db.tasks) {issue : Id}
    (none : tasks.find? (fun task => task.issueId = some issue) = none) :
    issue ∉ (handleFailedTasks overlay db issues tasks).resets := by
  have unreached : ∀ task ∈ tasks, task.issueId ≠ some issue := by
    simpa using List.find?_eq_none.mp none
  exact fun reset =>
    nomatch ((handleFailedTasks_handled wellFormed stored).untouched issue unreached).resets.mp reset

def Roomy (db : Db) (task : Task) (plan : RetryPlan) : Prop :=
  maybeRetryPlan task db.now = some plan ∧ (plan.fireAt.isNone = true → pairOccupied db task = false)

theorem collides_retryChild {row : Task} {plan : RetryPlan} {now : Nat} {id : Id} :
    row.collides (retryChild overlay now task plan id) = true ↔
      plan.fireAt.isNone = true ∧ row.status.pending = true ∧ row.samePair task = true := by
  have pair : row.samePair (retryChild overlay now task plan id) = row.samePair task := rfl
  have pending : (retryChild overlay now task plan id).status.pending = plan.fireAt.isNone := by
    cases later : plan.fireAt <;> simp [retryChild, Task.retry, later, Status.pending]
  rw [collides_iff, pair, pending]
  tauto

theorem pairOccupied_iff : pairOccupied db task = true ↔
    ∃ row ∈ db.tasks, row.status.pending = true ∧ row.samePair task = true := by
  simp [pairOccupied]

theorem Handled.children_roomy (handled : Handled overlay db issues tasks batch) {child : Task}
    (member : child ∈ batch.children) : ∃ task ∈ tasks, ∃ plan id,
      Roomy db task plan ∧ child = retryChild overlay db.now task plan id := by
  obtain ⟨task, reached, plan, id, planned, rfl⟩ := handled.origin child member
  refine ⟨task, reached, plan, id, ⟨planned, fun immediate => ?_⟩, rfl⟩
  have unique := handled.unique
  rw [handled.tasks, PendingUnique, List.pairwise_append] at unique
  rw [← Bool.not_eq_true, pairOccupied_iff]
  rintro ⟨row, listed, pending, pair⟩
  have apart := unique.2.2 row listed _ member
  rw [collides_retryChild.mpr ⟨immediate, pending, pair⟩] at apart
  contradiction

theorem samePair_trans {first second third : Task} (left : first.samePair second = true)
    (right : second.samePair third = true) : first.samePair third = true := by
  obtain ⟨⟨issue, firstIssue, secondIssue⟩, agent⟩ := samePair_iff.mp left
  obtain ⟨⟨other, secondOther, thirdIssue⟩, sameAgent⟩ := samePair_iff.mp right
  obtain rfl : issue = other := Option.some.inj (secondIssue.symm.trans secondOther)
  exact samePair_iff.mpr ⟨⟨issue, firstIssue, thirdIssue⟩, agent.trans sameAgent⟩

theorem immediateRetry_iff {now : Nat} {plan : RetryPlan} (planned : maybeRetryPlan task now = some plan) :
    immediateRetry now task = true ↔ plan.fireAt.isNone = true := by
  simp only [immediateRetry, planned]

theorem Handled.child_of_roomy (handled : Handled overlay db issues tasks batch)
    (apart : RetriesApart db tasks) {plan : RetryPlan} (member : task ∈ tasks) (roomy : Roomy db task plan) :
    ∃ id, retryChild overlay db.now task plan id ∈ batch.children := by
  obtain ⟨planned, room⟩ := roomy
  rcases handled.spawned task member plan planned with spawned | ⟨row, listed, collides⟩
  · exact spawned
  · obtain ⟨immediate, pending, pair⟩ := collides_retryChild.mp collides
    have free := room immediate
    rcases List.mem_append.mp listed with inTable | isChild
    · rw [pairOccupied_iff.mpr ⟨row, inTable, pending, pair⟩] at free
      contradiction
    · obtain ⟨other, reached, otherPlan, id, otherRoomy, rfl⟩ := handled.children_roomy isChild
      by_cases same : other = task
      · subst same
        obtain rfl : otherPlan = plan := Option.some.inj (otherRoomy.1.symm.trans planned)
        exact ⟨id, isChild⟩
      · have otherImmediate : otherPlan.fireAt.isNone = true := by
          cases later : otherPlan.fireAt with
          | none => rfl
          | some time => simp [retryChild, Task.retry, later, Status.pending] at pending
        have occupied := apart other reached task member
          ((immediateRetry_iff otherRoomy.1).mpr otherImmediate) ((immediateRetry_iff planned).mpr immediate)
          pair same
        rw [otherRoomy.2 otherImmediate] at occupied
        contradiction

theorem Handled.children_iff (handled : Handled overlay db issues tasks batch)
    (apart : RetriesApart db tasks) (child : Task) :
    child ∈ batch.children.map Task.unnamed ↔
      ∃ task ∈ tasks, ∃ plan, Roomy db task plan ∧ child = retryChild overlay db.now task plan 0 := by
  constructor
  · intro member
    obtain ⟨row, listed, rfl⟩ := List.mem_map.mp member
    obtain ⟨task, reached, plan, id, roomy, rfl⟩ := handled.children_roomy listed
    exact ⟨task, reached, plan, roomy, rfl⟩
  · rintro ⟨task, reached, plan, roomy, rfl⟩
    obtain ⟨id, listed⟩ := handled.child_of_roomy apart reached roomy
    exact List.mem_map.mpr ⟨_, listed, rfl⟩

theorem children_grow {child : Task} (member : child ∈ batch.children) (rest : List Task) :
    child ∈ (rest.foldl (handleTask overlay) batch).children := by
  induction rest generalizing batch with
  | nil => exact member
  | cons task rest ih =>
      refine ih ?_
      rw [(handleTask_keeps overlay batch task).2, retryTask]
      split
      · exact List.mem_append_left _ member
      · exact member
      · exact member

theorem first_child (wellFormed : WellFormed db) (member : task ∈ db.tasks) {plan : RetryPlan}
    (roomy : Roomy db task plan) (rest : List Task) :
    ∃ id, retryChild overlay db.now task plan id ∈
      (handleFailedTasks overlay db issues (task :: rest)).children := by
  have alone : ∀ other ∈ [task], other ∈ db.tasks := by simpa using member
  have apart : RetriesApart db [task] := by
    intro left isLeft right isRight _ _ _ different
    exact absurd ((List.mem_singleton.mp isLeft).trans (List.mem_singleton.mp isRight).symm) different
  have handled : Handled overlay db issues [task] (handleFailedTasks overlay db issues [task]) :=
    handleFailedTasks_handled wellFormed alone
  obtain ⟨id, listed⟩ := handled.child_of_roomy apart (List.mem_singleton_self task) roomy
  exact ⟨id, children_grow listed rest⟩

theorem first_reset (wellFormed : WellFormed db) {rest : List Task} {issue : Id}
    (stored : ∀ other ∈ task :: rest, other ∈ db.tasks) (linked : task.issueId = some issue) :
    issue ∈ (handleFailedTasks overlay db issues (task :: rest)).resets ↔
      resettable db issues issue = true ∧ maybeRetryPlan task db.now = none :=
  reset_of_first wellFormed stored (by simp [linked])

theorem perm_first (member : task ∈ tasks) : ∃ rest, (task :: rest).Perm tasks := by
  obtain ⟨front, back, rfl⟩ := List.append_of_mem member
  exact ⟨front ++ back, List.perm_middle.symm⟩

theorem PendingUnique.apart_of_ne (unique : PendingUnique tasks) {left right : Task}
    (leftMember : left ∈ tasks) (rightMember : right ∈ tasks) (different : left ≠ right) :
    left.collides right = false := by
  have symmetric : Std.Symm fun first second : Task => first.collides second = false := by
    refine ⟨fun first second apart => ?_⟩
    rw [← Bool.not_eq_true] at apart ⊢
    exact fun collide => apart (collides_symm collide)
  exact List.Pairwise.forall unique leftMember rightMember different

theorem OrderIrrelevant.retries (irrelevant : OrderIrrelevant overlay db issues tasks)
    (wellFormed : WellFormed db) (fresh : FreshlyFailed db tasks) : RetriesApart db tasks := by
  intro left leftMember right rightMember leftNow rightNow pair different
  by_contra free
  rw [Bool.not_eq_true] at free
  have created : ∀ task ∈ tasks, immediateRetry db.now task = true → pairOccupied db task = false →
      ∃ plan id, plan.fireAt.isNone = true ∧ retryChild overlay db.now task plan id ∈
        (handleFailedTasks overlay db issues tasks).children := by
    intro task member immediate unoccupied
    obtain ⟨rest, perm⟩ := perm_first member
    cases planned : maybeRetryPlan task db.now with
    | none => simp [immediateRetry, planned] at immediate
    | some plan =>
        obtain ⟨id, listed⟩ := @first_child overlay db issues task wellFormed (fresh.stored task member)
          plan ⟨planned, fun _ => unoccupied⟩ rest
        obtain ⟨child, isChild, same⟩ := List.mem_map.mp
          (((irrelevant.same _ perm).children _).mp (List.mem_map_of_mem listed))
        refine ⟨plan, child.id, (immediateRetry_iff planned).mp immediate, ?_⟩
        have row : child = retryChild overlay db.now task plan child.id := by
          rw [show child = { child.unnamed with id := child.id } from rfl, same]
          rfl
        exact row ▸ isChild
  have alsoFree : pairOccupied db right = false := by
    rw [← Bool.not_eq_true, pairOccupied_iff] at free ⊢
    rintro ⟨row, listed, pending, rowPair⟩
    exact free ⟨row, listed, pending, samePair_trans rowPair (samePair_symm pair)⟩
  obtain ⟨leftPlan, leftId, leftQueued, leftChild⟩ := created left leftMember leftNow free
  obtain ⟨rightPlan, rightId, rightQueued, rightChild⟩ := created right rightMember rightNow alsoFree
  have handled : Handled overlay db issues tasks (handleFailedTasks overlay db issues tasks) :=
    handleFailedTasks_handled wellFormed fresh.stored
  have apart := handled.unique.apart_of_ne
    (handled.tasks ▸ List.mem_append_right _ leftChild)
    (handled.tasks ▸ List.mem_append_right _ rightChild) ?_
  · have queued : (retryChild overlay db.now left leftPlan leftId).status.pending = true := by
      rw [Option.isNone_iff_eq_none] at leftQueued
      simp [retryChild, Task.retry, leftQueued, Status.pending]
    rw [collides_retryChild.mpr ⟨rightQueued, queued, pair⟩] at apart
    contradiction
  · intro same
    have parents := congrArg Task.retryOfTaskId same
    have ids : left.id = right.id := Option.some.inj parents
    exact (id_ne_iff wellFormed.unique (fresh.stored left leftMember) (fresh.stored right rightMember)).mpr
      different ids

theorem OrderIrrelevant.reset_iff (irrelevant : OrderIrrelevant overlay db issues tasks)
    (wellFormed : WellFormed db) (fresh : FreshlyFailed db tasks) {issue : Id} (member : task ∈ tasks)
    (linked : task.issueId = some issue) :
    issue ∈ (handleFailedTasks overlay db issues tasks).resets ↔
      resettable db issues issue = true ∧ maybeRetryPlan task db.now = none := by
  obtain ⟨rest, perm⟩ := perm_first member
  have stored : ∀ other ∈ task :: rest, other ∈ db.tasks :=
    fun other listed => fresh.stored other (perm.mem_iff.mp listed)
  exact ((irrelevant.same _ perm).resets issue).symm.trans (first_reset wellFormed stored linked)

theorem OrderIrrelevant.uniform (irrelevant : OrderIrrelevant overlay db issues tasks)
    (wellFormed : WellFormed db) (fresh : FreshlyFailed db tasks) : UniformBatch db issues tasks := by
  refine ⟨irrelevant.retries wellFormed fresh, ?_, ?_⟩
  · intro issue canReset left leftMember right rightMember leftLinked rightLinked
    have byLeft := irrelevant.reset_iff wellFormed fresh leftMember leftLinked
    have byRight := irrelevant.reset_iff wellFormed fresh rightMember rightLinked
    rw [and_iff_right canReset] at byLeft byRight
    exact byLeft.symm.trans byRight
  · intro issue canReset task member linked unplanned row listed rowLinked deferred
    have reset := (irrelevant.reset_iff wellFormed fresh member linked).mpr ⟨canReset, unplanned⟩
    have handled : Handled overlay db issues tasks (handleFailedTasks overlay db issues tasks) :=
      handleFailedTasks_handled wellFormed fresh.stored
    have ended := irrelevant.idle issue reset row (handled.tasks ▸ List.mem_append_left _ listed) rowLinked
    rw [deferred] at ended
    contradiction

theorem UniformBatch.sameOutcome (uniform : UniformBatch db issues tasks) (wellFormed : WellFormed db)
    (fresh : FreshlyFailed db tasks) {others : List Task} (perm : others.Perm tasks) :
    SameOutcome (handleFailedTasks overlay db issues others) (handleFailedTasks overlay db issues tasks) := by
  have stored : ∀ task ∈ others, task ∈ db.tasks :=
    fun task member => fresh.stored task (perm.mem_iff.mp member)
  refine ⟨fun issue => ?_, fun child => ?_⟩
  · cases found : tasks.find? (fun task => task.issueId = some issue) with
    | none =>
        have alsoNone : others.find? (fun task => task.issueId = some issue) = none := by
          rw [List.find?_eq_none] at found ⊢
          exact fun task member => found task (perm.mem_iff.mp member)
        exact iff_of_false (unreset_of_none wellFormed stored alsoNone)
          (unreset_of_none wellFormed fresh.stored found)
    | some task =>
        have member := List.mem_of_find?_eq_some found
        have linked : task.issueId = some issue := by simpa using List.find?_some found
        obtain ⟨other, otherFound⟩ : ∃ other, others.find? (fun task => task.issueId = some issue) =
            some other := by
          rw [← Option.isSome_iff_exists, List.find?_isSome]
          exact ⟨task, perm.mem_iff.mpr member, by simpa using linked⟩
        have otherMember := perm.mem_iff.mp (List.mem_of_find?_eq_some otherFound)
        have otherLinked : other.issueId = some issue := by simpa using List.find?_some otherFound
        rw [reset_of_first wellFormed stored otherFound, reset_of_first wellFormed fresh.stored found]
        refine and_congr_right fun canReset => ?_
        exact uniform.verdicts issue canReset other otherMember task member otherLinked linked
  · have apart : RetriesApart db others := fun left leftMember right rightMember =>
      uniform.retries left (perm.mem_iff.mp leftMember) right (perm.mem_iff.mp rightMember)
    rw [(handleFailedTasks_handled wellFormed stored).children_iff apart,
      (handleFailedTasks_handled wellFormed fresh.stored).children_iff uniform.retries]
    simp only [perm.mem_iff]

theorem UniformBatch.idle (uniform : UniformBatch db issues tasks) (wellFormed : WellFormed db)
    (fresh : FreshlyFailed db tasks) {issue : Id}
    (reset : issue ∈ (handleFailedTasks overlay db issues tasks).resets) {row : Task}
    (listed : row ∈ (handleFailedTasks overlay db issues tasks).db.tasks)
    (linked : row.issueId = some issue) : row.status.live = false := by
  have handled : Handled overlay db issues tasks (handleFailedTasks overlay db issues tasks) :=
    handleFailedTasks_handled wellFormed fresh.stored
  cases found : tasks.find? (fun task => task.issueId = some issue) with
  | none => exact absurd reset (unreset_of_none wellFormed fresh.stored found)
  | some task =>
      have member := List.mem_of_find?_eq_some found
      have taskLinked : task.issueId = some issue := by simpa using List.find?_some found
      obtain ⟨canReset, unplanned⟩ := (reset_of_first wellFormed fresh.stored found).mp reset
      rw [handled.tasks] at listed
      rcases List.mem_append.mp listed with inTable | isChild
      · have waits := uniform.deferred issue canReset task member taskLinked unplanned row inTable linked
        simp only [resettable, Bool.and_eq_true, Bool.not_eq_true', hasActiveTaskForIssue,
          List.any_eq_false] at canReset
        have idle := canReset.2 row inTable
        rw [linked] at idle
        cases status : row.status <;> simp_all [Status.active, Status.live, Status.terminal]
      · obtain ⟨parent, reached, plan, id, planned, rfl⟩ := handled.origin row isChild
        have retried := (uniform.verdicts issue canReset task member parent reached taskLinked linked).mp
          unplanned
        rw [planned] at retried
        contradiction

end Loop

def timedOutTask : Task :=
  (((Task.forIssue 9 plainTask 0 0).claim 0).start 0).sweep 60 "task timed out" .timeout false true

def exhaustedTask : Task := { timedOutTask with id := 1, agentId := 3, attempt := 2 }

def sweptDb : Db := { initial (fun _ => 1) with now := 60, nextId := 2, tasks := [timedOutTask, exhaustedTask] }

theorem sweptDb_wellFormed : WellFormed sweptDb :=
  ⟨by decide, by simp [sweptDb, timedOutTask, exhaustedTask, Task.sweep, Task.start, Task.claim,
    Task.forIssue, Task.blank], by decide⟩

end MulticaOS.TaskQueue
