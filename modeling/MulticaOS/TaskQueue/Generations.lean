import MulticaOS.TaskQueue.Steps

/-!
Claim generations: a handler that carries an old snapshot of a task cannot write a receipt
or requeue a newer claim, and receipts stay within the plan of their task.
-/

namespace MulticaOS.TaskQueue

def SameGeneration (snapshot task : Task) : Prop :=
  task.id = snapshot.id ∧ task.status = .dispatched ∧ task.startedAt = none ∧
    task.dispatchedAt = snapshot.dispatchedAt

def FinalizeGuarded (db : Db) (snapshot : Task) : Prop :=
  ∀ tokenHash delivered next receipt,
    finalizeTaskClaim db snapshot tokenHash delivered = .ok (next, receipt) →
      ∃ task ∈ db.tasks, SameGeneration snapshot task

theorem createTaskToken_ok {db next : Db} {token stored : TaskToken}
    (done : createTaskToken db token = .ok (next, stored)) :
    next = { db with tokens := db.tokens ++ [token] } := by
  rw [createTaskToken] at done
  split at done
  · simp only [Except.ok.injEq, Prod.mk.injEq] at done
    exact done.1.symm
  · contradiction

theorem finalizeTaskClaim_ok {db next : Db} {snapshot : Task} {tokenHash : String}
    {delivered receipt : List Id}
    (done : finalizeTaskClaim db snapshot tokenHash delivered = .ok (next, receipt)) :
    (snapshot.commentBacked = false ∧ next.tasks = db.tasks) ∨
      ∃ task ∈ db.tasks, SameGeneration snapshot task := by
  simp only [finalizeTaskClaim, bind, Except.bind] at done
  split at done
  · contradiction
  · rename_i tokened creating
    have stored := createTaskToken_ok creating
    split at done
    · split at done
      · contradiction
      · rename_i receipted delivering
        obtain ⟨-, -, task, found, -⟩ := updateOne_ok delivering
        have matched := List.find?_some found
        simp only [Bool.and_eq_true] at matched
        have member := List.mem_of_find?_eq_some found
        rw [stored] at member
        exact Or.inr ⟨task, member, sameClaim_spec matched.1.1⟩
    · rename_i unbacked
      simp only [Except.ok.injEq, Prod.mk.injEq] at done
      rw [← done.1, stored]
      exact Or.inl ⟨by simpa using unbacked, rfl⟩

theorem finalizeGuarded_of_commentBacked (db : Db) {snapshot : Task}
    (backed : snapshot.commentBacked = true) : FinalizeGuarded db snapshot := by
  intro tokenHash delivered next receipt done
  rcases finalizeTaskClaim_ok done with ⟨unbacked, -⟩ | guarded
  · rw [backed] at unbacked
    contradiction
  · exact guarded

theorem requeueTaskAfterClaimFailure_ok {db next : Db} {snapshot row : Task}
    (done : requeueTaskAfterClaimFailure db snapshot = .ok (next, row)) :
    ∃ task ∈ db.tasks, SameGeneration snapshot task := by
  obtain ⟨-, -, task, found, -⟩ := updateOne_ok done
  exact ⟨task, List.mem_of_find?_eq_some found, sameClaim_spec (List.find?_some found)⟩

theorem planned_mergeComment (trigger : Trigger) (task : Task) :
    task.planned ⊆ (task.mergeComment trigger).planned := by
  intro comment member
  by_cases isNew : comment = trigger.commentId
  · simp [Task.planned, Task.mergeComment, isNew]
  · simp only [Task.planned, List.mem_append] at member
    simp only [Task.planned, Task.mergeComment, Option.toList_some, List.mem_append,
      List.mem_singleton, List.mem_filter, List.mem_dedup, decide_eq_true_eq]
    exact Or.inr ⟨member.symm, isNew⟩

theorem planned_registerComment (comment : Id) (task : Task) :
    task.planned ⊆ (task.registerComment comment).planned := by
  intro other member
  simp only [Task.planned, List.mem_append] at member
  simp only [Task.planned, Task.registerComment, List.mem_append, List.mem_dedup]
  rcases member with trigger | coalesced
  · exact Or.inl trigger
  · exact Or.inr (Or.inl coalesced)

theorem RowStep.receipt {now : Nat} {action : Action} {old new : Task}
    (changed : RowStep now action old new)
    (within : old.deliveredCommentIds ⊆ old.planned) : new.deliveredCommentIds ⊆ new.planned := by
  cases changed with
  | deliver dispatched unstarted planned => exact planned
  | requeue dispatched unstarted => exact List.nil_subset _
  | mergeComment _ queued => exact List.Subset.trans within (planned_mergeComment _ old)
  | registerComment _ active => exact List.Subset.trans within (planned_registerComment _ old)
  | _ => exact within

theorem RowStep.started {now : Nat} {action : Action} {old new : Task}
    (changed : RowStep now action old new)
    (started : old.startedAt.isSome = true) :
    new.deliveredCommentIds = old.deliveredCommentIds ∧ new.startedAt.isSome = true := by
  cases changed with
  | deliver dispatched unstarted planned =>
      rw [unstarted] at started
      contradiction
  | requeue dispatched unstarted =>
      rw [unstarted] at started
      contradiction
  | start prepared => exact ⟨rfl, rfl⟩
  | _ => exact ⟨rfl, started⟩

theorem Moved.receipt {now : Nat} {action : Action} {old new : Task} (moved : Moved now action old new)
    (within : old.deliveredCommentIds ⊆ old.planned) : new.deliveredCommentIds ⊆ new.planned := by
  cases moved with
  | edit changed => exact changed.receipt within
  | claim => exact within

theorem Moved.started {now : Nat} {action : Action} {old new : Task} (moved : Moved now action old new)
    (started : old.startedAt.isSome = true) :
    new.deliveredCommentIds = old.deliveredCommentIds ∧ new.startedAt.isSome = true := by
  cases moved with
  | edit changed => exact changed.started started
  | claim => exact ⟨rfl, started⟩

structure Receipts (db : Db) : Prop extends WellFormed db where
  within : ∀ task ∈ db.tasks, task.deliveredCommentIds ⊆ task.planned

theorem initial_receipts (limits : Id → Nat) : Receipts (initial limits) :=
  ⟨initial_wellFormed limits, by simp [initial]⟩

theorem Receipts.step {db : Db} (receipts : Receipts db) (action : Action) :
    Receipts (step db action) := by
  refine ⟨receipts.toWellFormed.step action, fun task member => ?_⟩
  rcases step_mem receipts.unique member with ⟨old, listed, moved⟩ | ⟨new, -⟩
  · exact moved.receipt (receipts.within old listed)
  · rw [new.undelivered]
    exact List.nil_subset _

theorem reachable_receipts (limits : Id → Nat) (actions : List Action) :
    Receipts (RunLib.run step (initial limits) actions) :=
  RunLib.run_invariant (initial_receipts limits) (fun _ action receipts => receipts.step action) actions

def Delivered (id : Id) (receipt : List Id) (db : Db) : Prop :=
  id < db.nextId ∧ ∀ row ∈ db.tasks, row.id = id →
    row.startedAt.isSome = true ∧ row.deliveredCommentIds = receipt

theorem Delivered.step {id : Id} {receipt : List Id} {db : Db} (delivered : Delivered id receipt db)
    (wellFormed : WellFormed db) (action : Action) : Delivered id receipt (step db action) := by
  have grows := step_nextId wellFormed.unique action
  refine ⟨Nat.lt_of_lt_of_le delivered.1 grows, fun row member same => ?_⟩
  rcases step_mem wellFormed.unique member with ⟨old, listed, moved⟩ | ⟨new, -⟩
  · obtain ⟨started, receipt_eq⟩ := delivered.2 old listed (moved.lineage.id.symm.trans same)
    obtain ⟨kept, still⟩ := moved.started started
    exact ⟨still, kept.trans receipt_eq⟩
  · have below := delivered.1
    rw [← same, new.id] at below
    exact absurd below (Nat.lt_irrefl _)

theorem Delivered.run {id : Id} {receipt : List Id} {db : Db} (delivered : Delivered id receipt db)
    (wellFormed : WellFormed db) (actions : List Action) :
    Delivered id receipt (RunLib.run TaskQueue.step db actions) := by
  induction actions generalizing db with
  | nil => exact delivered
  | cons action rest ih => exact ih (delivered.step wellFormed action) (wellFormed.step action)

/-- In every run: only a finalization without comments, which adds a token and changes no
row, succeeds on another claim than its own, and no requeue does; receipts lie within the
plan and never change after the start; a failed finalization leaves nothing behind. -/
theorem claim_generations_isolated (limits : Id → Nat) (actions : List Action) :
    (∀ snapshot, snapshot.commentBacked = true →
      FinalizeGuarded (RunLib.run step (initial limits) actions) snapshot) ∧
    (∀ snapshot tokenHash delivered next receipt, snapshot.commentBacked = false →
      finalizeTaskClaim (RunLib.run step (initial limits) actions) snapshot tokenHash delivered =
        .ok (next, receipt) → next.tasks = (RunLib.run step (initial limits) actions).tasks) ∧
    (∀ snapshot next row, requeueTaskAfterClaimFailure (RunLib.run step (initial limits) actions)
        snapshot = .ok (next, row) →
      ∃ task ∈ (RunLib.run step (initial limits) actions).tasks, SameGeneration snapshot task) ∧
    (∀ task ∈ (RunLib.run step (initial limits) actions).tasks,
      task.deliveredCommentIds ⊆ task.planned) ∧
    (∀ front back, actions = front ++ back →
      ∀ task ∈ (RunLib.run step (initial limits) front).tasks, task.startedAt.isSome = true →
        ∀ row ∈ (RunLib.run step (initial limits) actions).tasks, row.id = task.id →
          row.deliveredCommentIds = task.deliveredCommentIds) ∧
    ∀ snapshot tokenHash delivered error,
      finalizeTaskClaim (RunLib.run step (initial limits) actions) snapshot tokenHash delivered =
        .error error →
      step (RunLib.run step (initial limits) actions)
        (.finalizeTaskClaim snapshot tokenHash delivered) =
          RunLib.run step (initial limits) actions := by
  refine ⟨?_, ?_, ?_, ?_, ?_, ?_⟩
  · exact fun snapshot backed => finalizeGuarded_of_commentBacked _ backed
  · intro snapshot tokenHash delivered next receipt unbacked done
    simp only [finalizeTaskClaim, unbacked, bind, Except.bind] at done
    split at done
    · contradiction
    · rename_i tokened creating
      simp only [Bool.false_eq_true, if_false, Except.ok.injEq, Prod.mk.injEq] at done
      rw [← done.1, createTaskToken_ok creating]
  · exact fun snapshot next row done => requeueTaskAfterClaimFailure_ok done
  · exact (reachable_receipts limits actions).within
  · rintro front back rfl task member started row listed same
    have reached := (reachable_receipts limits front).toWellFormed
    have delivered : Delivered task.id task.deliveredCommentIds
        (RunLib.run step (initial limits) front) := by
      refine ⟨reached.fresh task member, fun other otherMember otherId => ?_⟩
      rw [List.inj_on_of_nodup_map reached.unique otherMember member otherId]
      exact ⟨started, rfl⟩
    rw [RunLib.run_append] at listed
    exact ((delivered.run reached back).2 row listed same).2
  · intro snapshot tokenHash delivered error failed
    rw [step, failed]
    rfl

def redelivery : List Action :=
  [.createQuickCreateTask plainTask, .beginClaimTask 1, .finishClaimTask 1 [], .elapse 100,
    .reclaimStaleDispatchedTasks [2] [] [0]]

def firstClaim : Task := (Task.forQuickCreate plainTask 0 0).claim 0

theorem finalize_unguarded_redelivery :
    firstClaim ∈ (RunLib.run step (initial fun _ => 1) (redelivery.take 3)).tasks ∧
      ¬ FinalizeGuarded (RunLib.run step (initial fun _ => 1) redelivery) firstClaim := by
  have claimed : (RunLib.run step (initial fun _ => 1) (redelivery.take 3)).tasks = [firstClaim] := rfl
  have redelivered : (RunLib.run step (initial fun _ => 1) redelivery).tasks =
      [firstClaim.claim 100] := rfl
  refine ⟨by rw [claimed]; simp, fun guarded => ?_⟩
  obtain ⟨task, member, -, -, -, generation⟩ := guarded "token" [] _ _ rfl
  rw [redelivered, List.mem_singleton] at member
  subst member
  exact absurd generation (by decide)

end MulticaOS.TaskQueue
